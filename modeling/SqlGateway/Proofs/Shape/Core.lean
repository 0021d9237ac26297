import SqlGateway.Proofs.Shape.Squeeze

/-!
# What the normal form cuts off

The normal form first loses the blanks at both ends and one final semicolon, in whatever order the
blanks are joined.  What is left of a text is its core, and the normal form is the core with its
blanks joined.
-/

namespace SqlGateway.Shape

open Text

/-- A text without the blanks at its ends and without one final semicolon. -/
def core (text : List Char) : List Char :=
  dropSemicolon (trim text)

/-- The semicolon that the normal form cuts off, if the text ends with one. -/
def finalSemicolon (text : List Char) : List Char :=
  if (trim text).getLast? = some ';' then [';'] else []

variable {quote : Option Char} {pending : Bool} {c : Char} {text : List Char}

theorem isBlank_of_getLast?_core (hlast : (core text).getLast? = some c) : isBlank c = false := by
  rw [core, dropSemicolon] at hlast
  split at hlast
  · exact isBlank_of_getLast?_trimEnd hlast
  · exact isBlank_of_getLast?_trimEnd hlast

/-- A trimmed text is its core, or ends in a semicolon with blanks before it. -/
theorem trim_eq_core (text : List Char) :
    ((trim text).getLast? ≠ some ';' ∧ trim text = core text) ∨
      ∃ blanks, (∀ c ∈ blanks, isBlank c = true) ∧ trim text = core text ++ (blanks ++ [';']) := by
  by_cases hsemicolon : (trim text).getLast? = some ';'
  · obtain ⟨before, hbefore⟩ := List.getLast?_eq_some_iff.mp hsemicolon
    obtain ⟨blanks, hsplit, hblanks⟩ := exists_trimEnd_append before
    have hcore : core text = trimEnd before := by
      rw [core, dropSemicolon, if_pos hsemicolon, hbefore, List.dropLast_concat]
    refine .inr ⟨blanks, hblanks, ?_⟩
    rw [hbefore, hcore, ← List.append_assoc, ← hsplit]
  · refine .inl ⟨hsemicolon, ?_⟩
    rw [core, dropSemicolon, if_neg hsemicolon]

theorem isBlank_of_head?_core (hfirst : (core text).head? = some c) : isBlank c = false := by
  refine isBlank_of_head?_trim (?_ : (trim text).head? = some c)
  rcases trim_eq_core text with ⟨-, hcore⟩ | ⟨blanks, -, hcore⟩
  · rw [hcore, hfirst]
  · rw [hcore, List.head?_append, hfirst]
    rfl

/-- Around the core there are only blanks, and the one semicolon among those behind it. -/
theorem exists_core_append (text : List Char) :
    ∃ gap rear,
      text = text.takeWhile isBlank ++ (core text ++ (gap ++ (finalSemicolon text ++ rear))) ∧
      (∀ c ∈ gap, isBlank c = true) ∧ ∀ c ∈ rear, isBlank c = true := by
  have htext : text = text.takeWhile isBlank ++ trimStart text :=
    List.takeWhile_append_dropWhile.symm
  obtain ⟨rear, htrim, hrear⟩ := exists_trimEnd_append (trimStart text)
  change trimStart text = trim text ++ rear at htrim
  rcases trim_eq_core text with ⟨hlast, hcore⟩ | ⟨gap, hgap, hcore⟩
  · have hnone : finalSemicolon text = [] := if_neg hlast
    refine ⟨[], rear, ?_, by simp, hrear⟩
    rw [hnone, List.nil_append, List.nil_append, ← hcore, ← htrim, ← htext]
  · have hlast : (trim text).getLast? = some ';' := by
      rw [hcore, ← List.append_assoc, List.getLast?_concat]
    have hone : finalSemicolon text = [';'] := if_pos hlast
    refine ⟨gap, rear, ?_, hgap, hrear⟩
    rw [hone, ← List.append_assoc gap, ← List.append_assoc (core text), ← hcore, ← htrim, ← htext]

theorem count_semicolon_le {gap rear : List Char} (hgap : ∀ c ∈ gap, isBlank c = true)
    (hrear : ∀ c ∈ rear, isBlank c = true) :
    (gap ++ (finalSemicolon text ++ rear)).count ';' ≤ 1 := by
  have hcount : ∀ {blanks : List Char}, (∀ c ∈ blanks, isBlank c = true) →
      blanks.count ';' = 0 := by
    intro blanks hblanks
    refine List.count_eq_zero.mpr fun hmem => ?_
    exact absurd (hblanks ';' hmem) (by decide)
  have hone : (finalSemicolon text).count ';' ≤ 1 := by
    rw [finalSemicolon]
    split <;> simp
  rw [List.count_append, List.count_append, hcount hgap, hcount hrear]
  omega

/-! ### The core with its blanks joined -/

/-- The first character stays the first if it is not blank. -/
theorem head?_squeeze (hfirst : ∀ c ∈ text.head?, isBlank c = false) :
    (squeeze none false text).head? = text.head? := by
  cases text with
  | nil => rfl
  | cons c text => rw [squeeze_plain (hfirst c rfl), List.head?_cons, List.head?_cons]

/-- The last character stays the last if it is not blank. -/
theorem getLast?_squeeze (hlast : ∀ c ∈ text.getLast?, isBlank c = false) :
    (squeeze quote pending text).getLast? = text.getLast? := by
  cases hc : text.getLast? with
  | none =>
      rw [List.getLast?_eq_none_iff] at hc
      rw [hc]
      rfl
  | some c =>
      obtain ⟨front, rfl⟩ := List.getLast?_eq_some_iff.mp hc
      have hblank := hlast c hc
      have hsingle : ∀ quote pending, (squeeze quote pending [c]).getLast? = some c := by
        intro quote pending
        cases quote with
        | some q => rfl
        | none => cases pending <;> simp [squeeze, hblank]
      rw [squeeze_append, List.getLast?_append, hsingle]
      rfl

/-- Blanks before a semicolon are at most thinned out. -/
theorem squeeze_blanks_semicolon {blanks : List Char} (hblanks : ∀ c ∈ blanks, isBlank c = true)
    (quote : Option Char) (pending : Bool) :
    ∃ thinned, (∀ c ∈ thinned, isBlank c = true) ∧
      squeeze quote pending (blanks ++ [';']) = thinned ++ [';'] := by
  induction blanks generalizing quote pending with
  | nil =>
      cases quote with
      | some q => exact ⟨[], by simp, rfl⟩
      | none =>
          cases pending with
          | false => exact ⟨[], by simp, rfl⟩
          | true => exact ⟨[' '], by simp [isBlank], rfl⟩
  | cons c blanks ih =>
      obtain ⟨hc, hrest⟩ := List.forall_mem_cons.mp hblanks
      cases quote with
      | none =>
          rw [List.cons_append, squeeze_blank hc]
          exact ih hrest none true
      | some q =>
          obtain ⟨thinned, hthinned, hsqueezed⟩ := ih hrest (nextQuote (some q) c) pending
          refine ⟨c :: thinned, List.forall_mem_cons.mpr ⟨hc, hthinned⟩, ?_⟩
          rw [List.cons_append, squeeze_quoted, hsqueezed]
          rfl

/-- The normal form is the core with its blanks joined. -/
theorem normalize_eq_squeeze (text : List Char) :
    normalize text = squeeze none false (core text) := by
  have hcoreLast : ∀ c ∈ (core text).getLast?, isBlank c = false :=
    fun c hc => isBlank_of_getLast?_core hc
  rw [normalize, dropSemicolon]
  rcases trim_eq_core text with ⟨hlast, hcore⟩ | ⟨blanks, hblanks, hcore⟩
  · rw [hcore] at hlast ⊢
    rw [getLast?_squeeze hcoreLast, if_neg hlast]
  · obtain ⟨thinned, hthinned, hsqueezed⟩ := squeeze_blanks_semicolon hblanks
      (quoteAfter none (core text)) (pendingAfter none false (core text))
    have hnormal : squeeze none false (trim text) =
        squeeze none false (core text) ++ thinned ++ [';'] := by
      rw [hcore, squeeze_append, hsqueezed, List.append_assoc]
    have hlast : ∀ c ∈ (squeeze none false (core text)).getLast?, isBlank c = false := by
      rw [getLast?_squeeze hcoreLast]
      exact hcoreLast
    rw [hnormal, List.getLast?_concat, if_pos rfl, List.dropLast_concat,
      trimEnd_append_blanks hthinned hlast]

end SqlGateway.Shape
