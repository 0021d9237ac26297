import Mathlib.Data.List.Basic
import SqlGateway.Store.Match

/-!
# What patterns match

The expression that is written for a pattern is read back as one piece for each character of the
pattern, between the two anchors.  The anchors leave one place to match at, the whole text, and
there the pieces are met one by one as the characters of the pattern ask (`Fits`).
-/

namespace SqlGateway.Store

variable {same : Char → Char → Bool} {text pattern rest : List Char} {c : Char}

/-! ### Texts that fit a pattern -/

/-- A text fits a pattern, character by character, where `alike` tells which characters a character
of the pattern stands for. -/
inductive Fits (alike : Char → Char → Prop) : List Char → List Char → Prop
  | nil : Fits alike [] []
  /-- Any run of characters. -/
  | run {c : Char} {pattern stretch text : List Char} : c = '%' ∨ c = '*' →
      Fits alike text pattern → Fits alike (stretch ++ text) (c :: pattern)
  /-- Any one character. -/
  | one {d : Char} {pattern text : List Char} : Fits alike text pattern →
      Fits alike (d :: text) ('_' :: pattern)
  /-- A character that stands for itself. -/
  | exact {c d : Char} {pattern text : List Char} : c ∉ ['%', '*', '_'] → alike c d →
      Fits alike text pattern → Fits alike (d :: text) (c :: pattern)

/-! ### The expression of a pattern -/

/-- What stands in an expression for a character of a pattern. -/
def signOf (c : Char) : List Char :=
  (wildcard? c).getD (escaped [c])

/-- The piece that is read for a character of a pattern. -/
def Piece.ofChar (c : Char) : Piece :=
  if c = '%' ∨ c = '*' then .run else if c = '_' then .one else .exact c

theorem escaped_append (front rest : List Char) :
    escaped (front ++ rest) = escaped front ++ escaped rest :=
  List.flatMap_append

/-- It makes no difference where the characters that stand for themselves are escaped. -/
theorem expressionFrom_eq (stretch pattern : List Char) :
    expressionFrom stretch pattern = escaped stretch ++ (pattern.flatMap signOf ++ ['$']) := by
  induction pattern generalizing stretch with
  | nil => rfl
  | cons c pattern ih =>
      rw [expressionFrom, List.flatMap_cons]
      cases hwild : wildcard? c with
      | some wild =>
          have hsign : signOf c = wild := by rw [signOf, hwild, Option.getD_some]
          simp only [ih, hsign, escaped, List.flatMap_nil, List.nil_append, List.append_assoc]
      | none =>
          have hsign : signOf c = escaped [c] := by rw [signOf, hwild, Option.getD_none]
          simp only [ih, hsign, escaped_append, List.append_assoc]

theorem expression_eq (pattern : List Char) :
    expression pattern = '^' :: (pattern.flatMap signOf ++ ['$']) := by
  rw [expression, expressionFrom_eq]
  rfl

theorem signOf_of_run (hc : c = '%' ∨ c = '*') : signOf c = ['.', '*'] := by
  rcases hc with rfl | rfl <;> rfl

theorem signOf_of_plain (hc : c ∉ ['%', '*', '_']) : signOf c = escaped [c] := by
  simp_all [signOf, wildcard?]

/-- No character of a pattern is written as a star. -/
theorem exists_signOf (c : Char) : ∃ d behind, signOf c = d :: behind ∧ d ≠ '*' := by
  by_cases hplain : c ∈ ['%', '*', '_']
  · have hwritten : ∀ c ∈ ['%', '*', '_'], (signOf c).head? = some '.' := by decide
    obtain ⟨behind, hsign⟩ := List.head?_eq_some_iff.mp (hwritten c hplain)
    exact ⟨'.', behind, hsign, by decide⟩
  · rw [signOf_of_plain hplain]
    by_cases hspecial : c ∈ specialChars
    · exact ⟨'\\', [c], by simp [escaped, hspecial], by decide⟩
    · exact ⟨c, [], by simp [escaped, hspecial], by simp_all⟩

theorem head?_flatMap_signOf_ne (pattern : List Char) :
    (pattern.flatMap signOf ++ ['$']).head? ≠ some '*' := by
  cases pattern with
  | nil => decide
  | cons c pattern =>
      obtain ⟨d, behind, hsign, hd⟩ := exists_signOf c
      simpa [hsign] using hd

/-! ### Reading the expression -/

theorem readPieces?_point (hrest : rest.head? ≠ some '*') :
    readPieces? ('.' :: rest) = (readPieces? rest).map (.one :: ·) := by
  cases rest with
  | nil => rfl
  | cons c rest =>
      have hc : c ≠ '*' := by simpa using hrest
      rw [readPieces?]
      simpa using hc

/-- A character that is escaped where it has to be is read as itself. -/
theorem readPieces?_escaped (c : Char) (rest : List Char) :
    readPieces? (escaped [c] ++ rest) = (readPieces? rest).map (.exact c :: ·) := by
  by_cases hspecial : c ∈ specialChars
  · have hescaped : escaped [c] = ['\\', c] := by simp [escaped, hspecial]
    rw [hescaped, List.cons_append, List.singleton_append, readPieces?,
      if_pos (List.contains_iff_mem.mpr hspecial)]
  · have hescaped : escaped [c] = [c] := by simp [escaped, hspecial]
    have hsyntax : c ∉ syntaxChars := by
      have hsub : ∀ d ∈ syntaxChars, d ∈ specialChars := by decide
      exact fun h => hspecial (hsub c h)
    rw [hescaped, List.singleton_append, readPieces?]
    · rw [if_neg (by simpa using hsyntax)]
    -- the other readings ask for one of the characters with a meaning of their own
    all_goals
      intros
      subst_vars
      exact hsyntax (by decide)

theorem readPieces?_flatMap_signOf (pattern : List Char) :
    readPieces? (pattern.flatMap signOf ++ ['$']) = some (pattern.map Piece.ofChar ++ [.stop]) := by
  induction pattern with
  | nil => rfl
  | cons c pattern ih =>
      have hread : readPieces? (signOf c ++ (pattern.flatMap signOf ++ ['$'])) =
          (readPieces? (pattern.flatMap signOf ++ ['$'])).map (Piece.ofChar c :: ·) := by
        by_cases hrun : c = '%' ∨ c = '*'
        · rw [signOf_of_run hrun, Piece.ofChar, if_pos hrun]
          rfl
        by_cases hone : c = '_'
        · subst hone
          exact readPieces?_point (head?_flatMap_signOf_ne pattern)
        · rw [signOf_of_plain (by simp_all), readPieces?_escaped, Piece.ofChar, if_neg hrun,
            if_neg hone]
      rw [List.flatMap_cons, List.append_assoc, hread, ih]
      rfl

/-- The expression of a pattern can always be read. -/
theorem readPieces?_expression (pattern : List Char) :
    readPieces? (expression pattern) =
      some (.start :: (pattern.map Piece.ofChar ++ [.stop])) := by
  rw [expression_eq, readPieces?, readPieces?_flatMap_signOf]
  rfl

/-! ### Matching the pieces -/

theorem holdsBehind_iff {test : Bool → List Char → Bool} {atStart : Bool} :
    holdsBehind test atStart text = true ↔
      ∃ stretch rest, text = stretch ++ rest ∧
        test (atStart && stretch.isEmpty) rest = true := by
  induction text generalizing atStart with
  | nil => simp [holdsBehind]
  | cons c text ih =>
      rw [holdsBehind, Bool.or_eq_true, ih]
      constructor
      · rintro (hhere | ⟨stretch, rest, rfl, hbehind⟩)
        · exact ⟨[], c :: text, rfl, by simpa using hhere⟩
        · exact ⟨c :: stretch, rest, rfl, by simpa using hbehind⟩
      · rintro ⟨stretch, rest, hsplit, hbehind⟩
        cases stretch with
        | nil =>
            obtain rfl : c :: text = rest := hsplit
            exact .inl (by simpa using hbehind)
        | cons d stretch =>
            obtain ⟨rfl, rfl⟩ := List.cons.inj hsplit
            exact .inr ⟨stretch, rest, rfl, by simpa using hbehind⟩

/-- An expression that asks for the start matches there or nowhere. -/
theorem matchesSomewhere_start (pieces : List Piece) :
    matchesSomewhere same (.start :: pieces) text = matchesFront same pieces true text := by
  rw [Bool.eq_iff_iff, matchesSomewhere, holdsBehind_iff]
  simp only [matchesFront, Bool.true_and, Bool.and_eq_true, List.isEmpty_iff]
  constructor
  · rintro ⟨stretch, rest, rfl, rfl, hmatch⟩
    exact hmatch
  · intro hmatch
    exact ⟨[], text, rfl, rfl, hmatch⟩

/-- The pieces of a pattern match a text up to its end exactly if the text fits the pattern. -/
theorem matchesFront_iff {atStart : Bool} :
    matchesFront same (pattern.map Piece.ofChar ++ [.stop]) atStart text = true ↔
      Fits (fun c d => same c d = true) text pattern := by
  induction pattern generalizing text atStart with
  | nil =>
      simp only [List.map_nil, List.nil_append, matchesFront, Bool.and_true, List.isEmpty_iff]
      constructor
      · rintro rfl
        exact .nil
      · rintro ⟨⟩
        rfl
  | cons c pattern ih =>
      rw [List.map_cons, List.cons_append]
      by_cases hrun : c = '%' ∨ c = '*'
      · have hnot : c ≠ '_' ∧ c ∈ ['%', '*', '_'] := by rcases hrun with rfl | rfl <;> decide
        simp only [Piece.ofChar, if_pos hrun, matchesFront, holdsBehind_iff, ih]
        constructor
        · rintro ⟨stretch, rest, rfl, hfits⟩
          exact .run hrun hfits
        · intro hfits
          cases hfits with
          | run _ hfits => exact ⟨_, _, rfl, hfits⟩
          | one _ => exact absurd rfl hnot.1
          | exact hplain _ _ => exact absurd hnot.2 hplain
      by_cases hone : c = '_'
      · subst hone
        have hpiece : Piece.ofChar '_' = .one := rfl
        rw [hpiece]
        constructor
        · intro hmatch
          cases text with
          | nil => contradiction
          | cons d text => exact .one (ih.mp hmatch)
        · intro hfits
          cases hfits with
          | run h _ => exact absurd h hrun
          | one hfits => exact ih.mpr hfits
          | exact hplain _ _ => exact absurd (by decide) hplain
      · have hplain : c ∉ ['%', '*', '_'] := by simp_all
        simp only [Piece.ofChar, if_neg hrun, if_neg hone]
        constructor
        · intro hmatch
          cases text with
          | nil => contradiction
          | cons d text =>
              obtain ⟨hsame, hmatch⟩ := Bool.and_eq_true_iff.mp hmatch
              exact .exact hplain hsame (ih.mp hmatch)
        · intro hfits
          cases hfits with
          | run h _ => exact absurd h hrun
          | one _ => exact absurd rfl hone
          | exact _ hsame hfits => exact Bool.and_eq_true_iff.mpr ⟨hsame, ih.mpr hfits⟩

/-! ### Patterns -/

/-- A text matches a pattern exactly if all of it fits the pattern, character by character: without
regard to case two characters are alike that fold to the same character. -/
theorem isLikeValue_iff_fits (text pattern : String) :
    (isLikeValue false (.string text) (.string pattern) = true ↔
      Fits (fun c d => c = d) text.toList pattern.toList) ∧
    (isLikeValue true (.string text) (.string pattern) = true ↔
      Fits (fun c d => Text.fold c = Text.fold d) text.toList pattern.toList) := by
  have hpieces : ∀ caseless, isLikeValue caseless (.string text) (.string pattern) = true ↔
      Fits (fun c d => (if caseless then Text.sameFold c d else c == d) = true) text.toList
        pattern.toList := by
    intro caseless
    rw [isLikeValue, isLike, readPieces?_expression]
    simp only [matchesSomewhere_start, matchesFront_iff]
  constructor
  · simpa using hpieces false
  · simpa [Text.sameFold] using hpieces true

/-- A text over two lines with characters that have a meaning in expressions. -/
example : isLike false "a\n(b+)".toList "a%(_+)".toList = true := by decide

end SqlGateway.Store
