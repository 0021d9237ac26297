import SqlGateway.Proofs.Shape.Segments

/-!
# Single conditions

A condition is all or nothing: it is read from the texts of its grammar, it is read back as what was
written, and with anything behind it that is not blank it is not read at all, so neither a second
condition nor a clause can follow unseen.
-/

namespace SqlGateway.Shape

open Text Sql.Parser

variable {text more operand : List Char} {column : String} {op : Operator} {value : Value}
  {b : Char}

theorem IsConditionText.text_ne_nil (hcondition : IsConditionText text column op operand) :
    text ≠ [] := by
  obtain ⟨hne, -, before, behind, rear, sign, -, -, rfl⟩ := hcondition
  simp [hne]

/-- A text that goes on with a blank and something solid is trimmed behind that. -/
theorem exists_trim_append_more (htext : trim text ≠ []) (hb : isBlank b = true)
    (hmore : ∃ c ∈ more, isBlank c = false) :
    ∃ tail, trim (text ++ b :: more) = trim text ++ tail ∧ AtBlank tail ∧
      ∃ c ∈ tail, isBlank c = false := by
  obtain ⟨c, hc, hsolid⟩ := hmore
  obtain ⟨lead, rear, hsplit, hlead, hrear⟩ := exists_trim_append text
  have hmem : c ∈ rear ++ b :: more := by simp [hc]
  obtain ⟨blanks, hcut, hblanks⟩ := exists_trimEnd_append (rear ++ b :: more)
  have hkept : c ∈ trimEnd (rear ++ b :: more) := by
    rw [hcut] at hmem
    refine (List.mem_append.mp hmem).resolve_right fun hblank => ?_
    rw [hblanks c hblank] at hsolid
    contradiction
  refine ⟨trimEnd (rear ++ b :: more), ?_, ?_, c, hkept, hsolid⟩
  · have hhead : ∀ d ∈ (trim text ++ (rear ++ b :: more)).head?, isBlank d = false := by
      rw [List.head?_append_of_ne_nil _ htext]
      exact fun d hd => isBlank_of_head?_trim hd
    have hwhole : text ++ b :: more = lead ++ (trim text ++ (rear ++ b :: more)) := by
      conv_lhs => rw [hsplit]
      simp only [List.append_assoc]
    rw [hwhole, trim_append_left hlead, trim, trimStart_eq_self hhead,
      trimEnd_append_of_solid ⟨c, hmem, hsolid⟩]
  · intro d hd
    have hhead : (rear ++ b :: more).head? = some d := by
      rw [hcut, List.head?_append, hd]
      rfl
    cases rear with
    | nil =>
        obtain rfl : b = d := by simpa using hhead
        exact hb
    | cons e rear =>
        obtain rfl : e = d := by simpa using hhead
        exact hrear e List.mem_cons_self

/-- Behind a condition nothing more is taken. -/
theorem readCondition?_append_more (hcondition : IsConditionText (trim text) column op operand)
    (hstands : StandsFor operand value) (hb : isBlank b = true)
    (hmore : ∃ c ∈ more, isBlank c = false) : readCondition? (text ++ b :: more) = none := by
  by_contra hread
  obtain ⟨c, hc⟩ := Option.ne_none_iff_exists'.mp hread
  obtain ⟨other, hlonger, hother, -⟩ := readCondition?_eq_some.mp hc
  obtain ⟨tail, htrim, htail, d, hd, hsolid⟩ :=
    exists_trim_append_more hcondition.text_ne_nil hb hmore
  rw [htrim] at hlonger
  rw [isBlank_of_isGap (hcondition.isGap_of_append hstands hlonger hother htail d hd)] at hsolid
  contradiction

/-! ### Quotes -/

theorem openAfter_append_of_unquoted {front rest : List Char}
    (hfront : ∀ c ∈ front, isQuote c = false) :
    openAfter none (front ++ rest) = openAfter none rest := by
  rw [openAfter_append, (outside_of_unquoted hfront).2]

/-- No quote is left open in an operand. -/
theorem StandsFor.openAfter_eq (hstands : StandsFor operand value) :
    openAfter none operand = none := by
  rcases hstands.quoted_or_bare with ⟨quote, content, hquote, rfl⟩ | ⟨-, hbare⟩
  · have hopens : openBehind none quote = some quote := by simp [openBehind, hquote]
    rw [openAfter_cons, hopens, (openAfter_doubled hquote content []).1]
    rfl
  · exact (outside_of_unquoted fun c hc => isQuote_of_isBarePart (hbare c hc)).2

/-- No quote is left open in a condition. -/
theorem IsConditionText.openAfter_eq (hcondition : IsConditionText text column op operand)
    (hstands : StandsFor operand value) : openAfter none text = none := by
  obtain ⟨-, hparts, before, behind, rear, sign, hsign, hgaps, rfl⟩ := hcondition
  have hgap : ∀ c ∈ before ++ (behind ++ rear), isQuote c = false :=
    fun c hc => isQuote_of_isBlank (isBlank_of_isGap (hgaps c hc))
  obtain ⟨hbefore, hgap⟩ := List.forall_mem_append.mp hgap
  obtain ⟨hbehind, hrear⟩ := List.forall_mem_append.mp hgap
  have hsigns : ∀ entry ∈ operatorSigns, ∀ c ∈ entry.1.toList, isQuote c = false := by decide
  rw [openAfter_append_of_unquoted fun c hc =>
      isQuote_of_isBarePart (isBarePart_of_isNamePart (hparts c hc)),
    openAfter_append_of_unquoted hbefore, openAfter_append_of_unquoted (hsigns _ hsign),
    openAfter_append_of_unquoted hbehind, openAfter_append, hstands.openAfter_eq,
    (outside_of_unquoted hrear).2]

/-! ### Conditions -/

/-- A condition is read exactly from the texts of its grammar: a column, a sign, and one operand,
which stands for its value.  Behind another sign than that of an equality, the operand must not be a
word that begins with a digit.  So a comparison is read back from its text, whatever stands in its
strings; behind a condition nothing but blanks may follow; and no quote is left open in it. -/
theorem readCondition?_exact (text : List Char) (c : Comparison) :
    (readCondition? text = some c ↔ ∃ operand,
      IsConditionText (trim text) c.column c.op operand ∧ StandsFor operand c.value ∧
        (c.op = .eq ∨ ¬IsDigitWord operand)) ∧
    (c.IsSingle → readCondition? c.sqlText.toList = some c) ∧
    (∀ column op operand value b more, IsConditionText (trim text) column op operand →
      StandsFor operand value → isBlank b = true → (∃ d ∈ more, isBlank d = false) →
        readCondition? (text ++ b :: more) = none) ∧
    (readCondition? text = some c → openAfter none text = none) := by
  refine ⟨readCondition?_eq_some, readCondition?_of_isSingle,
    fun column op operand value b more hcondition hstands hb hmore =>
      readCondition?_append_more hcondition hstands hb hmore, fun hread => ?_⟩
  obtain ⟨operand, hcondition, hstands, -⟩ := readCondition?_eq_some.mp hread
  obtain ⟨lead, rear, hsplit, hlead, hrear⟩ := exists_trim_append text
  rw [hsplit, openAfter_append_of_unquoted fun c hc => isQuote_of_isBlank (hlead c hc),
    openAfter_append, hcondition.openAfter_eq hstands,
    (outside_of_unquoted fun c hc => isQuote_of_isBlank (hrear c hc)).2]

/-- A name of letters beyond ASCII, and a string with a quote and a word of the language in it. -/
theorem readCondition?_exact_quoted :
    readCondition? "größe >= 'it''s AND so on'".toList =
        some { column := "größe", op := .gte, value := .string "it's AND so on" } ∧
      readCondition? "größe >= 'it''s AND so on' AND b = 1".toList = none ∧
      openAfter none "größe >= 'it''s AND so on'".toList = none := by
  obtain ⟨hgrammar, hwritten, hmore, hclosed⟩ :=
    readCondition?_exact "größe >= 'it''s AND so on'".toList
      { column := "größe", op := .gte, value := .string "it's AND so on" }
  have hread := hwritten ⟨by decide, by decide +kernel, by decide, .inr ⟨_, rfl⟩⟩
  obtain ⟨operand, hcondition, hstands, -⟩ := hgrammar.mp hread
  exact ⟨hread, hmore _ _ operand _ ' ' "AND b = 1".toList hcondition hstands (by decide)
    ⟨'A', by decide, by decide⟩, hclosed hread⟩

/-- A word that begins with a digit is an operand, but only behind the sign of an equality. -/
theorem not_forall_readCondition? : ¬∀ text c, readCondition? text = some c ↔
    ∃ operand, IsConditionText (trim text) c.column c.op operand ∧ StandsFor operand c.value := by
  intro hall
  have hword : ¬IsNumberText "1b".toList := by
    intro hnumber
    exact absurd (readNumeral?_append hnumber (List.forall_mem_nil _)) (by decide)
  have hread := (hall "a > 1b".toList { column := "a", op := .gt, value := .string "1b" }).mpr
    ⟨"1b".toList, ⟨by decide, by decide, [' '], [' '], [], ">", by decide, by decide, by decide⟩,
      .word (by decide) (by decide) hword⟩
  have hnone : readCondition? "a > 1b".toList = none := rfl
  rw [hnone] at hread
  contradiction

end SqlGateway.Shape
