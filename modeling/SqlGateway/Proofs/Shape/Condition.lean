import SqlGateway.Proofs.Shape.Fragments

/-!
# Plain conditions

A plain condition is cut into the tokens that state the comparison which the shape reads in it.  An
equality tries its readings of the operand one after the other, any other comparison takes a word
only where no number begins; a plain operand comes out the same either way.
-/

namespace SqlGateway.Shape

open Text Sql Sql.Parser

variable {text left : List Char} {written : List Token} {wordFollows : Bool} {value : Value}
  {op : Operator}

/-! ### Operands -/

/-- One or more digits. -/
structure AreDigits (digits : List Char) : Prop where
  ne_nil : digits ≠ []
  all : ∀ c ∈ digits, c.isDigit = true

/-- Digits, perhaps with a point and more digits behind them. -/
inductive IsDecimal : List Char → Prop
  | whole {digits : List Char} : AreDigits digits → IsDecimal digits
  | fraction {whole digits : List Char} : AreDigits whole → AreDigits digits →
      IsDecimal (whole ++ '.' :: digits)

/-- The number of a condition: at most one minus sign, and digits on either side of the point, if
there is one. -/
inductive IsNumberText : List Char → Prop
  | unsigned {number : List Char} : IsDecimal number → IsNumberText number
  | negative {number : List Char} : IsDecimal number → IsNumberText ('-' :: number)

theorem IsDecimal.isUnsigned {number : List Char} (hnumber : IsDecimal number) :
    IsUnsigned number := by
  cases hnumber with
  | whole hdigits => exact .whole hdigits.ne_nil hdigits.all
  | fraction hwhole hdigits => exact .fraction hwhole.all hdigits.ne_nil hdigits.all

theorem IsNumberText.isNumeral {number : List Char} (hnumber : IsNumberText number) :
    IsNumeral number := by
  cases hnumber with
  | unsigned hdecimal => exact .inl hdecimal.isUnsigned
  | negative hdecimal => exact .inr ⟨_, rfl, hdecimal.isUnsigned⟩

theorem readNumeral?_eq_some {number : List Char}
    (hread : readNumeral? text = some (number, left)) :
    text = number ++ left ∧ IsNumberText number := by
  unfold readNumeral? at hread
  split at hread
  rename_i sign unsigned hsigned
  have hsign : text = sign ++ unsigned ∧ (sign = [] ∨ sign = ['-']) := by
    split at hsigned <;> cases hsigned <;> simp
  have hmagnitude : ∃ magnitude, number = sign ++ magnitude ∧ unsigned = magnitude ++ left ∧
      IsDecimal magnitude := by
    have hsplit : unsigned = unsigned.takeWhile Char.isDigit ++ unsigned.dropWhile Char.isDigit :=
      List.takeWhile_append_dropWhile.symm
    have hdigits : ∀ c ∈ unsigned.takeWhile Char.isDigit, c.isDigit = true :=
      fun c hc => List.mem_takeWhile_imp hc
    generalize unsigned.takeWhile Char.isDigit = whole at hread hsplit hdigits
    generalize unsigned.dropWhile Char.isDigit = behind at hread hsplit
    simp only at hread
    split at hread
    · contradiction
    rename_i hempty
    have hwhole : AreDigits whole := ⟨by simpa using hempty, hdigits⟩
    split at hread
    · rename_i c rest
      split at hread
      · rename_i hc
        cases hread
        refine ⟨whole ++ '.' :: (c :: rest).takeWhile Char.isDigit, by simp, ?_,
          .fraction hwhole ⟨by simp [hc], fun d hd => List.mem_takeWhile_imp hd⟩⟩
        rw [List.append_assoc, List.cons_append, List.takeWhile_append_dropWhile, ← hsplit]
      · cases hread
        exact ⟨whole, rfl, hsplit, .whole hwhole⟩
    · cases hread
      exact ⟨whole, rfl, hsplit, .whole hwhole⟩
  obtain ⟨magnitude, rfl, rfl, hdecimal⟩ := hmagnitude
  rcases hsign with ⟨rfl, rfl | rfl⟩
  · exact ⟨rfl, .unsigned hdecimal⟩
  · exact ⟨rfl, .negative hdecimal⟩

theorem reachesEnd_eq_some {α : Type} {found : Option (α × List Char)} {value : α} :
    reachesEnd found = some value ↔
      ∃ rear, found = some (value, rear) ∧ ∀ c ∈ rear, isGap c = true := by
  cases found with
  | none => simp [reachesEnd]
  | some found =>
      obtain ⟨other, behind⟩ := found
      have hempty : (skipGap behind).isEmpty = true ↔ ∀ c ∈ behind, isGap c = true := by
        rw [List.isEmpty_iff, skipGap, List.dropWhile_eq_nil_iff]
      rw [reachesEnd]
      constructor
      · intro hreaches
        split at hreaches
        · rename_i hrear
          cases hreaches
          exact ⟨behind, rfl, hempty.mp hrear⟩
        · contradiction
      · rintro ⟨rear, heq, hrear⟩
        cases heq
        rw [if_pos (hempty.mpr hrear)]

/-- The reading of the operand behind a sign. -/
def readOperand? (op : Operator) (text : List Char) : Option Value :=
  if op = .eq then readEqualOperand? text else readUnequalOperand? text

/-- Whether a text is read as a value by the first of the three readings that fills it: it is a
string, or else a number, or else a word. -/
def IsFirstReading (text : List Char) (value : Value) : Prop :=
  reachesEnd (readStringValue? text) = some value ∨
    (reachesEnd (readStringValue? text) = none ∧
      (reachesEnd (readNumber? text) = some value ∨
        (reachesEnd (readNumber? text) = none ∧ reachesEnd (readWordValue? text) = some value)))

theorem readEqualOperand?_iff_isFirstReading :
    readEqualOperand? text = some value ↔ IsFirstReading text value := by
  rw [readEqualOperand?, Option.orElse_eq_orElse, Option.orElse_eq_or, Option.or_eq_some_iff,
    Option.orElse_eq_or, Option.or_eq_some_iff, IsFirstReading]

theorem isFirstReading_of_readUnequalOperand? (hread : readUnequalOperand? text = some value) :
    IsFirstReading text value := by
  rw [readUnequalOperand?, Option.orElse_eq_orElse, Option.orElse_eq_or, Option.or_eq_some_iff]
    at hread
  refine hread.imp_right fun ⟨hstring, hrest⟩ => ⟨hstring, ?_⟩
  cases hnumber : readNumber? text with
  | none => exact .inr ⟨rfl, by rwa [hnumber] at hrest⟩
  | some number => exact .inl (by rwa [hnumber] at hrest)

theorem isFirstReading_of_readOperand? (hread : readOperand? op text = some value) :
    IsFirstReading text value := by
  rw [readOperand?] at hread
  split at hread
  · exact readEqualOperand?_iff_isFirstReading.mp hread
  · exact isFirstReading_of_readUnequalOperand? hread

/-- A plain operand is cut into the tokens of its value. -/
theorem exists_operand (hread : readOperand? op text = some value)
    (hplain : isPlainOperand wordFollows text = true) :
    ∃ written, headKeyword written ∉ quantifiers ∧ IsValue wordFollows written value ∧
      Writes text written := by
  have hblank : ∀ {gap : List Char}, (∀ c ∈ gap, isGap c = true) → ∀ c ∈ gap, isBlank c = true :=
    fun hgap c hc => isBlank_of_isGap (hgap c hc)
  rw [isPlainOperand] at hplain
  rcases isFirstReading_of_readOperand? hread with
    hstring | ⟨hstring, hnumber | ⟨hnumber, hword⟩⟩
  · obtain ⟨gap, hfound, hgap⟩ := reachesEnd_eq_some.mp hstring
    obtain ⟨⟨inner, behind⟩, hinner, heq⟩ := Option.map_eq_some_iff.mp hfound
    cases heq
    obtain ⟨quote, hquote, rfl⟩ := readString?_eq_some hinner
    have hwrites := writes_string inner hquote
    exact ⟨_, by simp [headKeyword, quantifiers], .string quote _,
      hwrites.padded (List.forall_mem_nil _) (hblank hgap)⟩
  · obtain ⟨gap, hfound, hgap⟩ := reachesEnd_eq_some.mp hnumber
    rw [hstring, hnumber] at hplain
    rw [readNumber?] at hfound
    split at hfound
    · rename_i number behind hnumeral
      obtain ⟨found, hfoundValue, heq⟩ := Option.map_eq_some_iff.mp hfound
      cases heq
      obtain ⟨rfl, hshape⟩ := readNumeral?_eq_some hnumeral
      obtain ⟨read, hread, hwritten⟩ := exists_numeral wordFollows hshape.isNumeral
      rw [hread] at hfoundValue
      cases hfoundValue
      obtain ⟨written, hhead, hmeaning, hwrites⟩ := hwritten (by simpa using hplain)
      exact ⟨written, by rw [hhead]; decide, hmeaning,
        hwrites.padded (List.forall_mem_nil _) (hblank hgap)⟩
    · contradiction
  · obtain ⟨gap, hfound, hgap⟩ := reachesEnd_eq_some.mp hword
    obtain ⟨⟨word, behind⟩, hinner, heq⟩ := Option.map_eq_some_iff.mp hfound
    cases heq
    obtain ⟨rfl, htake⟩ := readName?_eq_some hinner
    rw [hstring, hnumber, htake] at hplain
    have hname : isNameBut (formWords wordFollows ++ quantifiers) word = true := by
      simpa using hplain
    have hforms := not_mem_of_isNameBut hname
    rw [List.mem_append, not_or] at hforms
    exact ⟨[.word (.bare word)], hforms.2, .word hforms.1,
      (writes_word (isOneWord_of_isNameBut hname)).padded (List.forall_mem_nil _) (hblank hgap)⟩

/-! ### Comparisons -/

/-- The characters that would make the sign of a comparison longer. -/
def signParts : List Char := ['=', '>', '<', '@']

/-- An operand begins with another character. -/
theorem exists_head_of_operand (hread : readOperand? op text = some value) :
    ∃ c rest, text = c :: rest ∧ c ∉ signParts := by
  have hother : ¬(readStringValue? text = none ∧ readNumber? text = none ∧
      readWordValue? text = none) := by
    rintro ⟨hstring, hnumber, hword⟩
    rcases isFirstReading_of_readOperand? hread with h | ⟨-, h | ⟨-, h⟩⟩
    · rw [hstring] at h
      contradiction
    · rw [hnumber] at h
      contradiction
    · rw [hword] at h
      contradiction
  cases text with
  | nil => exact absurd ⟨rfl, rfl, rfl⟩ hother
  | cons c rest =>
      refine ⟨c, rest, rfl, fun hmem => hother ?_⟩
      have hfacts : ∀ c ∈ signParts, isQuote c = false ∧ c ≠ '-' ∧ c.isDigit = false ∧
          isNamePart c = false := by decide
      obtain ⟨hquote, hminus, hdigit, hname⟩ := hfacts c hmem
      simp [readStringValue?, readString?, hquote, readNumber?, readNumeral?, hminus, hdigit,
        readWordValue?, readName?, hname]

theorem exists_sign_of_readInequality? (hread : readInequality? text = some (op, left)) :
    ∃ sign, (sign, op) ∈ operatorSigns ∧ op ≠ .eq ∧ text = sign.toList ++ left := by
  unfold readInequality? at hread
  split at hread
  · cases hread
    exact ⟨"!=", by decide, by decide, rfl⟩
  · cases hread
    exact ⟨"<>", by decide, by decide, rfl⟩
  · cases hread
    exact ⟨">=", by decide, by decide, rfl⟩
  · cases hread
    exact ⟨"<=", by decide, by decide, rfl⟩
  · cases hread
    exact ⟨">", by decide, by decide, rfl⟩
  · cases hread
    exact ⟨"<", by decide, by decide, rfl⟩
  · contradiction

/-- What is read as a comparison is the sign of its operator and the operand behind it. -/
theorem exists_sign (hread : readComparison? text = some (op, value)) :
    ∃ sign, (sign, op) ∈ operatorSigns ∧ text = sign.toList ++ dropSign text ∧
      readOperand? op (skipGap (dropSign text)) = some value := by
  unfold readComparison? at hread
  split at hread
  · rename_i rest
    obtain ⟨found, hfound, heq⟩ := Option.map_eq_some_iff.mp hread
    cases heq
    exact ⟨"=", by decide, rfl, hfound⟩
  · rename_i hequal
    split at hread
    · rename_i other rest hother
      obtain ⟨found, hfound, heq⟩ := Option.map_eq_some_iff.mp hread
      cases heq
      obtain ⟨sign, hsign, hop, hsplit⟩ := exists_sign_of_readInequality? hother
      have hdrop : dropSign text = rest := by
        unfold dropSign
        split
        · exact absurd rfl (hequal _)
        · rw [hother]
          rfl
      rw [hdrop]
      exact ⟨sign, hsign, hsplit, by rwa [readOperand?, if_neg hop]⟩
    · contradiction

/-- A plain condition is cut into the tokens of its comparison. -/
theorem exists_condition {condition : Comparison} (hread : readCondition? text = some condition)
    (hplain : isPlainCondition wordFollows text = true) {marker : Word}
    (hmarker : marker.keyword = "WHERE") :
    ∃ written, IsFilter wordFollows (.word marker :: written) (some (.compare condition)) ∧
      Writes text written := by
  rw [readCondition?] at hread
  rw [isPlainCondition] at hplain
  split at hread
  · contradiction
  rename_i column rest hcolumn
  obtain ⟨⟨op, value⟩, hcomparison, heq⟩ := Option.map_eq_some_iff.mp hread
  cases heq
  rw [hcolumn] at hplain
  obtain ⟨hname, hoperand⟩ := Bool.and_eq_true_iff.mp hplain
  obtain ⟨hsplit, -⟩ := readName?_eq_some hcolumn
  obtain ⟨sign, hsign, hcut, hvalue⟩ := exists_sign hcomparison
  obtain ⟨written, hquantifier, hmeaning, hwrites⟩ := exists_operand hvalue hoperand
  refine ⟨_, isFilter_comparison hmarker (not_mem_of_isNameBut hname) hsign hmeaning hquantifier,
    Writes.of_trim ?_⟩
  have hfacts : ∀ entry ∈ operatorSigns, entry.1 ∈ plainSigns ∧
      (∀ c ∈ entry.1.toList, isBreak c = true) ∧ entry.1.toList ≠ [] ∧
      ∀ c ∈ extenders entry.1, c ∈ signParts ∧ isBlank c = false := by decide
  obtain ⟨hplainSign, hsignBreaks, hne, hextenders⟩ := hfacts _ hsign
  obtain ⟨first, operand, hfirst, hother⟩ := exists_head_of_operand hvalue
  obtain ⟨lead, hlead, hleadBlank⟩ := exists_gap rest
  obtain ⟨gap, hgap, hgapBlank⟩ := exists_gap (dropSign (skipGap rest))
  intro behind tokens hbreaks hreads
  have hoperandReads := Reads.gap hgapBlank (hwrites behind tokens hbreaks hreads)
  -- behind the sign stands a blank or the operand, and neither makes it longer
  have hnotLonger : ∀ c ∈ (gap ++ (skipGap (dropSign (skipGap rest)) ++ behind)).head?,
      c ∉ extenders sign := by
    rw [hfirst]
    intro d hd hmem
    obtain ⟨hpart, hblank⟩ := hextenders d hmem
    cases gap with
    | nil =>
        obtain rfl : first = d := by simpa using hd
        exact hother hpart
    | cons e gap =>
        obtain rfl : e = d := by simpa using hd
        rw [hgapBlank e List.mem_cons_self] at hblank
        contradiction
  have hbreaksSign : Breaks (lead ++ (sign.toList ++ (gap ++
      (skipGap (dropSign (skipGap rest)) ++ behind)))) :=
    breaks_append (fun c hc => isBreak_of_isBlank (hleadBlank c hc))
      (breaks_append_of_ne_nil hsignBreaks hne)
  have hcolumnReads := Reads.word (isOneWord_of_isNameBut hname) hbreaksSign
    (Reads.gap hleadBlank (Reads.sign sign hplainSign hnotLonger hoperandReads))
  have htext : trim text ++ behind = column ++ (lead ++ (sign.toList ++ (gap ++
      (skipGap (dropSign (skipGap rest)) ++ behind)))) := by
    rw [hsplit, ← List.append_assoc gap, ← hgap, ← List.append_assoc sign.toList, ← hcut,
      ← List.append_assoc lead, ← hlead, List.append_assoc]
  rw [htext]
  exact hcolumnReads

end SqlGateway.Shape
