import SqlGateway.Proofs.Shape.Condition

/-!
# The grammar of a condition

A condition is a column, a sign and one operand, with gaps between them.  The reader tries its
readings of the operand one after the other, although they overlap: digits make a word as well as a
number.  What makes the order of no account is that an operand without quotes holds no blank, so
that a text which ends behind the operand can be cut in one way only (`StandsFor.append_inj`).

The order does count in one place.  Behind any sign but that of an equality the reader settles for a
number before it looks whether the text ends there, and so refuses a word that begins with a digit.
-/

namespace SqlGateway.Shape

open Text Sql.Parser

variable {text operand rest rear left word number : List Char} {column : String} {value : Value}
  {op : Operator}

/-! ### Operands -/

/-- An operand and the value that it stands for: a quoted literal, a number, or a word that is no
number. -/
inductive StandsFor : List Char → Value → Prop
  | quoted {quote : Char} (content : List Char) : isQuote quote = true →
      StandsFor (quote :: (doubled quote content ++ [quote])) (.string (String.ofList content))
  | number {number : List Char} {value : Value} : IsNumberText number →
      Value.ofNumeral? number = some value → StandsFor number value
  | word {word : List Char} : word ≠ [] → (∀ c ∈ word, isNamePart c = true) →
      ¬IsNumberText word → StandsFor word (.string (String.ofList word))

/-- A word that begins with a digit and is no number. -/
structure IsDigitWord (word : List Char) : Prop where
  head : ∃ c ∈ word.head?, c.isDigit = true
  parts : ∀ c ∈ word, isNamePart c = true
  not_number : ¬IsNumberText word

/-- A text is an operand, apart from a gap behind it. -/
def EndsBehind (operand text : List Char) : Prop :=
  ∃ rear, text = operand ++ rear ∧ ∀ c ∈ rear, isGap c = true

/-- Whether a character may stand in an operand without quotes. -/
def isBarePart (c : Char) : Bool :=
  isNamePart c || c == '-' || c == '.'

theorem isBlank_of_isBarePart {c : Char} (hc : isBarePart c = true) : isBlank c = false := by
  cases hblank : isBlank c with
  | false => rfl
  | true =>
      have hother : isBarePart c = false :=
        forall_blank (p := fun c => isBarePart c = false) (by decide +kernel) hblank
      rw [hc] at hother
      contradiction

theorem isBarePart_of_isNamePart {c : Char} (hc : isNamePart c = true) : isBarePart c = true := by
  simp [isBarePart, hc]

theorem isNamePart_of_isDigit {c : Char} (hc : c.isDigit = true) : isNamePart c = true :=
  forall_ascii (p := fun c => c.isDigit = true → isNamePart c = true) (by decide +kernel)
    (toNat_lt_of_isAlphanum (by simp [Char.isAlphanum, hc])) hc

/-- No part of a sign stands in an operand without quotes. -/
theorem not_mem_of_isBarePart {c : Char} (hc : isBarePart c = true) : c ∉ '!' :: signParts := by
  intro hmem
  have hother : ∀ c ∈ '!' :: signParts, isBarePart c = false := by decide
  rw [hother c hmem] at hc
  contradiction

theorem isQuote_of_isBarePart {c : Char} (hc : isBarePart c = true) : isQuote c = false := by
  cases hquote : isQuote c with
  | false => rfl
  | true =>
      have hother := of_isQuote (p := fun c => isBarePart c = false) (by decide) (by decide) hquote
      rw [hc] at hother
      contradiction

theorem IsDecimal.forall_bare (hnumber : IsDecimal number) : ∀ c ∈ number, isBarePart c = true := by
  have hdigits : ∀ {digits : List Char}, AreDigits digits → ∀ c ∈ digits, isBarePart c = true :=
    fun hdigits c hc => isBarePart_of_isNamePart (isNamePart_of_isDigit (hdigits.all c hc))
  cases hnumber with
  | whole hwhole => exact hdigits hwhole
  | fraction hwhole hfraction =>
      exact List.forall_mem_append.mpr
        ⟨hdigits hwhole, List.forall_mem_cons.mpr ⟨by decide, hdigits hfraction⟩⟩

theorem IsNumberText.forall_bare (hnumber : IsNumberText number) :
    ∀ c ∈ number, isBarePart c = true := by
  cases hnumber with
  | unsigned hdecimal => exact hdecimal.forall_bare
  | negative hdecimal => exact List.forall_mem_cons.mpr ⟨by decide, hdecimal.forall_bare⟩

theorem IsDecimal.exists_head (hnumber : IsDecimal number) :
    ∃ c rest, number = c :: rest ∧ c.isDigit = true := by
  have hdigits : ∀ {digits : List Char}, AreDigits digits →
      ∃ c rest, digits = c :: rest ∧ c.isDigit = true := by
    intro digits hdigits
    cases digits with
    | nil => exact absurd rfl hdigits.ne_nil
    | cons c rest => exact ⟨c, rest, rfl, hdigits.all c List.mem_cons_self⟩
  cases hnumber with
  | whole hwhole => exact hdigits hwhole
  | fraction hwhole _ =>
      obtain ⟨c, rest, rfl, hc⟩ := hdigits hwhole
      exact ⟨c, _, rfl, hc⟩

theorem IsNumberText.ne_nil (hnumber : IsNumberText number) : number ≠ [] := by
  cases hnumber with
  | unsigned hdecimal =>
      obtain ⟨c, rest, rfl, -⟩ := hdecimal.exists_head
      exact List.cons_ne_nil _ _
  | negative _ => exact List.cons_ne_nil _ _

/-- An operand has quotes around it, or only bare characters in it. -/
theorem StandsFor.quoted_or_bare (hstands : StandsFor operand value) :
    (∃ quote content, isQuote quote = true ∧ operand = quote :: (doubled quote content ++ [quote])) ∨
      (operand ≠ [] ∧ ∀ c ∈ operand, isBarePart c = true) := by
  cases hstands with
  | quoted content hquote => exact .inl ⟨_, content, hquote, rfl⟩
  | number hnumber _ => exact .inr ⟨hnumber.ne_nil, hnumber.forall_bare⟩
  | word hne hparts _ =>
      exact .inr ⟨hne, fun c hc => isBarePart_of_isNamePart (hparts c hc)⟩

/-- An operand begins with a character that makes no sign longer and is no gap. -/
theorem StandsFor.exists_head (hstands : StandsFor operand value) :
    ∃ c rest, operand = c :: rest ∧ isBlank c = false ∧ c ∉ '!' :: signParts := by
  rcases hstands.quoted_or_bare with ⟨quote, content, hquote, rfl⟩ | ⟨hne, hbare⟩
  · exact ⟨quote, _, rfl, isBlank_of_isQuote hquote,
      of_isQuote (p := fun c => c ∉ '!' :: signParts) (by decide) (by decide) hquote⟩
  · cases operand with
    | nil => exact absurd rfl hne
    | cons c rest =>
        have hc := hbare c List.mem_cons_self
        exact ⟨c, rest, rfl, isBlank_of_isBarePart hc, not_mem_of_isBarePart hc⟩

/-- Whether a text is empty or begins with a blank. -/
def AtBlank (text : List Char) : Prop :=
  ∀ c ∈ text.head?, isBlank c = true

theorem atBlank_of_gap (hrear : ∀ c ∈ rear, isGap c = true) : AtBlank rear :=
  fun c hc => isBlank_of_isGap (hrear c (List.mem_of_mem_head? hc))

theorem AtBlank.stopsAt (hblank : AtBlank rest) {test : Char → Bool}
    (htest : ∀ c, test c = true → isBlank c = false) : StopsAt test rest := by
  intro c hc
  cases hpasses : test c with
  | false => rfl
  | true =>
      have hsolid := htest c hpasses
      rw [hblank c hc] at hsolid
      contradiction

/-- A text that goes on with a blank behind an operand does so behind no other one. -/
theorem StandsFor.append_inj {other behind : List Char} {otherValue : Value}
    (hstands : StandsFor operand value) (hother : StandsFor other otherValue)
    (hrest : AtBlank rest) (hbehind : AtBlank behind) (heq : operand ++ rest = other ++ behind) :
    operand = other ∧ rest = behind := by
  -- a quoted operand begins with a quote, a bare one does not
  have hdiffer : ∀ {bare front rest behind : List Char} {quote : Char}, isQuote quote = true →
      bare ≠ [] → (∀ c ∈ bare, isBarePart c = true) → bare ++ rest ≠ quote :: front ++ behind := by
    intro bare front rest behind quote hquote hne hbare heq
    cases bare with
    | nil => exact absurd rfl hne
    | cons c bare =>
        obtain rfl : c = quote := List.head_eq_of_cons_eq heq
        rw [isQuote_of_isBarePart (hbare c List.mem_cons_self)] at hquote
        contradiction
  rcases hstands.quoted_or_bare with ⟨quote, content, hquote, rfl⟩ | ⟨hne, hbare⟩
  · rcases hother.quoted_or_bare with ⟨quote', content', hquote', rfl⟩ | ⟨hne', hbare'⟩
    · have hnext : ∀ {rest : List Char}, AtBlank rest → rest.head? ≠ some quote := by
        intro rest hblank hhead
        have hquoteBlank := hblank quote hhead
        rw [isBlank_of_isQuote hquote] at hquoteBlank
        contradiction
      simp only [List.cons_append, List.append_assoc, List.nil_append, List.cons.injEq] at heq
      obtain ⟨rfl, heq⟩ := heq
      have hread : readQuoted? quote (doubled quote content ++ quote :: rest) =
          some (content, rest) := readQuoted?_doubled (hnext hrest)
      rw [heq, readQuoted?_doubled (hnext hbehind)] at hread
      cases hread
      exact ⟨rfl, rfl⟩
    · exact absurd heq.symm (hdiffer hquote hne' hbare')
  · rcases hother.quoted_or_bare with ⟨quote, content, hquote, rfl⟩ | ⟨-, hbare'⟩
    · exact absurd heq (hdiffer hquote hne hbare)
    · exact append_inj_of_stopsAt hbare (hrest.stopsAt fun _ => isBlank_of_isBarePart) hbare'
        (hbehind.stopsAt fun _ => isBlank_of_isBarePart) heq

theorem EndsBehind.unique {other : List Char} {otherValue : Value}
    (hends : EndsBehind operand text) (hstands : StandsFor operand value)
    (hotherEnds : EndsBehind other text) (hother : StandsFor other otherValue) :
    operand = other := by
  obtain ⟨rear, rfl, hrear⟩ := hends
  obtain ⟨behind, heq, hbehind⟩ := hotherEnds
  exact (hstands.append_inj hother (atBlank_of_gap hrear) (atBlank_of_gap hbehind) heq).1

/-! ### The three readings -/

theorem stopsAt_digit_of_gap (hrear : ∀ c ∈ rear, isGap c = true) : StopsAt Char.isDigit rear :=
  (atBlank_of_gap hrear).stopsAt fun _ hc =>
    isBlank_of_isBarePart (isBarePart_of_isNamePart (isNamePart_of_isDigit hc))

theorem readNumeral?_decimal (hnumber : IsDecimal number) (hrear : ∀ c ∈ rear, isGap c = true) :
    readNumeral? (number ++ rear) = some (number, rear) ∧
      readNumeral? ('-' :: (number ++ rear)) = some ('-' :: number, rear) := by
  have hunsigned : ∀ rest, number ++ rear ≠ '-' :: rest := by
    obtain ⟨c, front, rfl, hc⟩ := hnumber.exists_head
    rintro rest ⟨⟩
    contradiction
  have hstops := stopsAt_digit_of_gap hrear
  cases hnumber with
  | whole hwhole =>
      have hpoint : ∀ c rest, rear ≠ '.' :: c :: rest := by
        rintro c rest rfl
        exact absurd (hrear '.' List.mem_cons_self) (by decide)
      simp [readNumeral?, takeWhile_append_of_stopsAt hwhole.all hstops,
        dropWhile_append_of_stopsAt hwhole.all hstops, hwhole.ne_nil]
  | @fraction whole digits hwhole hdigits =>
      have hpoint : StopsAt Char.isDigit ('.' :: (digits ++ rear)) := stopsAt_cons.mpr (by decide)
      obtain ⟨c, rest, hhead, hc⟩ := (IsDecimal.whole hdigits).exists_head
      have hfraction : digits ++ rear = c :: (rest ++ rear) := by rw [hhead, List.cons_append]
      have htake : (c :: (rest ++ rear)).takeWhile Char.isDigit = digits := by
        rw [← hfraction, takeWhile_append_of_stopsAt hdigits.all hstops]
      have hdrop : (c :: (rest ++ rear)).dropWhile Char.isDigit = rear := by
        rw [← hfraction, dropWhile_append_of_stopsAt hdigits.all hstops]
      rw [hfraction] at hpoint
      rw [List.append_assoc, List.cons_append, hfraction] at hunsigned ⊢
      simp [readNumeral?, takeWhile_append_of_stopsAt hwhole.all hpoint,
        dropWhile_append_of_stopsAt hwhole.all hpoint, hwhole.ne_nil, hc, htake, hdrop]

/-- A number is read as a whole where a gap follows it. -/
theorem readNumeral?_append (hnumber : IsNumberText number) (hrear : ∀ c ∈ rear, isGap c = true) :
    readNumeral? (number ++ rear) = some (number, rear) := by
  cases hnumber with
  | unsigned hdecimal => exact (readNumeral?_decimal hdecimal hrear).1
  | negative hdecimal => exact (readNumeral?_decimal hdecimal hrear).2

theorem exists_ofNumeral?_of_isNumberText (hnumber : IsNumberText number) :
    ∃ value, Value.ofNumeral? number = some value := by
  obtain ⟨value, hvalue, -⟩ := exists_numeral false hnumber.isNumeral
  exact ⟨value, hvalue⟩

/-- Where a digit begins a text, a number does. -/
theorem exists_readNumber?_of_isDigit {c : Char} (hc : c.isDigit = true) (rest : List Char) :
    ∃ found, readNumber? (c :: rest) = some found := by
  have hunsigned : ∀ further, c :: rest ≠ '-' :: further := by
    rintro further ⟨⟩
    contradiction
  obtain ⟨⟨number, left⟩, hnumeral⟩ : ∃ found, readNumeral? (c :: rest) = some found := by
    have hwhole : (c :: rest).takeWhile Char.isDigit ≠ [] := by simp [hc]
    simp only [readNumeral?, List.isEmpty_iff, hwhole, if_false]
    split
    · split
      · exact ⟨_, rfl⟩
      · exact ⟨_, rfl⟩
    · exact ⟨_, rfl⟩
  obtain ⟨-, hnumber⟩ := readNumeral?_eq_some hnumeral
  obtain ⟨value, hvalue⟩ := exists_ofNumeral?_of_isNumberText hnumber
  exact ⟨(value, left), by simp only [readNumber?, hnumeral, hvalue, Option.map_some]⟩

theorem readNumber?_eq_none (hhead : ∀ c ∈ text.head?, c ≠ '-' ∧ c.isDigit = false) :
    readNumber? text = none := by
  cases text with
  | nil => rfl
  | cons c rest =>
      obtain ⟨hminus, hdigit⟩ := hhead c rfl
      have hnumeral : readNumeral? (c :: rest) = none := by
        simp [readNumeral?, hminus, hdigit]
      rw [readNumber?, hnumeral]

/-- A text is read as a string exactly if it is a quoted literal. -/
theorem reachesEnd_readStringValue? : reachesEnd (readStringValue? text) = some value ↔
    ∃ quote content, isQuote quote = true ∧
      EndsBehind (quote :: (doubled quote content ++ [quote])) text ∧
        value = .string (String.ofList content) := by
  rw [reachesEnd_eq_some]
  constructor
  · rintro ⟨rear, hread, hrear⟩
    obtain ⟨⟨content, behind⟩, hstring, heq⟩ := Option.map_eq_some_iff.mp hread
    cases heq
    obtain ⟨quote, hquote, hsplit⟩ := readString?_eq_some hstring
    exact ⟨quote, content, hquote, ⟨rear, hsplit, hrear⟩, rfl⟩
  · rintro ⟨quote, content, hquote, ⟨rear, rfl, hrear⟩, rfl⟩
    have hnext : rear.head? ≠ some quote := by
      intro hhead
      have hblank := atBlank_of_gap hrear quote hhead
      rw [isBlank_of_isQuote hquote] at hblank
      contradiction
    refine ⟨rear, ?_, hrear⟩
    rw [List.cons_append, List.append_assoc, readStringValue?, readString?, if_pos hquote]
    rw [List.singleton_append, readQuoted?_doubled hnext, Option.map_some]

/-- A text is read as a number exactly if it is one. -/
theorem reachesEnd_readNumber? : reachesEnd (readNumber? text) = some value ↔
    ∃ number, IsNumberText number ∧ Value.ofNumeral? number = some value ∧
      EndsBehind number text := by
  rw [reachesEnd_eq_some]
  constructor
  · rintro ⟨rear, hread, hrear⟩
    rw [readNumber?] at hread
    split at hread
    · rename_i number behind hnumeral
      obtain ⟨found, hvalue, heq⟩ := Option.map_eq_some_iff.mp hread
      cases heq
      obtain ⟨hsplit, hnumber⟩ := readNumeral?_eq_some hnumeral
      exact ⟨number, hnumber, hvalue, rear, hsplit, hrear⟩
    · contradiction
  · rintro ⟨number, hnumber, hvalue, rear, rfl, hrear⟩
    refine ⟨rear, ?_, hrear⟩
    simp only [readNumber?, readNumeral?_append hnumber hrear, hvalue, Option.map_some]

/-- What is not read as a number is none. -/
theorem not_isNumberText (hnone : reachesEnd (readNumber? text) = none)
    (hends : EndsBehind word text) : ¬IsNumberText word := by
  intro hnumber
  obtain ⟨value, hvalue⟩ := exists_ofNumeral?_of_isNumberText hnumber
  rw [reachesEnd_readNumber?.mpr ⟨word, hnumber, hvalue, hends⟩] at hnone
  contradiction

/-- A text is read as a word exactly if it is one. -/
theorem reachesEnd_readWordValue? : reachesEnd (readWordValue? text) = some value ↔
    ∃ word, word ≠ [] ∧ (∀ c ∈ word, isNamePart c = true) ∧ EndsBehind word text ∧
      value = .string (String.ofList word) := by
  rw [reachesEnd_eq_some]
  constructor
  · rintro ⟨rear, hread, hrear⟩
    obtain ⟨⟨word, behind⟩, hword, heq⟩ := Option.map_eq_some_iff.mp hread
    cases heq
    obtain ⟨rfl, hne, hparts, -⟩ := readName?_eq_some_iff.mp hword
    exact ⟨word, hne, hparts, ⟨rear, rfl, hrear⟩, rfl⟩
  · rintro ⟨word, hne, hparts, ⟨rear, rfl, hrear⟩, rfl⟩
    have hstops : StopsAt isNamePart rear := (atBlank_of_gap hrear).stopsAt fun _ hc =>
      isBlank_of_isBarePart (isBarePart_of_isNamePart hc)
    refine ⟨rear, ?_, hrear⟩
    rw [readWordValue?, readName?_eq_some_iff.mpr ⟨rfl, hne, hparts, hstops⟩, Option.map_some]

/-- An operand is read as its value, by the first of the readings that fits. -/
theorem StandsFor.isFirstReading (hstands : StandsFor operand value)
    (hends : EndsBehind operand text) : IsFirstReading text value := by
  have hstring : (∀ c ∈ operand, isBarePart c = true) →
      reachesEnd (readStringValue? text) = none := by
    intro hbare
    by_contra hother
    obtain ⟨other, hread⟩ := Option.ne_none_iff_exists'.mp hother
    obtain ⟨quote, content, hquote, hliteral, -⟩ := reachesEnd_readStringValue?.mp hread
    obtain rfl := hends.unique hstands hliteral (.quoted content hquote)
    rw [isQuote_of_isBarePart (hbare quote List.mem_cons_self)] at hquote
    contradiction
  cases hstands with
  | quoted content hquote =>
      exact .inl (reachesEnd_readStringValue?.mpr ⟨_, content, hquote, hends, rfl⟩)
  | number hnumber hvalue =>
      exact .inr ⟨hstring hnumber.forall_bare,
        .inl (reachesEnd_readNumber?.mpr ⟨operand, hnumber, hvalue, hends⟩)⟩
  | word hne hparts hword =>
      refine .inr ⟨hstring fun c hc => isBarePart_of_isNamePart (hparts c hc), .inr ⟨?_,
        reachesEnd_readWordValue?.mpr ⟨operand, hne, hparts, hends, rfl⟩⟩⟩
      by_contra hother
      obtain ⟨other, hread⟩ := Option.ne_none_iff_exists'.mp hother
      obtain ⟨number, hnumber, hvalue, hnumberEnds⟩ := reachesEnd_readNumber?.mp hread
      obtain rfl := hends.unique (.word hne hparts hword) hnumberEnds (.number hnumber hvalue)
      exact hword hnumber

/-- What is read as an operand is one. -/
theorem IsFirstReading.exists_standsFor (hread : IsFirstReading text value) :
    ∃ operand, EndsBehind operand text ∧ StandsFor operand value := by
  rcases hread with hstring | ⟨-, hnumber | ⟨hnumber, hword⟩⟩
  · obtain ⟨quote, content, hquote, hends, rfl⟩ := reachesEnd_readStringValue?.mp hstring
    exact ⟨_, hends, .quoted content hquote⟩
  · obtain ⟨number, hnumber, hvalue, hends⟩ := reachesEnd_readNumber?.mp hnumber
    exact ⟨number, hends, .number hnumber hvalue⟩
  · obtain ⟨word, hne, hparts, hends, rfl⟩ := reachesEnd_readWordValue?.mp hword
    exact ⟨word, hends, .word hne hparts (not_isNumberText hnumber hends)⟩

/-- The operand of an equality may be any. -/
theorem readEqualOperand?_eq_some : readEqualOperand? text = some value ↔
    ∃ operand, EndsBehind operand text ∧ StandsFor operand value := by
  rw [readEqualOperand?_iff_isFirstReading]
  exact ⟨IsFirstReading.exists_standsFor,
    fun ⟨_, hends, hstands⟩ => hstands.isFirstReading hends⟩

/-- The operand of any other comparison is no word that begins with a digit. -/
theorem readUnequalOperand?_eq_some : readUnequalOperand? text = some value ↔
    ∃ operand, EndsBehind operand text ∧ StandsFor operand value ∧ ¬IsDigitWord operand := by
  constructor
  · intro hread
    obtain ⟨operand, hends, hstands⟩ :=
      (isFirstReading_of_readUnequalOperand? hread).exists_standsFor
    refine ⟨operand, hends, hstands, fun hdigit => ?_⟩
    -- the number at the front of such a word is read, but does not fill the text
    obtain ⟨c, hhead, hc⟩ := hdigit.head
    obtain ⟨front, rfl⟩ := List.head?_eq_some_iff.mp hhead
    obtain ⟨rear, rfl, -⟩ := id hends
    obtain ⟨found, hfound⟩ := exists_readNumber?_of_isDigit hc (front ++ rear)
    have hquote : isQuote c = false :=
      isQuote_of_isBarePart (isBarePart_of_isNamePart (isNamePart_of_isDigit hc))
    have hstring : readStringValue? (c :: (front ++ rear)) = none := by
      simp [readStringValue?, readString?, hquote]
    have hnumber : reachesEnd (readNumber? (c :: (front ++ rear))) = some value := by
      rw [List.cons_append, readUnequalOperand?, hstring, hfound] at hread
      rwa [hfound]
    obtain ⟨number, hnumber, hvalue, hnumberEnds⟩ := reachesEnd_readNumber?.mp hnumber
    have hsame := hends.unique hstands hnumberEnds (.number hnumber hvalue)
    exact hdigit.not_number (hsame ▸ hnumber)
  · rintro ⟨operand, hends, hstands, hdigit⟩
    rw [readUnequalOperand?, Option.orElse_eq_orElse, Option.orElse_eq_or, Option.or_eq_some_iff]
    refine Or.imp_right (And.imp_right fun hrest => ?_) (hstands.isFirstReading hends)
    rcases hrest with hnumber | ⟨hnumber, hword⟩
    · obtain ⟨rear, hfound, -⟩ := reachesEnd_eq_some.mp hnumber
      rw [hfound] at hnumber ⊢
      exact hnumber
    · obtain ⟨word, hne, hparts, hwordEnds, rfl⟩ := reachesEnd_readWordValue?.mp hword
      have hother := not_isNumberText hnumber hwordEnds
      obtain rfl := hends.unique hstands hwordEnds (.word hne hparts hother)
      have hnone : readNumber? text = none := by
        obtain ⟨rear, rfl, -⟩ := hwordEnds
        refine readNumber?_eq_none fun c hc => ?_
        rw [List.head?_append_of_ne_nil _ hne] at hc
        refine ⟨?_, Bool.eq_false_iff.mpr fun hc' => hdigit ⟨⟨c, hc, hc'⟩, hparts, hother⟩⟩
        rintro rfl
        exact absurd (hparts '-' (List.mem_of_mem_head? hc)) (by decide)
      rwa [hnone]

/-- Whether an operand may stand behind the sign of a comparison. -/
def MayFollow (op : Operator) (operand : List Char) : Prop :=
  op = .eq ∨ ¬IsDigitWord operand

theorem readOperand?_eq_some : readOperand? op text = some value ↔
    ∃ operand, EndsBehind operand text ∧ StandsFor operand value ∧ MayFollow op operand := by
  by_cases hop : op = .eq
  · rw [readOperand?, if_pos hop, readEqualOperand?_eq_some]
    simp [MayFollow, hop]
  · rw [readOperand?, if_neg hop, readUnequalOperand?_eq_some]
    simp [MayFollow, hop]

/-! ### Signs -/

/-- The sign of a comparison is read from a text where what follows does not make it longer. -/
theorem readComparison?_append {sign : String} (hsign : (sign, op) ∈ operatorSigns)
    (hrest : ∀ c ∈ rest.head?, c ∉ signParts) :
    readComparison? (sign.toList ++ rest) = (readOperand? op (skipGap rest)).map (op, ·) := by
  simp only [operatorSigns, List.mem_cons, Prod.mk.injEq, List.not_mem_nil, or_false] at hsign
  rcases hsign with ⟨rfl, rfl⟩ | ⟨rfl, rfl⟩ | ⟨rfl, rfl⟩ | ⟨rfl, rfl⟩ | ⟨rfl, rfl⟩ | ⟨rfl, rfl⟩ |
    ⟨rfl, rfl⟩
  · rfl
  · rfl
  · rfl
  · cases rest with
    | nil => rfl
    | cons c rest =>
        have hequal : c ≠ '=' := by
          rintro rfl
          exact hrest '=' rfl (by decide)
        simp [readComparison?, readInequality?, readOperand?, hequal]
  · rfl
  · cases rest with
    | nil => rfl
    | cons c rest =>
        have hlonger : c ≠ '=' ∧ c ≠ '>' := by
          constructor
          all_goals
            rintro rfl
            exact hrest _ rfl (by decide)
        simp [readComparison?, readInequality?, readOperand?, hlonger]
  · rfl

/-! ### Conditions -/

/-- A text is a column, a sign and an operand, with gaps between them and behind the operand. -/
structure IsConditionText (text : List Char) (column : String) (op : Operator)
    (operand : List Char) : Prop where
  column_ne_nil : column.toList ≠ []
  column_parts : ∀ c ∈ column.toList, isNamePart c = true
  parts : ∃ (before behind rear : List Char) (sign : String), (sign, op) ∈ operatorSigns ∧
    (∀ c ∈ before ++ (behind ++ rear), isGap c = true) ∧
      text = column.toList ++ (before ++ (sign.toList ++ (behind ++ (operand ++ rear))))

/-- What holds of gaps and of the first character of a text holds behind a gap as well. -/
theorem forall_head?_of_gap {p : Char → Prop} {lead : List Char}
    (hlead : ∀ c ∈ lead, isGap c = true) (hgap : ∀ c, isGap c = true → p c)
    (hrest : ∀ c ∈ rest.head?, p c) : ∀ c ∈ (lead ++ rest).head?, p c := by
  cases lead with
  | nil => exact hrest
  | cons c lead =>
      intro d hd
      obtain rfl : c = d := by simpa using hd
      exact hgap c (hlead c List.mem_cons_self)

theorem of_isGap {p : Char → Prop} (hspace : p ' ') (htab : p '\t') {c : Char}
    (hc : isGap c = true) : p c := by
  simp only [isGap, Bool.or_eq_true, beq_iff_eq] at hc
  rcases hc with rfl | rfl
  · exact hspace
  · exact htab

/-- The first character of a sign. -/
theorem head?_of_operatorSigns {sign : String} (hsign : (sign, op) ∈ operatorSigns)
    (rest : List Char) : ∀ c ∈ (sign.toList ++ rest).head?, isNamePart c = false ∧
      isGap c = false := by
  have hfacts : ∀ entry ∈ operatorSigns, entry.1.toList ≠ [] ∧
      ∀ c ∈ entry.1.toList, isNamePart c = false ∧ isGap c = false := by decide
  obtain ⟨hne, hplain⟩ := hfacts _ hsign
  intro c hc
  rw [List.head?_append_of_ne_nil _ hne] at hc
  exact hplain c (List.mem_of_mem_head? hc)

theorem stopsAt_sign {before : List Char} {sign : String} (hbefore : ∀ c ∈ before, isGap c = true)
    (hsign : (sign, op) ∈ operatorSigns) :
    StopsAt isNamePart (before ++ (sign.toList ++ rest)) :=
  forall_head?_of_gap hbefore
    (fun _ => of_isGap (p := fun c => isNamePart c = false) (by decide) (by decide))
    fun c hc => (head?_of_operatorSigns hsign rest c hc).1

theorem StandsFor.not_mem_head? {behind : List Char} (hstands : StandsFor operand value)
    (hbehind : ∀ c ∈ behind, isGap c = true) :
    ∀ c ∈ (behind ++ (operand ++ rest)).head?, c ∉ '!' :: signParts := by
  obtain ⟨first, front, rfl, -, hfirst⟩ := hstands.exists_head
  refine forall_head?_of_gap hbehind
    (fun _ => of_isGap (p := fun c => c ∉ '!' :: signParts) (by decide) (by decide)) fun c hc => ?_
  obtain rfl : first = c := by simpa using hc
  exact hfirst

theorem StandsFor.stopsAt_gap (hstands : StandsFor operand value) :
    StopsAt isGap (operand ++ rest) := by
  obtain ⟨first, front, rfl, hfirst, -⟩ := hstands.exists_head
  exact stopsAt_cons.mpr (isGap_eq_false hfirst)

/-- A condition is read exactly from the texts of the grammar. -/
theorem readCondition?_eq_some {c : Comparison} : readCondition? text = some c ↔
    ∃ operand, IsConditionText (trim text) c.column c.op operand ∧ StandsFor operand c.value ∧
      MayFollow c.op operand := by
  constructor
  · intro hread
    rw [readCondition?] at hread
    split at hread
    · contradiction
    rename_i name rest hname
    obtain ⟨⟨op, value⟩, hcomparison, heq⟩ := Option.map_eq_some_iff.mp hread
    cases heq
    obtain ⟨htext, hne, hparts, -⟩ := readName?_eq_some_iff.mp hname
    obtain ⟨sign, hsign, hsplit, hoperand⟩ := exists_sign hcomparison
    obtain ⟨operand, ⟨rear, hends, hrear⟩, hstands, hfollow⟩ := readOperand?_eq_some.mp hoperand
    obtain ⟨before, hbefore, hbeforeGap, -⟩ := exists_skipGap rest
    obtain ⟨behind, hbehind, hbehindGap, -⟩ := exists_skipGap (dropSign (skipGap rest))
    refine ⟨operand, ⟨by simpa using hne, by simpa using hparts, before, behind, rear, sign, hsign,
      ?_, ?_⟩, hstands, hfollow⟩
    · exact List.forall_mem_append.mpr ⟨hbeforeGap, List.forall_mem_append.mpr ⟨hbehindGap, hrear⟩⟩
    · rw [String.toList_ofList, ← hends, ← hbehind, ← hsplit, ← hbefore, ← htext]
  · rintro ⟨operand, ⟨hne, hparts, before, behind, rear, sign, hsign, hgaps, htext⟩, hstands,
      hfollow⟩
    obtain ⟨hbefore, hgaps⟩ := List.forall_mem_append.mp hgaps
    obtain ⟨hbehind, hrear⟩ := List.forall_mem_append.mp hgaps
    have hname : readName? (trim text) = some (c.column.toList,
        before ++ (sign.toList ++ (behind ++ (operand ++ rear)))) :=
      readName?_eq_some_iff.mpr ⟨htext, hne, hparts, stopsAt_sign hbefore hsign⟩
    have hskip : skipGap (before ++ (sign.toList ++ (behind ++ (operand ++ rear)))) =
        sign.toList ++ (behind ++ (operand ++ rear)) := by
      rw [skipGap_append hbefore]
      exact skipGap_eq_self fun c hc => (head?_of_operatorSigns hsign _ c hc).2
    have hcomparison : readComparison? (sign.toList ++ (behind ++ (operand ++ rear))) =
        some (c.op, c.value) := by
      have hoperand : readOperand? c.op (operand ++ rear) = some c.value :=
        readOperand?_eq_some.mpr ⟨operand, ⟨rear, rfl, hrear⟩, hstands, hfollow⟩
      rw [readComparison?_append hsign fun c hc hmem => hstands.not_mem_head? hbehind c hc
        (List.mem_cons_of_mem _ hmem), skipGap_append hbehind,
        skipGap_eq_self hstands.stopsAt_gap, hoperand, Option.map_some]
    rw [readCondition?, hname]
    simp only [hskip, hcomparison, Option.map_some, String.ofList_toList]

/-- Behind a condition nothing but a gap belongs to it: a text that goes on with a blank is a
condition only if it goes on with a gap. -/
theorem IsConditionText.isGap_of_append {tail other : List Char} {otherColumn : String}
    {otherOp : Operator} {otherValue : Value} (hcondition : IsConditionText text column op operand)
    (hstands : StandsFor operand value)
    (hlonger : IsConditionText (text ++ tail) otherColumn otherOp other)
    (hother : StandsFor other otherValue) (htail : AtBlank tail) : ∀ c ∈ tail, isGap c = true := by
  obtain ⟨-, hparts, before, behind, rear, sign, hsign, hgaps, rfl⟩ := hcondition
  obtain ⟨-, hparts', before', behind', rear', sign', hsign', hgaps', heq⟩ := hlonger
  obtain ⟨hbefore, hgaps⟩ := List.forall_mem_append.mp hgaps
  obtain ⟨hbehind, hrear⟩ := List.forall_mem_append.mp hgaps
  obtain ⟨hbefore', hgaps'⟩ := List.forall_mem_append.mp hgaps'
  obtain ⟨hbehind', hrear'⟩ := List.forall_mem_append.mp hgaps'
  simp only [List.append_assoc] at heq
  -- the two readings are cut at the same places, part by part
  obtain ⟨-, heq⟩ := append_inj_of_stopsAt hparts (stopsAt_sign hbefore hsign) hparts'
    (stopsAt_sign hbefore' hsign') heq
  obtain ⟨-, heq⟩ := append_inj_of_stopsAt hbefore
    (fun c hc => (head?_of_operatorSigns hsign _ c hc).2) hbefore'
    (fun c hc => (head?_of_operatorSigns hsign' _ c hc).2) heq
  have hsigns : ∀ entry ∈ operatorSigns, ∀ c ∈ entry.1.toList,
      ('!' :: signParts).contains c = true := by decide
  obtain ⟨-, heq⟩ := append_inj_of_stopsAt (hsigns _ hsign)
    (fun c hc => by simpa using hstands.not_mem_head? hbehind c hc) (hsigns _ hsign')
    (fun c hc => by simpa using hother.not_mem_head? hbehind' c hc) heq
  obtain ⟨-, heq⟩ := append_inj_of_stopsAt hbehind hstands.stopsAt_gap hbehind' hother.stopsAt_gap
    heq
  have hrearTail : AtBlank (rear ++ tail) :=
    forall_head?_of_gap hrear (fun _ => isBlank_of_isGap) htail
  obtain ⟨-, heq⟩ := hstands.append_inj hother hrearTail (atBlank_of_gap hrear') heq
  exact fun c hc => hrear' c (heq ▸ List.mem_append_right _ hc)

end SqlGateway.Shape
