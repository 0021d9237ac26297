import SqlGateway.Proofs.Decimal.Numeral
import SqlGateway.Proofs.Shape.Keyword
import SqlGateway.Proofs.Shape.Plain
import SqlGateway.Proofs.Text.Blank

/-!
# Plain values

The value that a short statement has in a plain piece of its text is the value of the tokens that
the piece is cut into.  A number is read as a whole by the shapes, and behind its sign by the
grammar.
-/

namespace SqlGateway.Shape

open Text Sql Sql.Parser

variable {c : Char} {text front rest word number : List Char} {written : List Token}
  {wordFollows : Bool} {value : Value}

/-! ### Pieces of a text -/

/-- The tokens that a piece of a text is cut into, wherever a break follows it. -/
def Writes (front : List Char) (written : List Token) : Prop :=
  ∀ rest tokens, Breaks rest → Reads rest tokens → Reads (front ++ rest) (written ++ tokens)

theorem breaks_append (hfront : ∀ c ∈ front, isBreak c = true) (hrest : Breaks rest) :
    Breaks (front ++ rest) := by
  cases front with
  | nil => exact hrest
  | cons c front => exact breaks_cons.mpr (hfront c List.mem_cons_self)

theorem breaks_append_of_ne_nil (hfront : ∀ c ∈ front, isBreak c = true) (hne : front ≠ []) :
    Breaks (front ++ rest) := by
  cases front with
  | nil => exact absurd rfl hne
  | cons c front => exact breaks_cons.mpr (hfront c List.mem_cons_self)

theorem isBreak_of_isBlank (hc : isBlank c = true) : isBreak c = true := by
  simp [isBreak, hc]

/-- Blanks around a piece do not count. -/
theorem Writes.padded {lead rear : List Char} (hwrites : Writes front written)
    (hlead : ∀ c ∈ lead, isBlank c = true) (hrear : ∀ c ∈ rear, isBlank c = true) :
    Writes (lead ++ (front ++ rear)) written := by
  intro rest tokens hbreaks hreads
  rw [List.append_assoc, List.append_assoc]
  refine Reads.gap hlead (hwrites (rear ++ rest) tokens ?_ (Reads.gap hrear hreads))
  exact breaks_append (fun c hc => isBreak_of_isBlank (hrear c hc)) hbreaks

theorem Writes.of_trim (hwrites : Writes (trim text) written) : Writes text written := by
  obtain ⟨lead, rear, hsplit, hlead, hrear⟩ := exists_trim_append text
  rw [hsplit]
  exact hwrites.padded hlead hrear

theorem writes_word (hword : isOneWord word = true) : Writes word [.word (.bare word)] :=
  fun _ _ hbreaks hreads => Reads.word hword hbreaks hreads

theorem writes_number (hnumber : IsUnsigned number) :
    Writes number [.number (String.ofList number) false] :=
  fun _ _ hbreaks hreads => Reads.number hnumber hbreaks hreads

theorem IsUnsigned.head?_append (hnumber : IsUnsigned number) :
    ∀ c ∈ (number ++ rest).head?, c.isDigit = true ∨ c = '.' := by
  cases hnumber with
  | whole hne hdigits =>
      cases number with
      | nil => exact absurd rfl hne
      | cons c number => simpa using .inl (hdigits c List.mem_cons_self)
  | @fraction digits fraction hdigits hne hfraction =>
      cases digits with
      | nil => simp
      | cons c digits => simpa using .inl (hdigits c List.mem_cons_self)

theorem writes_negative (hnumber : IsUnsigned number) :
    Writes ('-' :: number) [.symbol "-", .number (String.ofList number) false] := by
  intro rest tokens hbreaks hreads
  have hhead : ∀ c ∈ (number ++ rest).head?, c ∉ extenders "-" := by
    rintro c hc
    rcases hnumber.head?_append c hc with hdigit | rfl
    · intro hmem
      have hother : ∀ c ∈ extenders "-", c.isDigit = false := by decide
      simp [hother c hmem] at hdigit
    · decide
  exact Reads.sign "-" (by decide) hhead (Reads.number hnumber hbreaks hreads)

theorem head?_ne_of_breaks {quote : Char} (hquote : isQuote quote = true) (hbreaks : Breaks rest) :
    rest.head? ≠ some quote := by
  intro hhead
  have hbreak := hbreaks quote hhead
  simp only [isQuote, Bool.or_eq_true, beq_iff_eq] at hquote
  rcases hquote with rfl | rfl <;> exact absurd hbreak (by decide)

theorem writes_string {quote : Char} (content : List Char) (hquote : isQuote quote = true) :
    Writes (quote :: (doubled quote content ++ [quote]))
      [.string quote (String.ofList content)] := by
  intro rest tokens hbreaks hreads
  have hread : readQuoted? quote (doubled quote content ++ quote :: rest) = some (content, rest) :=
    readQuoted?_doubled (head?_ne_of_breaks hquote hbreaks)
  rw [List.cons_append, List.append_assoc]
  exact Reads.string hquote hread hreads

/-! ### Words -/

theorem isWordPart_of_isOneWord (hword : isOneWord word = true) : ∀ c ∈ word, isWordPart c = true :=
  List.all_eq_true.mp (Bool.and_eq_true_iff.mp hword).1

theorem isOneWord_of_isNameBut {forms : List String} (hname : isNameBut forms word = true) :
    isOneWord word = true :=
  (Bool.and_eq_true_iff.mp hname).1

theorem not_mem_of_isNameBut {forms : List String} (hname : isNameBut forms word = true) :
    (Word.bare word).keyword ∉ forms := by
  simpa using (Bool.and_eq_true_iff.mp hname).2

/-- No quote stands at an end of a word. -/
theorem isBare_of_isOneWord (hword : isOneWord word = true) : IsBare (Word.bare word).text := by
  have hpart := isWordPart_of_isOneWord hword
  have hplain : ∀ c ∈ word, isNameQuote c = false := by
    intro c hc
    cases hquote : isNameQuote c with
    | false => rfl
    | true =>
        simp only [isNameQuote, Bool.or_eq_true, beq_iff_eq] at hquote
        have hc := hpart c hc
        rcases hquote with rfl | rfl <;> exact absurd hc (by decide)
  have hkept : ∀ {letters : List Char}, (∀ c ∈ letters, isNameQuote c = false) →
      letters.dropWhile isNameQuote = letters := by
    intro letters hletters
    cases letters with
    | nil => rfl
    | cons c letters => simp [hletters c List.mem_cons_self]
  have hreversed : ∀ c ∈ word.reverse, isNameQuote c = false :=
    fun c hc => hplain c (List.mem_reverse.mp hc)
  rw [IsBare, bareName, Word.bare, String.toList_ofList, hkept hplain, hkept hreversed,
    List.reverse_reverse]

theorem isTable_of_isNameBut {forms : List String} (hname : isNameBut forms word = true) :
    Statement.IsTable forms (.bare word) :=
  { plain := rfl
    bare := isBare_of_isOneWord (isOneWord_of_isNameBut hname)
    form := not_mem_of_isNameBut hname }

/-! ### Numbers -/

/-- Digits, perhaps with a fraction, after at most one minus sign. -/
def IsNumeral (number : List Char) : Prop :=
  IsUnsigned number ∨ ∃ magnitude, number = '-' :: magnitude ∧ IsUnsigned magnitude

theorem isUnsigned_of_isFractionShape (h : Value.isFractionShape number = true) :
    IsUnsigned number := by
  have hsplit := List.takeWhile_append_dropWhile (p := Char.isDigit) (l := number)
  have hdigits : ∀ c ∈ number.takeWhile Char.isDigit, c.isDigit = true :=
    fun c hc => List.mem_takeWhile_imp hc
  unfold Value.isFractionShape at h
  split at h
  · rename_i fraction hdrop
    rw [hdrop] at hsplit
    rw [← hsplit]
    exact .fraction hdigits (by simp_all) (by simp_all)
  · contradiction

theorem isNumeral_of_shape
    (h : (Value.isIntegerShape number || Value.isDecimalShape number) = true) :
    IsNumeral number := by
  rcases Bool.or_eq_true_iff.mp h with hinteger | hdecimal
  · unfold Value.isIntegerShape at hinteger
    split at hinteger
    · exact .inr ⟨_, rfl, .whole (by simp_all) (by simp_all)⟩
    · exact .inl (.whole (by simp_all) (by simp_all))
  · unfold Value.isDecimalShape at hdecimal
    split at hdecimal
    · exact .inr ⟨_, rfl, isUnsigned_of_isFractionShape hdecimal⟩
    · exact .inl (isUnsigned_of_isFractionShape hdecimal)

/-- Without a sign in front a number is read as its magnitude. -/
theorem IsUnsigned.ne_sign (hnumber : IsUnsigned number) :
    number.head? ≠ some '-' ∧ number.head? ≠ some '+' := by
  have hhead : ∀ c ∈ (number ++ []).head?, c.isDigit = true ∨ c = '.' := hnumber.head?_append
  rw [List.append_nil] at hhead
  constructor <;> intro hsign <;> rcases hhead _ hsign with h | h <;> exact absurd h (by decide)

theorem readInt?_of_isUnsigned (hnumber : IsUnsigned number) :
    Decimal.readInt? number = (Decimal.readNat? number).map fun (n : Nat) => (n : Int) :=
  Decimal.readInt?_of_head?_ne hnumber.ne_sign.1 hnumber.ne_sign.2

theorem readFloat?_of_isUnsigned (hnumber : IsUnsigned number) :
    Decimal.readFloat? number = Decimal.readUnsignedFloat? number := by
  obtain ⟨hminus, hplus⟩ := hnumber.ne_sign
  unfold Decimal.readFloat?
  split <;> simp_all

theorem exists_readUnsignedFloat? (hnumber : IsUnsigned number) :
    ∃ x, Decimal.readUnsignedFloat? number = some x := by
  unfold Decimal.readUnsignedFloat?
  split
  · exact ⟨_, rfl⟩
  · cases hnumber with
    | whole hne hdigits =>
        have htake : number.takeWhile Char.isDigit = number :=
          List.takeWhile_eq_self_iff.mpr hdigits
        have hdrop : number.dropWhile Char.isDigit = [] := List.dropWhile_eq_nil_iff.mpr hdigits
        simp [Decimal.readMagnitude?, Decimal.readExponent?, htake, hdrop, hne]
    | @fraction digits fraction hdigits hne hfraction =>
        have hpoint : StopsAt Char.isDigit ('.' :: fraction) := stopsAt_cons.mpr (by decide)
        have htake := List.takeWhile_eq_self_iff.mpr hfraction
        have hdrop := List.dropWhile_eq_nil_iff.mpr hfraction
        simp [Decimal.readMagnitude?, Decimal.readExponent?, htake, hdrop, hne,
          takeWhile_append_of_stopsAt hdigits hpoint, dropWhile_append_of_stopsAt hdigits hpoint]

/-- A magnitude is a whole number or none at all. -/
theorem exists_ofNumeral? (hnumber : IsUnsigned number) :
    ∃ value, Value.ofNumeral? number = some value := by
  obtain ⟨x, hx⟩ := exists_readUnsignedFloat? hnumber
  unfold Value.ofNumeral?
  split
  · exact ⟨_, rfl⟩
  · exact ⟨.float x, by rw [readFloat?_of_isUnsigned hnumber, hx]; rfl⟩

/-- The value of a number with a sign is that of its magnitude, negated.  The least integer has no
such magnitude. -/
theorem exists_magnitude (hnumber : IsUnsigned number) :
    ∃ value, Value.ofNumeral? ('-' :: number) = some value ∧ (isLeast value = false →
      ∃ magnitude, Value.ofNumeral? number = some magnitude ∧ negated magnitude = .ok value) := by
  obtain ⟨x, hx⟩ := exists_readUnsignedFloat? hnumber
  have hfloat : Decimal.readFloat? number = some x := by rw [readFloat?_of_isUnsigned hnumber, hx]
  have hnegative : Decimal.readFloat? ('-' :: number) = some (-x) := by
    rw [Decimal.readFloat?, hx]
    rfl
  have hmin : Decimal.minInt64 = -9223372036854775808 := rfl
  have hmax : Decimal.maxInt64 = 9223372036854775807 := rfl
  cases hnat : Decimal.readNat? number with
  | none =>
      refine ⟨.float (-x), ?_, fun _ => ⟨.float x, ?_, rfl⟩⟩
      · simp [Value.ofNumeral?, Decimal.readInt64?, Decimal.readInt?, hnat, hnegative]
      · simp [Value.ofNumeral?, Decimal.readInt64?, readInt?_of_isUnsigned hnumber, hnat, hfloat]
  | some n =>
      have hint : Decimal.readInt? number = some (n : Int) := by
        rw [readInt?_of_isUnsigned hnumber, hnat]
        rfl
      have hneg : Decimal.readInt? ('-' :: number) = some (-(n : Int)) := by
        rw [Decimal.readInt?, hnat]
        rfl
      -- beyond the least integer both readings are doubles
      by_cases hsmall : n ≤ 9223372036854775808
      · refine ⟨.int (-n), ?_, fun hleast => ⟨.int n, ?_, rfl⟩⟩
        · have hrange : Decimal.isInt64 (-(n : Int)) = true := by
            simp only [Decimal.isInt64, hmin, hmax, Bool.and_eq_true, decide_eq_true_eq]
            omega
          simp [Value.ofNumeral?, Decimal.readInt64?, hneg, Option.filter, hrange]
        · have hother : -(n : Int) ≠ -9223372036854775808 := by
            simpa [isLeast, hmin] using hleast
          have hrange : Decimal.isInt64 (n : Int) = true := by
            simp only [Decimal.isInt64, hmin, hmax, Bool.and_eq_true, decide_eq_true_eq]
            omega
          simp [Value.ofNumeral?, Decimal.readInt64?, hint, Option.filter, hrange]
      · have hwide : Decimal.isInt64 (n : Int) = false ∧ Decimal.isInt64 (-(n : Int)) = false := by
          simp only [Decimal.isInt64, hmin, hmax, Bool.and_eq_false_iff, decide_eq_false_iff_not]
          omega
        refine ⟨.float (-x), ?_, fun _ => ⟨.float x, ?_, rfl⟩⟩
        · simp [Value.ofNumeral?, Decimal.readInt64?, hneg, Option.filter, hwide, hnegative]
        · simp [Value.ofNumeral?, Decimal.readInt64?, hint, Option.filter, hwide, hfloat]

/-- A number is read as its value where it is not the least integer. -/
theorem exists_numeral (wordFollows : Bool) (hnumber : IsNumeral number) : ∃ value,
    Value.ofNumeral? number = some value ∧ (isLeast value = false → ∃ written,
      headKeyword written = "" ∧ IsValue wordFollows written value ∧ Writes number written) := by
  rcases hnumber with hunsigned | ⟨magnitude, rfl, hunsigned⟩
  · obtain ⟨value, hvalue⟩ := exists_ofNumeral? hunsigned
    refine ⟨value, hvalue, fun _ => ⟨_, rfl, .number ?_, writes_number hunsigned⟩⟩
    rwa [String.toList_ofList]
  · obtain ⟨value, hvalue, hnegated⟩ := exists_magnitude hunsigned
    refine ⟨value, hvalue, fun hleast => ?_⟩
    obtain ⟨unsigned, hmagnitude, hnegative⟩ := hnegated hleast
    refine ⟨_, rfl, .negative ?_ hnegative, writes_negative hunsigned⟩
    rwa [String.toList_ofList]

/-! ### Bare tokens -/

/-- A text between quotes neither begins nor ends with a blank. -/
theorem trim_quoted {quote : Char} (hquote : isQuote quote = true) (inner : List Char) :
    trim (quote :: (inner ++ [quote])) = quote :: (inner ++ [quote]) := by
  have hblank := isBlank_of_isQuote hquote
  have hlast : (quote :: (inner ++ [quote])).getLast? = some quote := by
    rw [← List.cons_append, List.getLast?_concat]
  rw [trim, trimStart_eq_self (by simpa using hblank),
    trimEnd_eq_self (by simpa [hlast] using hblank)]

theorem ofToken_quoted {quote : Char} {content : List Char} (hquote : isQuote quote = true) :
    Value.ofToken (quote :: (doubled quote content ++ [quote])) =
      .string (String.ofList content) := by
  simp [Value.ofToken, Value.ofTrimmedToken, trim_quoted hquote, unquoted?, hquote,
    undoubled_doubled]

theorem unquoted?_of_head (hhead : ∀ c ∈ text.head?, isQuote c = false) :
    unquoted? text = none := by
  cases text with
  | nil => rfl
  | cons c text => simp [unquoted?, hhead c rfl]

theorem isQuote_of_opensQuote (hc : opensQuote c = false) : isQuote c = false := by
  simp_all [opensQuote, isQuote]

theorem isQuote_head_of_isNumeral (hnumber : IsNumeral number) :
    ∀ c ∈ number.head?, isQuote c = false := by
  intro c hc
  rcases hnumber with hunsigned | ⟨magnitude, rfl, -⟩
  · exact isQuote_of_opensQuote (hunsigned.opensQuote c (List.mem_of_mem_head? hc))
  · obtain rfl : '-' = c := by simpa using hc
    rfl

theorem isQuote_head_of_isOneWord (hword : isOneWord word = true) :
    ∀ c ∈ word.head?, isQuote c = false := fun c hc =>
  isQuote_of_opensQuote
    (opensQuote_of_isWordPart (isWordPart_of_isOneWord hword c (List.mem_of_mem_head? hc)))

/-- The literal words, with their values. -/
theorem exists_of_isLiteralWord (hword : isLiteralWord word = true)
    (hshape : ¬(Value.isIntegerShape word || Value.isDecimalShape word) = true) :
    isOneWord word = true ∧ ∃ l, ((Word.bare word).keyword, l) ∈
        [("TRUE", Literal.bool true), ("FALSE", .bool false), ("NULL", .null)] ∧
      l.toValue = .ok (Value.ofTrimmedToken word) := by
  have hcapitals : ∀ small capitals : String,
      small.toList.map Char.toLower = capitals.toList.map Char.toLower →
        isSkeletonWord capitals = true → Value.isWordOf small word = true →
          IsKeyword capitals word := by
    intro small capitals hsame hskeleton hsmall
    refine isKeyword_of_isWordOf hskeleton ?_
    rwa [Value.isWordOf, ← hsame]
  have hunquoted : isOneWord word = true → unquoted? word = none :=
    fun h => unquoted?_of_head (isQuote_head_of_isOneWord h)
  by_cases htrue : Value.isWordOf "true" word = true
  · obtain ⟨hone, hkeyword⟩ := hcapitals "true" "TRUE" (by decide) (by decide) htrue
    refine ⟨hone, .bool true, by simp [hkeyword], ?_⟩
    rw [Value.ofTrimmedToken, hunquoted hone]
    simp only [if_neg hshape, if_pos htrue]
    rfl
  by_cases hfalse : Value.isWordOf "false" word = true
  · obtain ⟨hone, hkeyword⟩ := hcapitals "false" "FALSE" (by decide) (by decide) hfalse
    refine ⟨hone, .bool false, by simp [hkeyword], ?_⟩
    rw [Value.ofTrimmedToken, hunquoted hone]
    simp only [if_neg hshape, if_neg htrue, if_pos hfalse]
    rfl
  have hnull : Value.isWordOf "null" word = true := by
    simpa [isLiteralWord, htrue, hfalse] using hword
  obtain ⟨hone, hkeyword⟩ := hcapitals "null" "NULL" (by decide) (by decide) hnull
  refine ⟨hone, .null, by simp [hkeyword], ?_⟩
  rw [Value.ofTrimmedToken, hunquoted hone]
  simp only [if_neg hshape, if_neg htrue, if_neg hfalse, if_pos hnull]
  rfl

/-- A plain bare token is the value of its tokens. -/
theorem exists_of_isPlainToken {token : List Char}
    (hplain : isPlainToken wordFollows token = true) :
    ∃ written, IsValue wordFollows written (Value.ofTrimmedToken token) ∧ Writes token written := by
  rw [isPlainToken] at hplain
  split at hplain
  · rename_i hshape
    have hnumeral := isNumeral_of_shape hshape
    obtain ⟨value, hvalue, hwritten⟩ := exists_numeral wordFollows hnumeral
    have htoken : Value.ofTrimmedToken token = value := by
      rw [Value.ofTrimmedToken, unquoted?_of_head (isQuote_head_of_isNumeral hnumeral)]
      simp only [if_pos hshape, hvalue]
    rw [htoken] at hplain ⊢
    obtain ⟨written, -, hmeaning, hwrites⟩ := hwritten (by simpa using hplain)
    exact ⟨written, hmeaning, hwrites⟩
  · rename_i hshape
    by_cases hliteral : isLiteralWord token = true
    · obtain ⟨hone, l, hkeyword, hl⟩ := exists_of_isLiteralWord hliteral hshape
      exact ⟨_, .literal hkeyword hl, writes_word hone⟩
    · have hname : isNameBut (formWords wordFollows) token = true := by
        simpa [hliteral] using hplain
      have hone := isOneWord_of_isNameBut hname
      have htoken : Value.ofTrimmedToken token = .string (Word.bare token).text := by
        simp only [isLiteralWord, Bool.or_eq_true, not_or] at hliteral
        obtain ⟨⟨htrue, hfalse⟩, hnull⟩ := hliteral
        rw [Value.ofTrimmedToken, unquoted?_of_head (isQuote_head_of_isOneWord hone)]
        simp only [if_neg hshape, if_neg htrue, if_neg hfalse, if_neg hnull]
        rfl
      rw [htoken]
      exact ⟨_, .word (not_mem_of_isNameBut hname), writes_word hone⟩

end SqlGateway.Shape
