import SqlGateway.Proofs.Decimal.Text
import SqlGateway.Proofs.Identifier
import SqlGateway.Proofs.Shape.Grammar
import SqlGateway.Proofs.Shape.Print

/-!
# Reading back what was written

The readers of the fragments undo the printing of values and comparisons.  A value is a number or a
word, which holds no quote and no blank, or a text between quotes, which may hold anything: the
readers tell them apart by the first character.
-/

namespace SqlGateway.Shape

open Decimal Text Sql.Parser

variable {text rest : List Char} {value : Value} {c : Comparison}

/-! ### Numbers -/

theorem readNat?_toDigits (n : Nat) : readNat? (Nat.toDigits 10 n) = some n := by
  have hdigits : (Nat.toDigits 10 n).all Char.isDigit = true :=
    List.all_eq_true.mpr isDigit_of_mem_toDigits
  have hvalue : ofDigits (Nat.toDigits 10 n) = n := Nat.ofDigitChars_ten_toDigits
  simp [readNat?, hdigits, hvalue, Nat.toDigits_ne_nil]

theorem isUnsigned_toDigits (n : Nat) : IsUnsigned (Nat.toDigits 10 n) :=
  .whole Nat.toDigits_ne_nil isDigit_of_mem_toDigits

theorem isNumberText_toString (n : Int) : IsNumberText (toString n).toList := by
  have hdecimal : IsDecimal (Nat.toDigits 10 n.natAbs) :=
    .whole ⟨Nat.toDigits_ne_nil, isDigit_of_mem_toDigits⟩
  rcases toList_toString_int n with ⟨-, htext⟩ | ⟨-, htext⟩
  · exact htext ▸ .unsigned hdecimal
  · exact htext ▸ .negative hdecimal

theorem readInt?_toString (n : Int) : readInt? (toString n).toList = some n := by
  rcases toList_toString_int n with ⟨hn, htext⟩ | ⟨hn, htext⟩
  · rw [htext, readInt?_of_isUnsigned (isUnsigned_toDigits _), readNat?_toDigits]
    exact congrArg some (Int.natAbs_of_nonneg hn)
  · have habs : -(n.natAbs : Int) = n := by omega
    rw [htext, readInt?, readNat?_toDigits]
    exact congrArg some habs

theorem ofNumeral?_toString {n : Int} (hn : isInt64 n = true) :
    Value.ofNumeral? (toString n).toList = some (.int n) := by
  rw [Value.ofNumeral?, readInt64?, readInt?_toString, Option.filter_some, if_pos hn]

theorem isIntegerShape_toString (n : Int) : Value.isIntegerShape (toString n).toList = true := by
  have hdigits : (Nat.toDigits 10 n.natAbs).all Char.isDigit = true :=
    List.all_eq_true.mpr isDigit_of_mem_toDigits
  rcases toList_toString_int n with ⟨-, htext⟩ | ⟨-, htext⟩
  · rw [htext]
    unfold Value.isIntegerShape
    split
    · rename_i rest heq
      have hminus := isDigit_of_mem_toDigits '-' (heq ▸ List.mem_cons_self)
      contradiction
    · simp [hdigits, Nat.toDigits_ne_nil]
  · rw [htext, Value.isIntegerShape]
    simp [hdigits, Nat.toDigits_ne_nil]

/-! ### Values -/

/-- Whether a character may stand in the text of a number or of a word. -/
def isBareChar (c : Char) : Bool :=
  c.isAlphanum || c == '-'

/-- A value is written as a string or in letters and digits. -/
theorem sqlChars_cases (hvalue : value.IsAtom) :
    (∃ text, value = .string text ∧
      value.sqlChars = '\'' :: (doubled '\'' text.toList ++ ['\''])) ∨
    ((∀ text, value ≠ .string text) ∧ value.sqlChars ≠ [] ∧
      ∀ c ∈ value.sqlChars, isBareChar c = true) := by
  cases hvalue with
  | null => exact .inr ⟨by simp, by simp [Value.sqlChars], by rw [Value.sqlChars]; decide⟩
  | bool b =>
      cases b with
      | true => exact .inr ⟨by simp, by simp [Value.sqlChars], by rw [Value.sqlChars]; decide⟩
      | false => exact .inr ⟨by simp, by simp [Value.sqlChars], by rw [Value.sqlChars]; decide⟩
  | @int n hn =>
      refine .inr ⟨by simp, toString_int_ne_nil n, fun c hc => ?_⟩
      rcases mem_toString_int c hc with hdigit | rfl
      · simp [isBareChar, Char.isAlphanum, hdigit]
      · decide
  | string text => exact .inl ⟨text, rfl, by rw [Value.sqlChars]⟩

theorem of_isBareChar {p : Char → Prop} (hall : ∀ n : Fin 128, isBareChar (Char.ofNat n) = true →
    p (Char.ofNat n)) {c : Char} (hc : isBareChar c = true) : p c := by
  have hascii : c.toNat < 128 := by
    simp only [isBareChar, Bool.or_eq_true, beq_iff_eq] at hc
    rcases hc with hc | rfl
    · exact toNat_lt_of_isAlphanum hc
    · decide
  exact forall_ascii (p := fun c => isBareChar c = true → p c) hall hascii hc

theorem isQuote_of_isBareChar {c : Char} (hc : isBareChar c = true) : isQuote c = false :=
  of_isBareChar (p := fun c => isQuote c = false) (by decide) hc

theorem isBlank_of_isBareChar {c : Char} (hc : isBareChar c = true) : isBlank c = false :=
  of_isBareChar (p := fun c => isBlank c = false) (by decide) hc

/-- A token is read as the value that was written. -/
theorem ofToken_sqlChars (hvalue : value.IsAtom) : Value.ofToken value.sqlChars = value := by
  rcases sqlChars_cases hvalue with ⟨text, rfl, htext⟩ | ⟨-, -, hbare⟩
  · rw [htext, ofToken_quoted rfl, String.ofList_toList]
  · have hunquoted : unquoted? value.sqlChars = none :=
      unquoted?_of_head fun c hc => isQuote_of_isBareChar (hbare c (List.mem_of_mem_head? hc))
    rw [Value.ofToken, trim_eq_self fun c hc => isBlank_of_isBareChar (hbare c hc),
      Value.ofTrimmedToken, hunquoted]
    cases hvalue with
    | null => rfl
    | bool b => cases b <;> rfl
    | int hn => simp only [Value.sqlChars, isIntegerShape_toString, Bool.true_or, if_true,
        ofNumeral?_toString hn]
    | string text =>
        have hquote := hbare '\'' (by rw [Value.sqlChars]; exact List.mem_cons_self)
        contradiction

/-! ### Comparisons -/

/-- The text of an integer or of a string is an operand, and no word. -/
theorem standsFor_sqlChars
    (hoperand : (∃ n, value = .int n ∧ isInt64 n = true) ∨ ∃ text, value = .string text) :
    StandsFor value.sqlChars value ∧ ¬IsDigitWord value.sqlChars := by
  rcases hoperand with ⟨n, rfl, hn⟩ | ⟨text, rfl⟩
  · have hnumber := isNumberText_toString n
    rw [Value.sqlChars]
    exact ⟨.number hnumber (ofNumeral?_toString hn), fun hdigit => hdigit.not_number hnumber⟩
  · have hstands : StandsFor ('\'' :: (doubled '\'' text.toList ++ ['\'']))
        (.string (String.ofList text.toList)) := .quoted text.toList (by decide)
    rw [String.ofList_toList] at hstands
    rw [Value.sqlChars]
    exact ⟨hstands, fun hdigit => absurd (hdigit.parts '\'' List.mem_cons_self) (by decide)⟩

/-- A comparison as a list of characters. -/
theorem toList_comparison (c : Comparison) :
    c.sqlText.toList =
      c.column.toList ++ ' ' :: (c.op.symbol.toList ++ ' ' :: c.value.sqlChars) := by
  simp [Comparison.sqlText, Value.sqlText]

theorem isNamePart_of_isIdentifierPart {d : Char} (hd : isIdentifierPart d = true) :
    isNamePart d = true :=
  forall_ascii (p := fun d => isIdentifierPart d = true → isNamePart d = true) (by decide +kernel)
    (toNat_lt_of_isIdentifierPart hd) hd

theorem readName?_identifier {name : String} (hname : isIdentifier name = true)
    (hrest : StopsAt isNamePart rest) :
    readName? (name.toList ++ rest) = some (name.toList, rest) :=
  readName?_eq_some_iff.mpr ⟨rfl, toList_ne_nil_of_isIdentifier hname,
    fun _ hd => isNamePart_of_isIdentifierPart (isIdentifierPart_of_mem hname hd), hrest⟩

/-- The first and the last character of a value. -/
theorem ends_sqlChars (hvalue : value.IsAtom) :
    (∀ d ∈ value.sqlChars.head?, isBlank d = false ∧ d ≠ ';') ∧
      ∀ d ∈ value.sqlChars.getLast?, isBlank d = false ∧ d ≠ ';' := by
  rcases sqlChars_cases hvalue with ⟨text, -, htext⟩ | ⟨-, -, hbare⟩
  · have hlast : value.sqlChars.getLast? = some '\'' := by
      rw [htext, ← List.cons_append, List.getLast?_concat]
    rw [hlast, htext]
    simp [isBlank]
  · have hplain : ∀ d ∈ value.sqlChars, isBlank d = false ∧ d ≠ ';' := by
      intro d hd
      exact of_isBareChar (p := fun d => isBlank d = false ∧ d ≠ ';') (by decide) (hbare d hd)
    exact ⟨fun d hd => hplain d (List.mem_of_mem_head? hd),
      fun d hd => hplain d (List.mem_of_mem_getLast? hd)⟩

theorem sqlChars_ne_nil (hvalue : value.IsAtom) : value.sqlChars ≠ [] := by
  rcases sqlChars_cases hvalue with ⟨text, -, htext⟩ | ⟨-, hne, -⟩
  · simp [htext]
  · exact hne

theorem mem_operatorSigns_symbol (hop : c.op ∈ [Operator.eq, .neq, .gt, .gte, .lt, .lte]) :
    (c.op.symbol, c.op) ∈ operatorSigns := by
  have hall : ∀ op ∈ [Operator.eq, .neq, .gt, .gte, .lt, .lte],
      (op.symbol, op) ∈ operatorSigns := by decide
  exact hall c.op hop

/-- A comparison that a condition can state is read back from its text. -/
theorem readCondition?_of_isSingle (hc : c.IsSingle) : readCondition? c.sqlText.toList = some c := by
  have hatom : c.value.IsAtom := by
    rcases hc.isOperand with ⟨n, hn, hrange⟩ | ⟨text, htext⟩
    · exact hn ▸ .int hrange
    · exact htext ▸ .string text
  obtain ⟨hstands, hdigit⟩ := standsFor_sqlChars hc.isOperand
  have htrim : trim c.sqlText.toList = c.sqlText.toList := by
    have hhead : ∀ d ∈ c.sqlText.toList.head?, isBlank d = false := by
      rw [toList_comparison, List.head?_append_of_ne_nil _ hc.column_ne_nil]
      exact fun d hd => isBlank_of_isBarePart
        (isBarePart_of_isNamePart (hc.column_parts d (List.mem_of_mem_head? hd)))
    have hend : ∀ d ∈ c.sqlText.toList.getLast?, isBlank d = false := by
      rw [toList_comparison, List.append_cons, ← List.append_assoc, List.append_cons,
        List.getLast?_append_of_ne_nil _ (sqlChars_ne_nil hatom)]
      exact fun d hd => ((ends_sqlChars hatom).2 d hd).1
    rw [trim, trimStart_eq_self hhead, trimEnd_eq_self hend]
  refine readCondition?_eq_some.mpr ⟨c.value.sqlChars, ⟨hc.column_ne_nil, hc.column_parts,
    [' '], [' '], [], c.op.symbol, mem_operatorSigns_symbol hc.op, by decide, ?_⟩, hstands,
    .inr hdigit⟩
  rw [htrim, toList_comparison, List.append_nil]
  rfl

theorem isSingle_of_isShort (hc : c.IsShort) : c.IsSingle where
  column_ne_nil := toList_ne_nil_of_isIdentifier hc.isIdentifier
  column_parts _ hd := isNamePart_of_isIdentifierPart (isIdentifierPart_of_mem hc.isIdentifier hd)
  op := hc.op
  isOperand := by
    have hshort := hc.isShort
    refine hc.isOperand.imp_left fun ⟨n, hn⟩ => ⟨n, hn, ?_⟩
    rw [hn] at hshort
    cases hshort
    assumption

/-- A short comparison is read back. -/
theorem readCondition?_sqlText (hc : c.IsShort) : readCondition? c.sqlText.toList = some c :=
  readCondition?_of_isSingle (isSingle_of_isShort hc)

end SqlGateway.Shape
