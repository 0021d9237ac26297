import SqlGateway.Json.Reader
import SqlGateway.Json.Writer
import SqlGateway.Proofs.Decimal.Text
import SqlGateway.Proofs.Text.Prefix
import Mathlib.Data.List.Basic

/-!
# Numbers and strings in JSON

The text of a whole number and of a string is read back, whatever follows it.  A number ends where
no character that could go on with it follows; its digits are gathered into a significand that has
to stay within 64 bits.  A string ends at its closing quote, since every quote and backslash inside
it is escaped; a control character is escaped by its code.
-/

namespace SqlGateway.Json

open Decimal Text

variable {rest : List Char}

/-! ### Numbers -/

/-- Whether a character may go on with a number. -/
def isNumberPart (c : Char) : Bool :=
  c.isDigit || c == '.' || c == 'e' || c == 'E'

theorem stopsAt_isDigit (hrest : StopsAt isNumberPart rest) : StopsAt Char.isDigit rest := by
  intro c hc
  have hpart := hrest c hc
  simp only [isNumberPart, Bool.or_eq_false_iff] at hpart
  exact hpart.1.1.1

/-- The first digit of a positive number is no zero. -/
theorem head?_toDigits_ne_zero {n : Nat} (hn : 0 < n) :
    (Nat.toDigits 10 n).head? ≠ some '0' := by
  induction n using Nat.strongRecOn with
  | ind n ih =>
      by_cases hsmall : n < 10
      · rw [Nat.toDigits_of_lt_base hsmall]
        simpa using Nat.ne_of_gt hn
      · have hle : 10 ≤ n := Nat.le_of_not_lt hsmall
        rw [Nat.toDigits_of_base_le (by decide) hle,
          List.head?_append_of_ne_nil _ Nat.toDigits_ne_nil]
        exact ih (n / 10) (by omega) (by omega)

theorem readWhole?_toDigits (n : Nat) (hrest : StopsAt isNumberPart rest) :
    readWhole? (Nat.toDigits 10 n ++ rest) = some (Nat.toDigits 10 n, rest) := by
  have hdigits : ∀ c ∈ Nat.toDigits 10 n, c.isDigit = true := isDigit_of_mem_toDigits
  have htake := takeWhile_append_of_stopsAt hdigits (stopsAt_isDigit hrest)
  have hdrop := dropWhile_append_of_stopsAt hdigits (stopsAt_isDigit hrest)
  unfold readWhole?
  split
  · rename_i c behind htext
    -- only zero is written with a zero in front
    have hzero : n = 0 := by
      by_contra hne
      have hhead := head?_toDigits_ne_zero (Nat.pos_of_ne_zero hne)
      have hfirst := congrArg List.head? htext
      rw [List.head?_append_of_ne_nil _ Nat.toDigits_ne_nil] at hfirst
      exact hhead hfirst
    subst hzero
    cases htext
    rw [if_neg (by simpa using stopsAt_isDigit hrest c rfl)]
    rfl
  · simp [htake, hdrop, Nat.toDigits_ne_nil]

theorem ofDigitsFrom_cons (start : Nat) (c : Char) (digits : List Char) :
    ofDigitsFrom start (c :: digits) = ofDigitsFrom (start * 10 + digitValue c) digits := by
  rw [ofDigitsFrom, List.foldl_cons, Nat.mul_comm]
  rfl

theorem le_ofDigitsFrom (start : Nat) (digits : List Char) :
    start ≤ ofDigitsFrom start digits := by
  induction digits generalizing start with
  | nil => exact Nat.le_refl start
  | cons c digits ih =>
      rw [ofDigitsFrom_cons]
      calc start ≤ start * 10 + digitValue c := by omega
        _ ≤ ofDigitsFrom (start * 10 + digitValue c) digits := ih _

/-- Digits are taken in as long as the number stays within 64 bits. -/
theorem absorbDigits_eq {start : Nat} {digits : List Char}
    (hbound : ofDigitsFrom start digits ≤ maxUInt64) :
    absorbDigits start digits = (ofDigitsFrom start digits, []) := by
  induction digits generalizing start with
  | nil => rfl
  | cons c digits ih =>
      rw [ofDigitsFrom_cons] at hbound ⊢
      have hnext : start * 10 + digitValue c ≤ maxUInt64 :=
        Nat.le_trans (le_ofDigitsFrom _ digits) hbound
      rw [absorbDigits]
      simp only [hnext, if_true]
      exact ih hbound

theorem readUnsigned?_toDigits {n : Nat} (negative : Bool) (hn : n ≤ maxUInt64)
    (hrest : StopsAt isNumberPart rest) :
    readUnsigned? negative (Nat.toDigits 10 n ++ rest) = some (wholeNumber negative n, rest) := by
  have hvalue : ofDigitsFrom 0 (Nat.toDigits 10 n) = n := Nat.ofDigitChars_ten_toDigits
  have habsorb : absorbDigits 0 (Nat.toDigits 10 n) = (n, []) := by
    rw [absorbDigits_eq (by rw [hvalue]; exact hn), hvalue]
  rw [readUnsigned?, readWhole?_toDigits n hrest]
  simp only [Option.bind_eq_bind, Option.bind_some, habsorb]
  cases rest with
  | nil => rfl
  | cons c behind =>
      have hc := stopsAt_cons.mp hrest
      simp only [isNumberPart, Bool.or_eq_false_iff, beq_eq_false_iff_ne] at hc
      obtain ⟨⟨⟨-, hpoint⟩, hsmall⟩, hcapital⟩ := hc
      split
      · rename_i heq
        cases heq
        contradiction
      · simp [hsmall, hcapital, absorbDigits]

/-- A whole number that fits 64 bits is read back, with or without a sign. -/
theorem readNumber?_toString {n : Int} (hleast : minInt64 ≤ n) (hgreatest : n ≤ maxUInt64)
    (hrest : StopsAt isNumberPart rest) :
    readNumber? ((toString n).toList ++ rest) = some (.int n, rest) := by
  have hmin : minInt64 = -(2 ^ 63) := rfl
  have hmax : maxUInt64 = 2 ^ 64 - 1 := rfl
  rcases toList_toString_int n with ⟨hsign, htext⟩ | ⟨hsign, htext⟩
  · have hbound : n.natAbs ≤ maxUInt64 := by omega
    have hread := readUnsigned?_toDigits false hbound hrest
    have hnumber : wholeNumber false n.natAbs = .int n := by
      simp [wholeNumber, Int.natAbs_of_nonneg hsign]
    rw [htext, ← hnumber, ← hread]
    unfold readNumber?
    split
    · rename_i digits heq
      -- without a sign a number begins with a digit
      have hminus : '-' ∈ Nat.toDigits 10 n.natAbs := by
        have hhead := congrArg List.head? heq
        rw [List.head?_append_of_ne_nil _ Nat.toDigits_ne_nil] at hhead
        exact List.mem_of_mem_head? hhead
      exact absurd (isDigit_of_mem_toDigits '-' hminus) (by decide)
    · rfl
  · have hbound : n.natAbs ≤ maxUInt64 := by omega
    have hnumber : wholeNumber true n.natAbs = .int n := by
      have hpositive : 0 < n.natAbs := by omega
      have hfits : n.natAbs ≤ Nat.pow 2 63 := by
        have hpower : Nat.pow 2 63 = 2 ^ 63 := rfl
        omega
      have hvalue : -(n.natAbs : Int) = n := by omega
      simp only [wholeNumber, Bool.not_true, Bool.false_eq_true, if_false, hpositive, hfits,
        decide_true, Bool.and_self, if_true, hvalue]
    rw [htext, List.cons_append, readNumber?, readUnsigned?_toDigits true hbound hrest, hnumber]

/-! ### Strings -/

/-- The code of a control character is read back from its four digits. -/
theorem hexUnit?_digitChar {n : Nat} (hn : n < 32) :
    hexUnit? '0' '0' (Nat.digitChar (n / 16)) (Nat.digitChar (n % 16)) = some n := by
  have hall : ∀ n : Fin 32, hexUnit? '0' '0' (Nat.digitChar (n.val / 16))
      (Nat.digitChar (n.val % 16)) = some n.val := by decide
  exact hall ⟨n, hn⟩

theorem readString?_escapeChar (before : List Char) (c : Char) (rest : List Char) :
    readString? before (escapeChar c ++ rest) = readString? (c :: before) rest := by
  by_cases hnamed : c ∈ ['"', '\\', '\x08', '\x0c', '\n', '\r', '\t']
  · simp only [List.mem_cons, List.not_mem_nil, or_false] at hnamed
    rcases hnamed with rfl | rfl | rfl | rfl | rfl | rfl | rfl <;> rfl
  · simp only [List.mem_cons, List.not_mem_nil, or_false, not_or] at hnamed
    unfold escapeChar
    simp only [hnamed, if_false]
    split
    · rename_i hcontrol
      -- the code is too low for one half of a pair of codes
      have hfirst : ¬(0xD800 ≤ c.toNat) := by omega
      have hsecond : ¬(0xDC00 ≤ c.toNat) := by omega
      simp only [List.cons_append, List.nil_append]
      rw [readString?, hexUnit?_digitChar hcontrol]
      simp [hfirst, hsecond, Char.ofNat_toNat]
    · rename_i hcontrol
      have hplain : ¬(c.toNat < 32 || c = '\\') = true := by simp [hnamed, hcontrol]
      rw [List.singleton_append, readString?, if_neg hplain]
      all_goals simp [hnamed]

theorem readString?_append (before : List Char) (content rest : List Char) :
    readString? before (content.flatMap escapeChar ++ '"' :: rest) =
      some (String.ofList (before.reverse ++ content), rest) := by
  induction content generalizing before with
  | nil => simp [readString?]
  | cons c content ih =>
      rw [List.flatMap_cons, List.append_assoc, readString?_escapeChar, ih]
      simp

/-- A string is read back, whatever it holds. -/
theorem readString?_stringChars (s : String) (rest : List Char) :
    ∃ text, stringChars s ++ rest = '"' :: text ∧ readString? [] text = some (s, rest) := by
  refine ⟨s.toList.flatMap escapeChar ++ '"' :: rest, by simp [stringChars], ?_⟩
  simp [readString?_append]

end SqlGateway.Json
