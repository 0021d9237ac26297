import Mathlib.Data.List.TakeWhile
import SqlGateway.Text.Blank

/-!
# Trimming

Trimming only takes blanks away, so a text that neither begins nor ends with one is left as it is.
-/

namespace SqlGateway.Text

variable {text : List Char}

/-- The code points of the blanks. -/
def blankPoints : List Nat :=
  [9, 10, 11, 12, 13, 32, 133, 160, 5760, 8192, 8193, 8194, 8195, 8196, 8197, 8198, 8199, 8200, 8201,
    8202, 8232, 8233, 8239, 8287, 12288]

/-- What holds of each blank is settled by going through the blanks. -/
theorem forall_blank {p : Char → Prop} (hall : ∀ n ∈ blankPoints, p (Char.ofNat n)) {c : Char}
    (hc : isBlank c = true) : p c := by
  have hpoint : c.toNat ∈ blankPoints := by
    have hval : c.toNat = c.val.toNat := rfl
    simp only [isBlank, Bool.or_eq_true, Bool.and_eq_true, decide_eq_true_eq, beq_iff_eq,
      Char.le_def, UInt32.le_iff_toNat_le, Char.ext_iff, ← UInt32.toNat_inj] at hc
    simp only [blankPoints, List.mem_cons, List.not_mem_nil, or_false]
    simp at hc
    omega
  have h := hall c.toNat hpoint
  simpa using h

theorem trimStart_eq_self (hfirst : ∀ c ∈ text.head?, isBlank c = false) :
    trimStart text = text := by
  cases text with
  | nil => rfl
  | cons c rest => simp [trimStart, hfirst c rfl]

theorem trimEnd_eq_self (hlast : ∀ c ∈ text.getLast?, isBlank c = false) :
    trimEnd text = text := by
  have hfirst : ∀ c ∈ text.reverse.head?, isBlank c = false := by
    simpa [List.head?_reverse] using hlast
  rw [trimEnd, trimStart_eq_self hfirst, List.reverse_reverse]

/-- A text without blanks is not trimmed. -/
theorem trim_eq_self (htext : ∀ c ∈ text, isBlank c = false) : trim text = text := by
  have hfirst : ∀ c ∈ text.head?, isBlank c = false :=
    fun c hc => htext c (List.mem_of_mem_head? hc)
  have hlast : ∀ c ∈ text.getLast?, isBlank c = false :=
    fun c hc => htext c (List.mem_of_mem_getLast? hc)
  rw [trim, trimStart_eq_self hfirst, trimEnd_eq_self hlast]

/-- What trimming takes away at the end is blank. -/
theorem exists_trimEnd_append (text : List Char) :
    ∃ blanks, text = trimEnd text ++ blanks ∧ ∀ c ∈ blanks, isBlank c = true := by
  refine ⟨(text.reverse.takeWhile isBlank).reverse, ?_, ?_⟩
  · rw [trimEnd, trimStart, ← List.reverse_append, List.takeWhile_append_dropWhile,
      List.reverse_reverse]
  · intro c hc
    exact List.mem_takeWhile_imp (List.mem_reverse.mp hc)

/-- What trimming takes away at both ends is blank. -/
theorem exists_trim_append (text : List Char) :
    ∃ lead rear, text = lead ++ (trim text ++ rear) ∧ (∀ c ∈ lead, isBlank c = true) ∧
      ∀ c ∈ rear, isBlank c = true := by
  obtain ⟨rear, hsplit, hrear⟩ := exists_trimEnd_append (trimStart text)
  refine ⟨text.takeWhile isBlank, rear, ?_, fun c hc => List.mem_takeWhile_imp hc, hrear⟩
  rw [trim, ← hsplit, trimStart, List.takeWhile_append_dropWhile]

theorem isBlank_of_getLast?_trimEnd {c : Char} (hlast : (trimEnd text).getLast? = some c) :
    isBlank c = false := by
  rw [trimEnd, List.getLast?_reverse] at hlast
  have hhead := List.head?_dropWhile_not isBlank text.reverse
  rw [trimStart] at hlast
  rw [hlast] at hhead
  simpa using hhead

theorem isBlank_of_head?_trim {c : Char} (hfirst : (trim text).head? = some c) :
    isBlank c = false := by
  obtain ⟨blanks, hsplit, -⟩ := exists_trimEnd_append (trimStart text)
  have hhead := List.head?_dropWhile_not isBlank text
  have hstart : (trimStart text).head? = some c := by
    rw [hsplit, List.head?_append, ← trim, hfirst]
    rfl
  rw [← trimStart, hstart] at hhead
  simpa using hhead

theorem trimEnd_append {blanks : List Char} (hblanks : ∀ c ∈ blanks, isBlank c = true) :
    trimEnd (text ++ blanks) = trimEnd text := by
  have hreversed : ∀ c ∈ blanks.reverse, isBlank c = true :=
    fun c hc => hblanks c (List.mem_reverse.mp hc)
  rw [trimEnd, trimStart, List.reverse_append, List.dropWhile_append_of_pos hreversed]
  rfl

/-- Blanks behind a text that does not end with one are trimmed. -/
theorem trimEnd_append_blanks {blanks : List Char} (hblanks : ∀ c ∈ blanks, isBlank c = true)
    (hlast : ∀ c ∈ text.getLast?, isBlank c = false) : trimEnd (text ++ blanks) = text := by
  rw [trimEnd_append hblanks, trimEnd_eq_self hlast]

/-- A text with something behind it that is not all blank is not trimmed at its end. -/
theorem trimEnd_append_of_solid {rest : List Char} (hrest : ∃ c ∈ rest, isBlank c = false) :
    trimEnd (text ++ rest) = text ++ trimEnd rest := by
  have hne : (rest.reverse.dropWhile isBlank).isEmpty ≠ true := by
    obtain ⟨c, hc, hblank⟩ := hrest
    intro hempty
    have hall := List.dropWhile_eq_nil_iff.mp (List.isEmpty_iff.mp hempty)
    rw [hall c (List.mem_reverse.mpr hc)] at hblank
    contradiction
  rw [trimEnd, trimEnd, trimStart, trimStart, List.reverse_append, List.dropWhile_append,
    if_neg hne, List.reverse_append, List.reverse_reverse]

theorem trim_append_left {blanks : List Char} (hblanks : ∀ c ∈ blanks, isBlank c = true) :
    trim (blanks ++ text) = trim text := by
  rw [trim, trimStart, List.dropWhile_append_of_pos hblanks]
  rfl

theorem trim_append_right {blanks : List Char} (hblanks : ∀ c ∈ blanks, isBlank c = true) :
    trim (text ++ blanks) = trim text := by
  rw [trim, trim, trimStart, trimStart, List.dropWhile_append]
  split
  · rename_i hempty
    rw [List.dropWhile_eq_nil_iff.mpr hblanks, List.isEmpty_iff.mp hempty]
  · exact trimEnd_append hblanks

end SqlGateway.Text
