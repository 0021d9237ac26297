import SqlGateway.Proofs.Sql.Closed
import SqlGateway.Proofs.Text.Blank
import SqlGateway.Shape.Normalize

/-!
# How blanks are joined

The normal form is made by a scanner that knows two things about what it has passed: which quote is
open, and whether blanks are pending.  A text can be cut anywhere if both are carried over the cut.
-/

namespace SqlGateway.Shape

open Text

/-! ### The state of the scanner -/

/-- The quote that is open behind a character. -/
def nextQuote (quote : Option Char) (c : Char) : Option Char :=
  match quote with
  | some q => if c = q then none else some q
  | none => if opensQuote c then some c else none

/-- The quote that is open behind a text. -/
def quoteAfter (quote : Option Char) (text : List Char) : Option Char :=
  text.foldl nextQuote quote

/-- Whether blanks are pending behind a text. -/
def pendingAfter (quote : Option Char) (pending : Bool) : List Char → Bool
  | [] => pending
  | c :: rest =>
    pendingAfter (nextQuote quote c) (if quote.isSome then pending else isBlank c) rest

variable {quote : Option Char} {pending : Bool} {c : Char} {text rest : List Char}

@[simp] theorem quoteAfter_nil : quoteAfter quote [] = quote := rfl

@[simp] theorem quoteAfter_cons :
    quoteAfter quote (c :: text) = quoteAfter (nextQuote quote c) text := rfl

theorem quoteAfter_append :
    quoteAfter quote (text ++ rest) = quoteAfter (quoteAfter quote text) rest := by
  simp [quoteAfter]

theorem opensQuote_of_isBlank (hc : isBlank c = true) : opensQuote c = false := by
  cases hopens : opensQuote c with
  | false => rfl
  | true =>
      simp only [opensQuote, Bool.or_eq_true, beq_iff_eq] at hopens
      rcases hopens with (rfl | rfl) | rfl <;> simp [isBlank] at hc

theorem nextQuote_of_isBlank (hc : isBlank c = true) : nextQuote none c = none := by
  simp [nextQuote, opensQuote_of_isBlank hc]

theorem opensQuote_of_nextQuote {q : Char} (hquote : ∀ p ∈ quote, opensQuote p = true)
    (hnext : nextQuote quote c = some q) : opensQuote q = true := by
  cases quote with
  | some p =>
      obtain ⟨-, hsame⟩ : ¬ c = p ∧ p = q := by simpa [nextQuote] using hnext
      exact hquote q (congrArg some hsame)
  | none =>
      obtain ⟨hopens, hsame⟩ : opensQuote c = true ∧ c = q := by simpa [nextQuote] using hnext
      rw [← hsame, hopens]

theorem opensQuote_of_quoteAfter {q : Char} (hquote : ∀ p ∈ quote, opensQuote p = true)
    (hafter : quoteAfter quote text = some q) : opensQuote q = true := by
  induction text generalizing quote with
  | nil => exact hquote q hafter
  | cons c text ih => exact ih (fun p hp => opensQuote_of_nextQuote hquote hp) hafter

/-- A text without quote characters neither opens a quote nor closes one. -/
theorem quoteAfter_of_plain (hquote : ∀ p ∈ quote, opensQuote p = true)
    (htext : ∀ c ∈ text, opensQuote c = false) : quoteAfter quote text = quote := by
  induction text with
  | nil => rfl
  | cons c text ih =>
      obtain ⟨hc, hrest⟩ := List.forall_mem_cons.mp htext
      have hnext : nextQuote quote c = quote := by
        cases quote with
        | none => simp [nextQuote, hc]
        | some p =>
            have hne : c ≠ p := by
              rintro rfl
              rw [hquote c rfl] at hc
              contradiction
            simp [nextQuote, hne]
      rw [quoteAfter_cons, hnext, ih hrest]

/-- What holds of the two quotes of strings. -/
theorem of_isQuote {p : Char → Prop} (hsingle : p '\'') (hdouble : p '"') (hc : isQuote c = true) :
    p c := by
  simp only [isQuote, Bool.or_eq_true, beq_iff_eq] at hc
  rcases hc with rfl | rfl
  · exact hsingle
  · exact hdouble

theorem opensQuote_of_isQuote (hc : isQuote c = true) : opensQuote c = true :=
  of_isQuote (p := fun c => opensQuote c = true) rfl rfl hc

theorem isBlank_of_isQuote (hc : isQuote c = true) : isBlank c = false :=
  of_isQuote (p := fun c => isBlank c = false) (by decide) (by decide) hc

theorem nextQuote_of_isQuote (hc : isQuote c = true) : nextQuote none c = some c := by
  simp [nextQuote, opensQuote_of_isQuote hc]

theorem squeeze_quoted {q : Char} :
    squeeze (some q) pending (c :: rest) = c :: squeeze (nextQuote (some q) c) pending rest := rfl

theorem squeeze_blank (hc : isBlank c = true) :
    squeeze none pending (c :: rest) = squeeze none true rest := by
  simp [squeeze, hc]

theorem squeeze_plain (hc : isBlank c = false) :
    squeeze none false (c :: rest) = c :: squeeze (nextQuote none c) false rest := by
  simp [squeeze, hc, nextQuote]

theorem squeeze_pending (hc : isBlank c = false) :
    squeeze none true (c :: rest) = ' ' :: squeeze none false (c :: rest) := by
  simp [squeeze, hc]

/-- Outside quotes, or with nothing pending, a character that is not blank is written. -/
theorem squeeze_cons_false (hc : quote.isSome = true ∨ isBlank c = false) :
    squeeze quote false (c :: rest) = c :: squeeze (nextQuote quote c) false rest := by
  cases quote with
  | some q => rfl
  | none => exact squeeze_plain (by simpa using hc)

/-! ### Cutting a text -/

theorem squeeze_append :
    squeeze quote pending (text ++ rest) =
      squeeze quote pending text ++
        squeeze (quoteAfter quote text) (pendingAfter quote pending text) rest := by
  induction text generalizing quote pending with
  | nil => simp [squeeze, pendingAfter]
  | cons c text ih =>
      cases quote with
      | some q => simp [squeeze_quoted, ih, pendingAfter]
      | none =>
          cases hc : isBlank c with
          | true => simp [squeeze_blank hc, ih, pendingAfter, nextQuote_of_isBlank hc, hc]
          | false =>
              cases pending with
              | false => simp [squeeze_plain hc, ih, pendingAfter, hc]
              | true => simp [squeeze_pending hc, squeeze_plain hc, ih, pendingAfter, hc]

/-- Joining blanks makes no text longer, and shorter if blanks are left pending. -/
theorem length_squeeze_le :
    (squeeze quote pending text).length + (pendingAfter quote pending text).toNat ≤
      text.length + pending.toNat := by
  induction text generalizing quote pending with
  | nil => simp [squeeze, pendingAfter]
  | cons c text ih =>
      cases quote with
      | some q =>
          have hrest := @ih (nextQuote (some q) c) pending
          simp only [squeeze_quoted, pendingAfter, Option.isSome_some, if_true, List.length_cons]
          omega
      | none =>
          cases hc : isBlank c with
          | true =>
              have hrest := @ih none true
              simp only [squeeze_blank hc, pendingAfter, Option.isSome_none, Bool.false_eq_true,
                if_false, nextQuote_of_isBlank hc, hc, List.length_cons, Bool.toNat_true] at hrest ⊢
              omega
          | false =>
              have hrest := @ih (nextQuote none c) false
              cases pending with
              | false =>
                  simp only [squeeze_plain hc, pendingAfter, Option.isSome_none, Bool.false_eq_true,
                    if_false, hc, List.length_cons] at hrest ⊢
                  omega
              | true =>
                  simp only [squeeze_pending hc, squeeze_plain hc, pendingAfter,
                    Option.isSome_none, Bool.false_eq_true, if_false, hc, List.length_cons,
                    Bool.toNat_true, Bool.toNat_false] at hrest ⊢
                  omega

/-- A text that is left as it is leaves no blanks pending. -/
theorem pendingAfter_of_kept (hkept : squeeze quote false text = text) :
    pendingAfter quote false text = false := by
  have hlength := @length_squeeze_le quote false text
  rw [hkept] at hlength
  cases hpending : pendingAfter quote false text with
  | false => rfl
  | true =>
      simp only [hpending, Bool.toNat_true, Bool.toNat_false] at hlength
      omega

theorem squeeze_append_of_kept (hkept : squeeze quote false text = text) :
    squeeze quote false (text ++ rest) = text ++ squeeze (quoteAfter quote text) false rest := by
  rw [squeeze_append, hkept, pendingAfter_of_kept hkept]

/-! ### Blanks outside quotes -/

/-- Whether the blanks outside quotes are ASCII characters. -/
def isPlainlySpaced (quote : Option Char) : List Char → Bool
  | [] => true
  | c :: rest =>
    (quote.isSome || !isBlank c || Sql.isSpacing c) && isPlainlySpaced (nextQuote quote c) rest

theorem isPlainlySpaced_append :
    isPlainlySpaced quote (text ++ rest) =
      (isPlainlySpaced quote text && isPlainlySpaced (quoteAfter quote text) rest) := by
  induction text generalizing quote with
  | nil => rfl
  | cons c text ih => simp [isPlainlySpaced, ih, Bool.and_assoc]

/-- Pending blanks are written as one space, or not at all if nothing follows them. -/
theorem squeeze_none_true : squeeze none true text = [] ∨
    ∃ further, squeeze none true text = ' ' :: further := by
  induction text with
  | nil => exact .inl rfl
  | cons c text ih =>
      cases hc : isBlank c with
      | true =>
          rw [squeeze_blank hc]
          exact ih
      | false => exact .inr ⟨_, squeeze_pending hc⟩

/-- How far two texts go together before the first ends or has a blank: from there on the second
has a space, or ends as well. -/
inductive Alike : List Char → List Char → Prop
  | done : Alike [] []
  | gap {c : Char} {further tail : List Char} : Sql.isSpacing c = true →
      (tail = [] ∨ ∃ behind, tail = ' ' :: behind) → Alike (c :: further) tail

/-- Up to the first blank outside quotes a text is left as it is. -/
theorem exists_alike (hspaced : isPlainlySpaced quote text = true) :
    ∃ front tail tail', text = front ++ tail ∧ squeeze quote false text = front ++ tail' ∧
      Alike tail tail' := by
  induction text generalizing quote with
  | nil => exact ⟨[], [], [], rfl, rfl, .done⟩
  | cons c text ih =>
      simp only [isPlainlySpaced, Bool.and_eq_true, Bool.or_eq_true, Bool.not_eq_eq_eq_not,
        Bool.not_true] at hspaced
      obtain ⟨hc, hrest⟩ := hspaced
      by_cases hgap : quote = none ∧ isBlank c = true
      · obtain ⟨rfl, hblank⟩ := hgap
        have hspacing : Sql.isSpacing c = true := by simpa [hblank] using hc
        exact ⟨[], c :: text, squeeze none true text, rfl, squeeze_blank hblank,
          .gap hspacing squeeze_none_true⟩
      · have hwritten : quote.isSome = true ∨ isBlank c = false := by
          cases quote with
          | some q => exact .inl rfl
          | none => exact .inr (by simpa using hgap)
        obtain ⟨front, tail, tail', rfl, hsqueezed, halike⟩ := ih hrest
        exact ⟨c :: front, tail, tail', rfl, by rw [squeeze_cons_false hwritten, hsqueezed]; rfl,
          halike⟩

end SqlGateway.Shape
