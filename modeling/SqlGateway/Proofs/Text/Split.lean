import Mathlib.Data.List.Forall2
import SqlGateway.Text.Split
import SqlGateway.Proofs.Text.Prefix

/-!
# Splitting undoes joining

A text is cut at every occurrence of a character.  Parts that do not hold the character come back
unchanged from the text that they are joined to, which is how a list of names survives being sent
as one text.
-/

namespace SqlGateway.Text

theorem splitAt_ne_nil (separator : Char) (text : List Char) : splitAt separator text ≠ [] := by
  cases text with
  | nil => simp [splitAt]
  | cons c rest =>
      cases h : splitAt separator rest with
      | nil => simp [splitAt, h]
      | cons part parts => by_cases hc : c = separator <;> simp [splitAt, h, hc]

theorem splitAt_cons_self (separator : Char) (rest : List Char) :
    splitAt separator (separator :: rest) = [] :: splitAt separator rest := by
  cases h : splitAt separator rest with
  | nil => exact absurd h (splitAt_ne_nil separator rest)
  | cons part parts => simp [splitAt, h]

theorem splitAt_of_not_mem {separator : Char} {part : List Char} (hpart : separator ∉ part) :
    splitAt separator part = [part] := by
  induction part with
  | nil => rfl
  | cons c part ih =>
      simp only [List.mem_cons, not_or] at hpart
      obtain ⟨hc, hrest⟩ := hpart
      simp [splitAt, ih hrest, Ne.symm hc]

/-- The part before the first separator is the first part. -/
theorem splitAt_append {separator : Char} {part : List Char} (hpart : separator ∉ part)
    (rest : List Char) :
    splitAt separator (part ++ separator :: rest) = part :: splitAt separator rest := by
  induction part with
  | nil => exact splitAt_cons_self separator rest
  | cons c part ih =>
      simp only [List.mem_cons, not_or] at hpart
      obtain ⟨hc, hrest⟩ := hpart
      simp [splitAt, ih hrest, Ne.symm hc]

/-- Splitting undoes joining, for parts that do not hold the separator. -/
theorem splitAt_intercalate {separator : Char} {parts : List (List Char)} (hne : parts ≠ [])
    (hparts : ∀ part ∈ parts, separator ∉ part) :
    splitAt separator ([separator].intercalate parts) = parts := by
  induction parts with
  | nil => exact absurd rfl hne
  | cons part rest ih =>
      obtain ⟨hpart, hrest⟩ := List.forall_mem_cons.mp hparts
      cases rest with
      | nil => simpa [List.intercalate] using splitAt_of_not_mem hpart
      | cons next further =>
          have htail := ih (List.cons_ne_nil next further) hrest
          have hjoin : [separator].intercalate (part :: next :: further) =
              part ++ separator :: [separator].intercalate (next :: further) := by
            simp [List.intercalate]
          rw [hjoin, splitAt_append hpart, htail]

private theorem bne_of_not_mem {separator : Char} {part : List Char} (hpart : separator ∉ part) :
    ∀ c ∈ part, (c != separator) = true := by
  intro c hc
  simpa using fun h : c = separator => hpart (h ▸ hc)

/-- A text with the separator in it is cut at the first one. -/
theorem splitOnce?_append {separator : Char} {part : List Char} (hpart : separator ∉ part)
    (rest : List Char) :
    splitOnce? separator (part ++ separator :: rest) = some (part, rest) := by
  rw [splitOnce?, span_append_of_stopsAt (bne_of_not_mem hpart) (by simp)]

theorem splitOnce?_of_not_mem {separator : Char} {part : List Char} (hpart : separator ∉ part) :
    splitOnce? separator part = none := by
  have hspan : (part ++ []).span (· != separator) = (part, []) :=
    span_append_of_stopsAt (bne_of_not_mem hpart) stopsAt_nil
  rw [List.append_nil] at hspan
  rw [splitOnce?, hspan]

/-! ### The ends of a text -/

section Ends

variable {α : Type} {separator : Char} {text lead rear : List Char} {values : List α}

/-- A front without a separator belongs to the first part. -/
theorem exists_splitOn_append_left (hlead : separator ∉ lead) (text : List Char) :
    ∃ part parts, text.splitOn separator = part :: parts ∧
      (lead ++ text).splitOn separator = (lead ++ part) :: parts := by
  induction lead with
  | nil =>
      obtain ⟨part, parts, hparts⟩ :=
        List.exists_cons_of_ne_nil (List.splitOn_ne_nil separator text)
      exact ⟨part, parts, hparts, hparts⟩
  | cons c lead ih =>
      obtain ⟨hc, hrest⟩ := not_or.mp (mt List.mem_cons.mpr hlead)
      obtain ⟨part, parts, hparts, hfront⟩ := ih hrest
      refine ⟨part, parts, hparts, ?_⟩
      rw [List.cons_append, List.splitOn_cons_eq_if_modifyHead, hfront,
        if_neg (by simpa using Ne.symm hc)]
      rfl

/-- An end without a separator belongs to the last part. -/
theorem exists_splitOn_append_right (hrear : separator ∉ rear) (text : List Char) :
    ∃ parts part, text.splitOn separator = parts ++ [part] ∧
      (text ++ rear).splitOn separator = parts ++ [part ++ rear] := by
  induction text with
  | nil => exact ⟨[], [], rfl, List.splitOn_eq_singleton hrear⟩
  | cons c text ih =>
      obtain ⟨parts, part, hparts, hlonger⟩ := ih
      rw [List.cons_append, List.splitOn_cons_eq_if_modifyHead, List.splitOn_cons_eq_if_modifyHead,
        hparts, hlonger]
      split
      · exact ⟨[] :: parts, part, rfl, rfl⟩
      · cases parts with
        | nil => exact ⟨[], c :: part, rfl, rfl⟩
        | cons first parts => exact ⟨(c :: first) :: parts, part, rfl, rfl⟩

/-- Ends without a separator may be dropped where each part may drop them. -/
theorem forall₂_splitOn_of_append {R : List Char → α → Prop} (hlead : separator ∉ lead)
    (hrear : separator ∉ rear) (hleft : ∀ part value, R (lead ++ part) value → R part value)
    (hright : ∀ part value, R (part ++ rear) value → R part value)
    (hparts : List.Forall₂ R ((lead ++ (text ++ rear)).splitOn separator) values) :
    List.Forall₂ R (text.splitOn separator) values := by
  have hlonger : List.Forall₂ R ((text ++ rear).splitOn separator) values := by
    obtain ⟨first, more, hfirst, hfront⟩ := exists_splitOn_append_left hlead (text ++ rear)
    rw [hfront] at hparts
    rw [hfirst]
    cases hparts with
    | cons hvalue hvalues => exact .cons (hleft _ _ hvalue) hvalues
  obtain ⟨parts, last, htext, hend⟩ := exists_splitOn_append_right hrear text
  rw [hend] at hlonger
  rw [htext]
  clear htext hend hparts
  induction parts generalizing values with
  | nil =>
      cases hlonger with
      | cons hvalue hvalues => exact .cons (hright _ _ hvalue) hvalues
  | cons part parts ih =>
      cases hlonger with
      | cons hvalue hvalues => exact .cons hvalue (ih hvalues)

end Ends

end SqlGateway.Text
