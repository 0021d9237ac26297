import SqlGateway.Proofs.Shape.Boundary

/-!
# The fields of a select list

A field is a name, perhaps with a label behind a gap, and the word `AS` may stand between the two:

  `name`, `name label`, `name AS label`

The reader decides step by step whether a word is `AS` or a label, and goes back where it was wrong.
It is never wrong: `AS` is a keyword of a query, and so no name (`skipAs_name`).  Therefore the
reader takes exactly the texts of this grammar (`takesSegments_field`).
-/

namespace SqlGateway.Shape

open Text

variable {text rest name label rear : List Char}

/-! ### Names and labels -/

/-- A name of a field: letters, digits and underscores that make no keyword. -/
structure IsFieldName (name : List Char) : Prop where
  ne_nil : name ≠ []
  parts : ∀ c ∈ name, isNamePart c = true
  free : isSelectKeyword name = false

/-- A gap that separates two words. -/
structure IsGapText (gap : List Char) : Prop where
  ne_nil : gap ≠ []
  all : ∀ c ∈ gap, isGap c = true

/-- A label with what stands between it and a name: a gap, or the word `AS` with gaps around it. -/
inductive IsLabelText : List Char → List Char → Prop
  | bare {gap label : List Char} : IsGapText gap → IsFieldName label →
      IsLabelText (gap ++ label) label
  | marked {gap marker behind label : List Char} : IsGapText gap →
      Value.isWordOf "AS" marker = true → IsGapText behind → IsFieldName label →
        IsLabelText (gap ++ (marker ++ (behind ++ label))) label

/-- A field with the column that it stands for: a name with gaps around it, perhaps with a label. -/
inductive IsFieldText : List Char → SelectColumn → Prop
  | plain {lead name rear : List Char} : (∀ c ∈ lead, isGap c = true) → IsFieldName name →
      (∀ c ∈ rear, isGap c = true) →
        IsFieldText (lead ++ (name ++ rear)) (.named (String.ofList name) none)
  | labelled {lead name front label rear : List Char} : (∀ c ∈ lead, isGap c = true) →
      IsFieldName name → IsLabelText front label → (∀ c ∈ rear, isGap c = true) →
        IsFieldText (lead ++ (name ++ (front ++ rear)))
          (.named (String.ofList name) (some (String.ofList label)))

theorem isGap_of_isNamePart {c : Char} (hc : isNamePart c = true) : isGap c = false :=
  isGap_eq_false (isBlank_of_isBarePart (isBarePart_of_isNamePart hc))

theorem stopsAt_word {word : List Char} (hne : word ≠ [])
    (hparts : ∀ c ∈ word, isNamePart c = true) : StopsAt isGap (word ++ rest) := by
  cases word with
  | nil => exact absurd rfl hne
  | cons c word => exact stopsAt_cons.mpr (isGap_of_isNamePart (hparts c List.mem_cons_self))

theorem IsFieldName.stopsAt (hname : IsFieldName name) : StopsAt isGap (name ++ rest) :=
  stopsAt_word hname.ne_nil hname.parts

theorem IsGapText.stopsAt {gap : List Char} (hgap : IsGapText gap) :
    StopsAt isNamePart (gap ++ rest) := by
  cases gap with
  | nil => exact absurd rfl hgap.ne_nil
  | cons c gap => exact stopsAt_cons.mpr (isNamePart_of_isGap (hgap.all c List.mem_cons_self))

theorem IsLabelText.stopsAt (hlabel : IsLabelText text label) :
    StopsAt isNamePart (text ++ rest) := by
  cases hlabel with
  | bare hgap _ =>
      rw [List.append_assoc]
      exact hgap.stopsAt
  | marked hgap _ _ _ =>
      rw [List.append_assoc]
      exact hgap.stopsAt

theorem IsLabelText.isFieldName (hlabel : IsLabelText text label) : IsFieldName label := by
  cases hlabel with
  | bare _ hname => exact hname
  | marked _ _ _ hname => exact hname

theorem stopsAt_rear (hrear : ∀ c ∈ rear, isGap c = true) (hrest : AtComma rest) :
    StopsAt isNamePart (rear ++ rest) :=
  forall_head?_of_gap hrear (fun _ => isNamePart_of_isGap) (hrest.stopsAt (by decide))

/-! ### What the reader takes -/

theorem readFieldName?_eq_some_iff : readFieldName? text = some (name, rest) ↔
    text = name ++ rest ∧ IsFieldName name ∧ StopsAt isNamePart rest := by
  rw [readFieldName?, Option.filter_eq_some_iff, readName?_eq_some_iff]
  constructor
  · rintro ⟨⟨htext, hne, hparts, hstops⟩, hfree⟩
    exact ⟨htext, ⟨hne, hparts, by simpa using hfree⟩, hstops⟩
  · rintro ⟨htext, ⟨hne, hparts, hfree⟩, hstops⟩
    exact ⟨⟨htext, hne, hparts, hstops⟩, by simpa using hfree⟩

section As

variable {marker : List Char} (hmarker : Value.isWordOf "AS" marker = true)
include hmarker

theorem isNamePart_of_isAs : ∀ c ∈ marker, isNamePart c = true :=
  isNamePart_of_isWordOf (by decide) hmarker

theorem length_of_isAs : marker.length = 2 := by
  have hsame := congrArg List.length (beq_iff_eq.mp hmarker)
  simpa using hsame

theorem isSelectKeyword_of_isAs : isSelectKeyword marker = true :=
  List.any_eq_true.mpr ⟨"AS", by decide, hmarker⟩

theorem skipAs_marker {gap : List Char} (hgap : IsGapText gap) :
    skipAs (marker ++ (gap ++ rest)) = skipGap rest := by
  obtain ⟨a, s, rfl⟩ := List.length_eq_two.mp (length_of_isAs hmarker)
  cases gap with
  | nil => exact absurd rfl hgap.ne_nil
  | cons c gap =>
      have hskip : skipGap (c :: gap ++ rest) = skipGap rest := skipGap_append hgap.all rest
      simpa [skipAs, hmarker, hgap.all c List.mem_cons_self] using hskip

end As

/-- A name is not taken for the word `AS`. -/
theorem skipAs_name (hname : IsFieldName name) (hrest : StopsAt isNamePart rest) :
    skipAs (name ++ rest) = name ++ rest := by
  rcases skipAs_cases (name ++ rest) with hnone | ⟨marker, gap, hsplit, hmarker, hne, hgap⟩
  · exact hnone
  · obtain ⟨rfl, -⟩ := append_inj_of_stopsAt hname.parts hrest (isNamePart_of_isAs hmarker)
      (IsGapText.stopsAt ⟨hne, hgap⟩) hsplit
    have hkeyword := isSelectKeyword_of_isAs hmarker
    rw [hname.free] at hkeyword
    contradiction

/-- Where no word begins there is neither a name nor the word `AS`. -/
theorem readFieldName?_of_stopsAt (htext : StopsAt isNamePart text) :
    skipAs text = text ∧ readFieldName? text = none := by
  have hword : ∀ {word behind : List Char}, text = word ++ behind → word ≠ [] →
      ¬∀ c ∈ word, isNamePart c = true := by
    intro word behind hsplit hne hparts
    cases word with
    | nil => contradiction
    | cons c word =>
        have hc := htext c (by rw [hsplit]; rfl)
        rw [hparts c List.mem_cons_self] at hc
        contradiction
  constructor
  · rcases skipAs_cases text with hnone | ⟨marker, gap, hsplit, hmarker, -, -⟩
    · exact hnone
    · have hne : marker ≠ [] := List.ne_nil_of_length_eq_add_one (length_of_isAs hmarker)
      exact absurd (isNamePart_of_isAs hmarker) (hword hsplit hne)
  · cases hread : readFieldName? text with
    | none => rfl
    | some found =>
        obtain ⟨hsplit, hname, -⟩ := readFieldName?_eq_some_iff.mp hread
        exact absurd hname.parts (hword hsplit hname.ne_nil)

theorem readLabel?_append {gap : List Char} (hgap : IsGapText gap) (behind : List Char) :
    readLabel? (gap ++ behind) = readFieldName? (skipAs (skipGap behind)) := by
  cases gap with
  | nil => exact absurd rfl hgap.ne_nil
  | cons c gap =>
      obtain ⟨hc, hrest⟩ := List.forall_mem_cons.mp hgap.all
      rw [List.cons_append, readLabel?, if_pos hc, skipGap_append hrest]

/-- A label is read from behind its gap, and the word `AS` before it does not count. -/
theorem readLabel?_eq_some_iff : readLabel? text = some (label, rest) ↔
    ∃ front, text = front ++ rest ∧ IsLabelText front label ∧ StopsAt isNamePart rest := by
  constructor
  · intro hread
    cases text with
    | nil => contradiction
    | cons c text =>
        rw [readLabel?] at hread
        split at hread
        · rename_i hc
          obtain ⟨gap, hsplit, hne, hgap⟩ := exists_gap_of_isGap hc text
          obtain ⟨hlabel, hname, hstops⟩ := readFieldName?_eq_some_iff.mp hread
          rcases skipAs_cases (skipGap text) with hnone | ⟨marker, more, hmore, has, hmoreNe, hgaps⟩
          · refine ⟨gap ++ label, ?_, .bare ⟨hne, hgap⟩ hname, hstops⟩
            rw [hsplit, List.append_assoc, ← hlabel, hnone]
          · refine ⟨_, ?_, .marked ⟨hne, hgap⟩ has ⟨hmoreNe, hgaps⟩ hname, hstops⟩
            rw [hsplit, hmore, hlabel]
            simp only [List.append_assoc]
        · contradiction
  · rintro ⟨front, rfl, hlabel, hstops⟩
    cases hlabel with
    | bare hgap hname =>
        rw [List.append_assoc, readLabel?_append hgap, skipGap_eq_self hname.stopsAt,
          skipAs_name hname hstops]
        exact readFieldName?_eq_some_iff.mpr ⟨rfl, hname, hstops⟩
    | @marked gap marker behind label hgap has hbehind hname =>
        have hmarker : StopsAt isGap (marker ++ (behind ++ (label ++ rest))) :=
          stopsAt_word (List.ne_nil_of_length_eq_add_one (length_of_isAs has))
            (isNamePart_of_isAs has)
        simp only [List.append_assoc]
        rw [readLabel?_append hgap, skipGap_eq_self hmarker, skipAs_marker has hbehind,
          skipGap_eq_self hname.stopsAt]
        exact readFieldName?_eq_some_iff.mpr ⟨rfl, hname, hstops⟩

/-- A gap at the end of a field is no label. -/
theorem readLabel?_rear (hrear : ∀ c ∈ rear, isGap c = true) (hrest : AtComma rest) :
    readLabel? (rear ++ rest) = none := by
  by_cases hne : rear = []
  · rw [hne, List.nil_append]
    cases rest with
    | nil => rfl
    | cons c rest =>
        rw [hrest c rfl]
        rfl
  · obtain ⟨hskip, hnone⟩ := readFieldName?_of_stopsAt (hrest.stopsAt (by decide))
    rw [readLabel?_append ⟨hne, hrear⟩, skipGap_of_atComma hrest, hskip, hnone]

/-- The reader of fields takes just these texts. -/
theorem takesSegments_field : TakesSegments readField? IsFieldText where
  exists_segment := by
    intro text column rest hread
    obtain ⟨⟨found, behind⟩, hfield, heq⟩ := Option.map_eq_some_iff.mp hread
    cases heq
    obtain ⟨lead, htext, hlead, -⟩ := exists_skipGap text
    obtain ⟨rear, hbehind, hrear, -⟩ := exists_skipGap behind
    rw [readField?] at hfield
    split at hfield
    · contradiction
    rename_i name afterName hname
    obtain ⟨hsplit, hnameText, -⟩ := readFieldName?_eq_some_iff.mp hname
    split at hfield
    · rename_i label afterLabel hlabel
      cases hfield
      obtain ⟨front, hafterName, hlabelText, -⟩ := readLabel?_eq_some_iff.mp hlabel
      refine ⟨_, ?_, .labelled hlead hnameText hlabelText hrear⟩
      rw [htext, hsplit, hafterName]
      conv_lhs => rw [hbehind]
      simp only [List.append_assoc]
    · cases hfield
      refine ⟨_, ?_, .plain hlead hnameText hrear⟩
      rw [htext, hsplit]
      conv_lhs => rw [hbehind]
      simp only [List.append_assoc]
  isSegment := by
    intro seg column hfield rest hrest
    cases hfield with
    | @plain lead name rear hlead hname hrear =>
        have hstops : StopsAt isNamePart (rear ++ rest) := stopsAt_rear hrear hrest
        have hnone : readLabel? (rear ++ rest) = none := readLabel?_rear hrear hrest
        have hnameRead : readFieldName? (name ++ (rear ++ rest)) = some (name, rear ++ rest) :=
          readFieldName?_eq_some_iff.mpr ⟨rfl, hname, hstops⟩
        simp only [List.append_assoc]
        rw [padded, skipGap_append hlead, skipGap_eq_self hname.stopsAt, readField?, hnameRead]
        simp only [hnone, Option.map_some, skipGap_append hrear, skipGap_of_atComma hrest]
    | @labelled lead name front label rear hlead hname hlabel hrear =>
        have hnameRead : readFieldName? (name ++ (front ++ (rear ++ rest))) =
            some (name, front ++ (rear ++ rest)) :=
          readFieldName?_eq_some_iff.mpr ⟨rfl, hname, hlabel.stopsAt⟩
        have hlabelRead : readLabel? (front ++ (rear ++ rest)) = some (label, rear ++ rest) :=
          readLabel?_eq_some_iff.mpr ⟨front, rfl, hlabel, stopsAt_rear hrear hrest⟩
        simp only [List.append_assoc]
        rw [padded, skipGap_append hlead, skipGap_eq_self hname.stopsAt, readField?, hnameRead]
        simp only [hlabelRead, Option.map_some, skipGap_append hrear, skipGap_of_atComma hrest]

end SqlGateway.Shape
