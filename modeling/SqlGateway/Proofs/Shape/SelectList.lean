import SqlGateway.Proofs.Shape.Fields
import SqlGateway.Proofs.Text.Split

/-!
# Select lists by their words

A select list is cut at its commas into fields, and a field at its gaps into words.  Whether a field
is a column can be told from these words alone: without an `AS` between two others they are one name
or two, and none of them is a keyword (`isFieldText_iff`).  So there is a list of columns for every
list whose fields all are of this kind, and a single field that is not makes the reader refuse the
whole list.
-/

namespace SqlGateway.Shape

open Text

variable {text rest name label lead rear field : List Char} {column : SelectColumn}

/-! ### Words -/

/-- The words of a field, between its gaps. -/
def fieldWords (field : List Char) : List (List Char) :=
  (field.splitOnP isGap).filter fun word => !word.isEmpty

/-- The words that stand in the place of a name or of a label: an `AS` between two others does
not. -/
def nameWords : List (List Char) → List (List Char)
  | name :: marker :: label :: further =>
    if Value.isWordOf "AS" marker then name :: label :: further
    else name :: marker :: label :: further
  | words => words

/-- A text of parts of names and of gaps. -/
def IsWordText (text : List Char) : Prop :=
  ∀ c ∈ text, isNamePart c = true ∨ isGap c = true

theorem IsWordText.append (htext : IsWordText text) (hrest : IsWordText rest) :
    IsWordText (text ++ rest) :=
  List.forall_mem_append.mpr ⟨htext, hrest⟩

theorem IsWordText.of_append (htext : IsWordText (text ++ rest)) :
    IsWordText text ∧ IsWordText rest :=
  List.forall_mem_append.mp htext

theorem isWordText_of_gap (htext : ∀ c ∈ text, isGap c = true) : IsWordText text :=
  fun c hc => .inr (htext c hc)

theorem isWordText_of_parts (htext : ∀ c ∈ text, isNamePart c = true) : IsWordText text :=
  fun c hc => .inl (htext c hc)

theorem IsLabelText.isWordText (hlabel : IsLabelText text label) : IsWordText text := by
  cases hlabel with
  | bare hgap hname => exact (isWordText_of_gap hgap.all).append (isWordText_of_parts hname.parts)
  | marked hgap hmarker hbehind hname =>
      exact (isWordText_of_gap hgap.all).append
        ((isWordText_of_parts (isNamePart_of_isAs hmarker)).append
          ((isWordText_of_gap hbehind.all).append (isWordText_of_parts hname.parts)))

theorem fieldWords_append_cons {c : Char} (hc : isGap c = true) (front rest : List Char) :
    fieldWords (front ++ c :: rest) = fieldWords front ++ fieldWords rest := by
  rw [fieldWords, List.splitOnP_append_cons front rest hc, List.filter_append]
  rfl

@[simp] theorem fieldWords_nil : fieldWords [] = [] := rfl

theorem fieldWords_gap_append {gap : List Char} (hgap : ∀ c ∈ gap, isGap c = true)
    (rest : List Char) : fieldWords (gap ++ rest) = fieldWords rest := by
  induction gap with
  | nil => rfl
  | cons c gap ih =>
      obtain ⟨hc, hgap⟩ := List.forall_mem_cons.mp hgap
      have hcut := fieldWords_append_cons hc [] (gap ++ rest)
      rw [List.nil_append, fieldWords_nil, List.nil_append, ih hgap] at hcut
      exact hcut

theorem fieldWords_append_gap {gap : List Char} (hgap : ∀ c ∈ gap, isGap c = true)
    (front : List Char) : fieldWords (front ++ gap) = fieldWords front := by
  cases gap with
  | nil => rw [List.append_nil]
  | cons c gap =>
      obtain ⟨hc, hgap⟩ := List.forall_mem_cons.mp hgap
      have hnone : fieldWords gap = [] := by
        have hempty := fieldWords_gap_append hgap []
        rwa [List.append_nil] at hempty
      rw [fieldWords_append_cons hc, hnone, List.append_nil]

theorem fieldWords_append {gap : List Char} (hgap : IsGapText gap) (front rest : List Char) :
    fieldWords (front ++ (gap ++ rest)) = fieldWords front ++ fieldWords rest := by
  obtain ⟨hne, hgap⟩ := hgap
  cases gap with
  | nil => exact absurd rfl hne
  | cons c gap =>
      obtain ⟨hc, hgap⟩ := List.forall_mem_cons.mp hgap
      rw [List.cons_append, fieldWords_append_cons hc, fieldWords_gap_append hgap]

theorem fieldWords_word {word : List Char} (hne : word ≠ [])
    (hparts : ∀ c ∈ word, isNamePart c = true) : fieldWords word = [word] := by
  rw [fieldWords, List.splitOnP_eq_singleton fun c hc => isGap_of_isNamePart (hparts c hc)]
  simp [hne]

theorem IsFieldName.fieldWords_eq (hname : IsFieldName name) : fieldWords name = [name] :=
  fieldWords_word hname.ne_nil hname.parts

theorem fieldWords_word_append {word : List Char} (hne : word ≠ [])
    (hparts : ∀ c ∈ word, isNamePart c = true) (hrest : ∀ c ∈ rest.head?, isGap c = true) :
    fieldWords (word ++ rest) = word :: fieldWords rest := by
  cases rest with
  | nil => rw [List.append_nil, fieldWords_word hne hparts, fieldWords_nil]
  | cons c rest =>
      have hc : isGap c = true := hrest c rfl
      have hskip := fieldWords_gap_append (List.forall_mem_singleton.mpr hc) rest
      rw [List.singleton_append] at hskip
      rw [fieldWords_append_cons hc, fieldWords_word hne hparts, hskip, List.singleton_append]

/-- A text begins with a word, perhaps behind a gap, and goes on with another gap if at all. -/
structure StartsWithWord (text lead word rest : List Char) : Prop where
  text : text = lead ++ (word ++ rest)
  lead : ∀ c ∈ lead, isGap c = true
  ne_nil : word ≠ []
  parts : ∀ c ∈ word, isNamePart c = true
  head : ∀ c ∈ rest.head?, isGap c = true

/-- A text of words is all gap, or else it has a first word. -/
theorem fieldWords_cases (hparts : IsWordText text) :
    ((∀ c ∈ text, isGap c = true) ∧ fieldWords text = []) ∨ ∃ lead word rest,
      StartsWithWord text lead word rest ∧ fieldWords text = word :: fieldWords rest := by
  obtain ⟨lead, htext, hlead, hhead⟩ := exists_skipGap text
  cases hname : readName? (skipGap text) with
  | none =>
      -- what is left begins neither with a gap nor with a name
      have hnil : skipGap text = [] := by
        cases hskip : skipGap text with
        | nil => rfl
        | cons c rest =>
            have hc := hparts c (htext ▸ by simp [hskip])
            simp [hhead c (by rw [hskip]; rfl)] at hc
            simp [readName?, hskip, hc] at hname
      rw [hnil, List.append_nil] at htext
      have hempty := fieldWords_gap_append hlead []
      rw [List.append_nil, ← htext] at hempty
      exact .inl ⟨htext ▸ hlead, hempty⟩
  | some found =>
      obtain ⟨hsplit, hne, hword, hstops⟩ := readName?_eq_some_iff.mp hname
      rw [hsplit] at htext
      have hgap : ∀ c ∈ found.2.head?, isGap c = true := by
        intro c hc
        have hpart := hparts c (by
          rw [htext]
          simp [List.mem_of_mem_head? hc])
        rw [hstops c hc] at hpart
        simpa using hpart
      refine .inr ⟨lead, found.1, found.2, ⟨htext, hlead, hne, hword, hgap⟩, ?_⟩
      rw [htext, fieldWords_gap_append hlead, fieldWords_word_append hne hword hgap]

section Words

variable (hparts : IsWordText text)
include hparts

theorem forall_isGap_of_fieldWords (hwords : fieldWords text = []) :
    ∀ c ∈ text, isGap c = true := by
  rcases fieldWords_cases hparts with ⟨hgap, -⟩ | ⟨lead, word, rest, -, heq⟩
  · exact hgap
  · rw [hwords] at heq
    contradiction

/-- The first word of a text, with what is in front of it and what is behind it. -/
theorem exists_startsWithWord {word : List Char} {words : List (List Char)}
    (hwords : fieldWords text = word :: words) :
    ∃ lead rest, StartsWithWord text lead word rest ∧ IsWordText rest ∧
      fieldWords rest = words := by
  rcases fieldWords_cases hparts with ⟨-, heq⟩ | ⟨lead, first, rest, hbegins, heq⟩
  · rw [hwords] at heq
    contradiction
  · rw [hwords] at heq
    obtain ⟨rfl, rfl⟩ := List.cons.inj heq
    rw [hbegins.text] at hparts
    exact ⟨lead, rest, hbegins, hparts.of_append.2.of_append.2, rfl⟩

end Words

/-- A word that a gap has to stand in front of. -/
theorem StartsWithWord.isGapText {word : List Char} (hbegins : StartsWithWord text lead word rest)
    (hhead : ∀ c ∈ text.head?, isGap c = true) : IsGapText lead := by
  obtain ⟨rfl, hlead, hne, hword, -⟩ := hbegins
  refine ⟨?_, hlead⟩
  rintro rfl
  cases word with
  | nil => contradiction
  | cons c word =>
      have hc := hhead c rfl
      rw [isGap_of_isNamePart (hword c List.mem_cons_self)] at hc
      contradiction

/-- Behind a name, a word or an `AS` and a word make a label. -/
theorem exists_label_of_fieldWords (hparts : IsWordText text)
    (hhead : ∀ c ∈ text.head?, isGap c = true) (hfree : isSelectKeyword label = false)
    (hwords : fieldWords text = [label] ∨
      ∃ marker, Value.isWordOf "AS" marker = true ∧ fieldWords text = [marker, label]) :
    ∃ front rear, text = front ++ rear ∧ IsLabelText front label ∧
      ∀ c ∈ rear, isGap c = true := by
  rcases hwords with hwords | ⟨marker, hmarker, hwords⟩
  · obtain ⟨gap, rear, hlabel, hrear, hnone⟩ := exists_startsWithWord hparts hwords
    refine ⟨gap ++ label, rear, ?_, .bare (hlabel.isGapText hhead) ?_,
      forall_isGap_of_fieldWords hrear hnone⟩
    · rw [hlabel.text, List.append_assoc]
    · exact ⟨hlabel.ne_nil, hlabel.parts, hfree⟩
  · obtain ⟨gap, rest, hfirst, hrest, hlast⟩ := exists_startsWithWord hparts hwords
    obtain ⟨behind, rear, hlabel, hrear, hnone⟩ := exists_startsWithWord hrest hlast
    refine ⟨gap ++ (marker ++ (behind ++ label)), rear, ?_,
      .marked (hfirst.isGapText hhead) hmarker (hlabel.isGapText hfirst.head) ?_,
      forall_isGap_of_fieldWords hrear hnone⟩
    · rw [hfirst.text, hlabel.text]
      simp only [List.append_assoc]
    · exact ⟨hlabel.ne_nil, hlabel.parts, hfree⟩

theorem nameWords_eq_nil {words : List (List Char)} (hwords : nameWords words = []) :
    words = [] := by
  unfold nameWords at hwords
  split at hwords
  · split at hwords <;> contradiction
  · exact hwords

theorem nameWords_eq_cons {words labels : List (List Char)}
    (hwords : nameWords words = name :: labels) :
    words = name :: labels ∨ ∃ marker label further, Value.isWordOf "AS" marker = true ∧
      labels = label :: further ∧ words = name :: marker :: label :: further := by
  unfold nameWords at hwords
  split at hwords
  · rename_i first marker label further
    split at hwords
    · rename_i hmarker
      cases hwords
      exact .inr ⟨marker, label, further, hmarker, rfl, rfl⟩
    · exact .inl hwords
  · exact .inl hwords

/-- The names of a column: its own, and its label. -/
def namesOf : SelectColumn → List (List Char)
  | .star => []
  | .named name label => name.toList :: (label.map String.toList).toList

theorem IsLabelText.nameWords_eq (hlabel : IsLabelText text label) (hname : IsFieldName name) :
    nameWords (fieldWords (name ++ text)) = [name, label] := by
  cases hlabel with
  | bare hgap hlabel =>
      rw [fieldWords_append hgap, hname.fieldWords_eq, hlabel.fieldWords_eq]
      rfl
  | marked hgap hmarker hbehind hlabel =>
      have hmarkerNe := List.ne_nil_of_length_eq_add_one (length_of_isAs hmarker)
      rw [fieldWords_append hgap, fieldWords_append hbehind, hname.fieldWords_eq,
        hlabel.fieldWords_eq, fieldWords_word hmarkerNe (isNamePart_of_isAs hmarker)]
      simp [nameWords, hmarker]

theorem IsFieldText.isWordText (hfield : IsFieldText field column) : IsWordText field := by
  cases hfield with
  | plain hlead hname hrear =>
      exact (isWordText_of_gap hlead).append
        ((isWordText_of_parts hname.parts).append (isWordText_of_gap hrear))
  | labelled hlead hname hlabel hrear =>
      exact (isWordText_of_gap hlead).append ((isWordText_of_parts hname.parts).append
        (hlabel.isWordText.append (isWordText_of_gap hrear)))

theorem IsFieldText.nameWords_eq (hfield : IsFieldText field column) :
    nameWords (fieldWords field) = namesOf column := by
  cases hfield with
  | plain hlead hname hrear =>
      rw [fieldWords_gap_append hlead, fieldWords_append_gap hrear, hname.fieldWords_eq]
      simp [nameWords, namesOf]
  | labelled hlead hname hlabel hrear =>
      rw [fieldWords_gap_append hlead, ← List.append_assoc, fieldWords_append_gap hrear,
        hlabel.nameWords_eq hname]
      simp [namesOf]

theorem IsFieldText.free (hfield : IsFieldText field column) :
    column ≠ .star ∧ ∀ word ∈ namesOf column, isSelectKeyword word = false := by
  cases hfield with
  | plain _ hname _ => exact ⟨nofun, by simpa [namesOf] using hname.free⟩
  | labelled _ hname hlabel _ =>
      exact ⟨nofun, by simpa [namesOf] using And.intro hname.free hlabel.isFieldName.free⟩

/-- The words of a field whose names are those of a column. -/
theorem words_cases {words : List (List Char)} {name : String} {label : Option String}
    (hwords : nameWords words = namesOf (.named name label)) :
    (words = [name.toList] ∧ label = none) ∨
      ∃ text more, label = some text ∧ words = name.toList :: more ∧ (more = [text.toList] ∨
        ∃ marker, Value.isWordOf "AS" marker = true ∧ more = [marker, text.toList]) := by
  cases label with
  | none =>
      rcases nameWords_eq_cons hwords with heq | ⟨marker, word, further, -, heq, -⟩
      · exact .inl ⟨heq, rfl⟩
      · contradiction
  | some text =>
      rcases nameWords_eq_cons hwords with heq | ⟨marker, word, further, hmarker, heq, hmarked⟩
      · exact .inr ⟨text, _, rfl, heq, .inl rfl⟩
      · cases heq
        exact .inr ⟨text, _, rfl, hmarked, .inr ⟨marker, hmarker, rfl⟩⟩

/-- A field stands for a column exactly if its words are the names of the column, and none of them
is a keyword. -/
theorem isFieldText_iff : IsFieldText field column ↔ IsWordText field ∧
    nameWords (fieldWords field) = namesOf column ∧
      column ≠ .star ∧ ∀ word ∈ namesOf column, isSelectKeyword word = false := by
  constructor
  · intro hfield
    exact ⟨hfield.isWordText, hfield.nameWords_eq, hfield.free⟩
  · rintro ⟨hparts, hwords, hstar, hfree⟩
    cases column with
    | star => exact absurd rfl hstar
    | named name label =>
        have hnameFree : isSelectKeyword name.toList = false := hfree _ List.mem_cons_self
        rcases words_cases hwords with ⟨hword, rfl⟩ | ⟨labelText, more, rfl, hmore, hlabel⟩
        · obtain ⟨lead, rear, hname, hrear, hnone⟩ := exists_startsWithWord hparts hword
          have hfield := IsFieldText.plain hname.lead ⟨hname.ne_nil, hname.parts, hnameFree⟩
            (forall_isGap_of_fieldWords hrear hnone)
          rwa [String.ofList_toList, ← hname.text] at hfield
        · have hlabelFree : isSelectKeyword labelText.toList = false := hfree _ (by simp [namesOf])
          obtain ⟨lead, rest, hname, hrest, hbehind⟩ := exists_startsWithWord hparts hmore
          rw [← hbehind] at hlabel
          obtain ⟨front, rear, rfl, hfront, hrear⟩ :=
            exists_label_of_fieldWords hrest hname.head hlabelFree hlabel
          have hfield := IsFieldText.labelled hname.lead ⟨hname.ne_nil, hname.parts, hnameFree⟩
            hfront hrear
          rwa [String.ofList_toList, String.ofList_toList, ← hname.text] at hfield

/-! ### Unfit fields -/

/-- A field is no column. -/
inductive IsUnfit (field : List Char) : Prop
  /-- A character is neither part of a name nor gap. -/
  | foreign {c : Char} : c ∈ field → isNamePart c = false → isGap c = false → IsUnfit field
  /-- A keyword stands in the place of a name or of a label. -/
  | keyword {word : List Char} : word ∈ nameWords (fieldWords field) →
      isSelectKeyword word = true → IsUnfit field
  /-- There is more than a name and a label. -/
  | crowded : 2 < (nameWords (fieldWords field)).length → IsUnfit field
  /-- There is no word at all. -/
  | empty : fieldWords field = [] → IsUnfit field

theorem IsFieldText.fieldWords_ne_nil (hfield : IsFieldText field column) :
    fieldWords field ≠ [] := by
  intro hnil
  have hwords := hfield.nameWords_eq
  rw [hnil] at hwords
  cases hfield with
  | plain => contradiction
  | labelled => contradiction

theorem length_namesOf_le (column : SelectColumn) : (namesOf column).length ≤ 2 := by
  rcases column with _ | ⟨name, _ | label⟩ <;> simp [namesOf]

/-- A field is a column unless it is unfit. -/
theorem exists_isFieldText_iff : (∃ column, IsFieldText field column) ↔ ¬IsUnfit field := by
  constructor
  · rintro ⟨column, hfield⟩ hunfit
    cases hunfit with
    | foreign hc hpart hgap => simpa [hpart, hgap] using hfield.isWordText _ hc
    | keyword hword hkeyword =>
        rw [hfield.nameWords_eq] at hword
        rw [hfield.free.2 _ hword] at hkeyword
        contradiction
    | crowded hcrowded =>
        rw [hfield.nameWords_eq] at hcrowded
        have hlength := length_namesOf_le column
        omega
    | empty hempty => exact hfield.fieldWords_ne_nil hempty
  · intro hfit
    have hparts : IsWordText field := by
      intro c hc
      by_contra hother
      simp only [not_or, Bool.not_eq_true] at hother
      exact hfit (.foreign hc hother.1 hother.2)
    have hfree : ∀ word ∈ nameWords (fieldWords field), isSelectKeyword word = false := by
      intro word hword
      rw [← Bool.not_eq_true]
      exact fun hkeyword => hfit (.keyword hword hkeyword)
    rcases hwords : nameWords (fieldWords field) with _ | ⟨name, _ | ⟨label, _ | ⟨third, more⟩⟩⟩
    · exact absurd (.empty (nameWords_eq_nil hwords)) hfit
    · refine ⟨.named (String.ofList name) none, isFieldText_iff.mpr ⟨hparts, ?_, nofun, ?_⟩⟩
      · simpa [namesOf] using hwords
      · simpa [namesOf, hwords] using hfree
    · refine ⟨.named (String.ofList name) (some (String.ofList label)),
        isFieldText_iff.mpr ⟨hparts, ?_, nofun, ?_⟩⟩
      · simpa [namesOf] using hwords
      · simpa [namesOf, hwords] using hfree
    · exact absurd (.crowded (by rw [hwords]; simp)) hfit

/-! ### Lists -/

theorem IsFieldText.comma_not_mem (hfield : IsFieldText field column) : ',' ∉ field := by
  intro hcomma
  rcases hfield.isWordText ',' hcomma with h | h <;> exact absurd h (by decide)

/-- A list is read field by field. -/
theorem readWholeList?_field_eq_some_iff {columns : List SelectColumn} :
    readWholeList? readField? text = some columns ↔
      List.Forall₂ IsFieldText (text.splitOn ',') columns := by
  rw [readWholeList?_eq_some_iff, takesSegments_field.readList?_eq_some_iff]
  constructor
  · rintro ⟨segs, hne, hsegs, rfl⟩
    have hplain : ∀ seg ∈ segs, ',' ∉ seg := by
      intro seg hseg
      obtain ⟨column, hfield⟩ := exists_forall₂_iff.mp ⟨columns, hsegs⟩ seg hseg
      exact hfield.comma_not_mem
    rwa [List.splitOn_intercalate ',' hplain hne]
  · intro hfields
    exact ⟨text.splitOn ',', List.splitOn_ne_nil ',' text, hfields,
      (List.intercalate_splitOn ',').symm⟩

/-- A list that begins or ends with blanks is read without them. -/
theorem forall₂_field_trim {columns : List SelectColumn}
    (hfields : List.Forall₂ IsFieldText (text.splitOn ',') columns) :
    List.Forall₂ IsFieldText ((trim text).splitOn ',') columns := by
  obtain ⟨lead, rear, hsplit, hlead, hrear⟩ := exists_trim_append text
  have hcomma : ∀ {blanks : List Char}, (∀ c ∈ blanks, isBlank c = true) → ',' ∉ blanks :=
    fun hblanks hmem => absurd (hblanks ',' hmem) (by decide)
  have hgap : ∀ {blanks : List Char}, (∀ c ∈ blanks, isBlank c = true) → IsWordText blanks →
      ∀ c ∈ blanks, isGap c = true := by
    intro blanks hblanks hparts c hc
    rcases hparts c hc with hpart | hgap
    · rw [isNamePart_of_isBlank (hblanks c hc)] at hpart
      contradiction
    · exact hgap
  rw [hsplit] at hfields
  refine forall₂_splitOn_of_append (hcomma hlead) (hcomma hrear) ?_ ?_ hfields
  · intro part column hfield
    obtain ⟨hparts, hwords, hfree⟩ := isFieldText_iff.mp hfield
    rw [fieldWords_gap_append (hgap hlead hparts.of_append.1)] at hwords
    exact isFieldText_iff.mpr ⟨hparts.of_append.2, hwords, hfree⟩
  · intro part column hfield
    obtain ⟨hparts, hwords, hfree⟩ := isFieldText_iff.mp hfield
    rw [fieldWords_append_gap (hgap hrear hparts.of_append.2)] at hwords
    exact isFieldText_iff.mpr ⟨hparts.of_append.1, hwords, hfree⟩

/-- A select list is a star alone, or a list of fields. -/
theorem readFields?_eq_some_iff {columns : List SelectColumn} :
    readFields? text = some columns ↔ (trim text = ['*'] ∧ columns = [.star]) ∨
      List.Forall₂ IsFieldText ((trim text).splitOn ',') columns := by
  rw [← readWholeList?_field_eq_some_iff, readFields?]
  by_cases hstar : trim text = ['*']
  · have hnone : readWholeList? readField? ['*'] = none := by decide
    simp [hstar, hnone, eq_comm]
  · simp [hstar]

/-- The texts of a column: the one that it is written as, and the one without the word `AS`. -/
inductive IsSpelling : SelectColumn → List Char → Prop
  | display (column : SelectColumn) : IsSpelling column column.sqlText.toList
  | unmarked {gap : List Char} (name label : String) : IsGapText gap →
      IsSpelling (.named name (some label)) (name.toList ++ (gap ++ label.toList))

/-- The text of one column of a list, with gaps around it. -/
structure IsColumnText (text : List Char) (column : SelectColumn) : Prop where
  isNamed : ∃ name label, column = .named name label
  names : ∀ name ∈ namesOf column, IsFieldName name
  text : ∃ lead spelled rear, (∀ c ∈ lead ++ rear, isGap c = true) ∧ IsSpelling column spelled ∧
    text = lead ++ (spelled ++ rear)

theorem IsColumnText.isFieldText (hcolumn : IsColumnText text column) :
    IsFieldText text column := by
  obtain ⟨⟨name, label, rfl⟩, hnames, lead, spelled, rear, hgaps, hspelling, rfl⟩ := hcolumn
  obtain ⟨hlead, hrear⟩ := List.forall_mem_append.mp hgaps
  have hname : IsFieldName name.toList := hnames _ List.mem_cons_self
  cases hspelling with
  | unmarked _ label hgap =>
      have hlabel : IsFieldName label.toList := hnames _ (by simp [namesOf])
      have hfield := IsFieldText.labelled hlead hname (.bare hgap hlabel) hrear
      simpa only [String.ofList_toList, List.append_assoc] using hfield
  | display =>
      cases label with
      | none =>
          have hfield := IsFieldText.plain hlead hname hrear
          rwa [String.ofList_toList] at hfield
      | some label =>
          have hlabel : IsFieldName label.toList := hnames _ (by simp [namesOf])
          have hspace : IsGapText [' '] := ⟨by decide, by decide⟩
          have hmarker : Value.isWordOf "AS" ['A', 'S'] = true := by decide
          have hfield :=
            IsFieldText.labelled hlead hname (.marked hspace hmarker hspace hlabel) hrear
          have htext : (SelectColumn.named name (some label)).sqlText.toList =
              name.toList ++ ([' '] ++ (['A', 'S'] ++ ([' '] ++ label.toList))) := by
            simp [SelectColumn.sqlText]
          rw [htext]
          simpa only [String.ofList_toList, List.append_assoc] using hfield

/-- The texts of columns with commas between them are read as these columns. -/
theorem readFields?_intercalate {texts : List (List Char)} {columns : List SelectColumn}
    (hne : columns ≠ []) (hcolumns : List.Forall₂ IsColumnText texts columns) :
    readFields? ([','].intercalate texts) = some columns := by
  have hfields : List.Forall₂ IsFieldText texts columns :=
    hcolumns.imp fun _ _ hcolumn => hcolumn.isFieldText
  have htexts : texts ≠ [] := by
    rintro rfl
    cases hfields
    contradiction
  have hplain : ∀ text ∈ texts, ',' ∉ text := by
    intro text htext
    obtain ⟨column, hfield⟩ := exists_forall₂_iff.mp ⟨columns, hfields⟩ text htext
    exact hfield.comma_not_mem
  refine readFields?_eq_some_iff.mpr (.inr (forall₂_field_trim ?_))
  rwa [List.splitOn_intercalate ',' hplain htexts]

/-- What is no star is refused exactly if one of its fields is unfit. -/
theorem readFields?_eq_none_iff : readFields? text = none ↔ trim text ≠ ['*'] ∧
    ∃ field ∈ (trim text).splitOn ',', IsUnfit field := by
  have hnone : readFields? text = none ↔ ¬∃ columns, readFields? text = some columns := by
    cases readFields? text with
    | none => simp
    | some columns => simp
  rw [hnone]
  by_cases hstar : trim text = ['*']
  · simp [hstar, readFields?]
  · have hlist : (∃ columns, readFields? text = some columns) ↔
        ∀ field ∈ (trim text).splitOn ',', ¬IsUnfit field := by
      simp only [readFields?_eq_some_iff, hstar, false_and, false_or, exists_forall₂_iff,
        exists_isFieldText_iff]
    rw [hlist]
    push Not
    exact ⟨fun h => ⟨hstar, h⟩, And.right⟩

theorem isFieldName_identifier {name : String} (hname : isIdentifier name = true)
    (hfree : isSelectKeyword name.toList = false) : IsFieldName name.toList where
  ne_nil := toList_ne_nil_of_isIdentifier hname
  parts _ hc := isNamePart_of_isIdentifierPart (isIdentifierPart_of_mem hname hc)
  free := hfree

/-- A select list is read back. -/
theorem readFields?_fieldsText {columns : List SelectColumn} (hcolumns : IsShortList columns) :
    readFields? (fieldsText columns) = some columns := by
  cases hcolumns with
  | star => rfl
  | named hne hcolumns =>
      have htext : ∀ {lead : List Char}, (∀ c ∈ lead, isGap c = true) → ∀ column ∈ columns,
          IsColumnText (lead ++ column.sqlText.toList) column := by
        intro lead hlead column hcolumn
        obtain ⟨name, label, rfl, ⟨hname, hfree⟩, hlabel⟩ := hcolumns column hcolumn
        refine ⟨⟨name, label, rfl⟩, ?_, lead, _, [], by simpa using hlead, .display _, by simp⟩
        intro word hword
        cases label with
        | none =>
            obtain rfl : word = name.toList := by simpa [namesOf] using hword
            exact isFieldName_identifier hname hfree
        | some label =>
            obtain ⟨hlabelName, hlabelFree⟩ := hlabel label rfl
            have hwords : word = name.toList ∨ word = label.toList := by
              simpa [namesOf] using hword
            rcases hwords with rfl | rfl
            · exact isFieldName_identifier hname hfree
            · exact isFieldName_identifier hlabelName hlabelFree
      cases columns with
      | nil => contradiction
      | cons first further =>
          rw [fieldsText, listText_eq_intercalate]
          refine readFields?_intercalate hne (.cons ?_ ?_)
          · exact htext (List.forall_mem_nil _) first List.mem_cons_self
          · rw [List.forall₂_map_left_iff, List.forall₂_same]
            intro column hcolumn
            exact htext (List.forall_mem_singleton.mpr rfl) column
              (List.mem_cons_of_mem _ hcolumn)

/-- Reading select lists undoes writing them.  Columns are read back from their texts, whatever gaps
stand around the commas and whether the word `AS` stands before a label or not.  Apart from the star
alone, a list is refused exactly if one of its fields is unfit: if it holds a character of another
kind, a keyword in the place of a name or a label, more than these two, or nothing at all. -/
theorem readFields?_exact :
    (∀ texts columns, columns ≠ [] → List.Forall₂ IsColumnText texts columns →
      readFields? ([','].intercalate texts) = some columns) ∧
    ∀ text, readFields? text = none ↔ trim text ≠ ['*'] ∧
      ∃ field ∈ (trim text).splitOn ',', IsUnfit field :=
  ⟨fun _ _ => readFields?_intercalate, fun _ => readFields?_eq_none_iff⟩

/-- Names that begin with a keyword, a label without `AS` before it, and a modifier of a query. -/
theorem readFields?_exact_modifier :
    readFields? "as_of AS größe ,\t all_time\tdistinct_count".toList =
        some [.named "as_of" (some "größe"), .named "all_time" (some "distinct_count")] ∧
      readFields? "Distinct name, age".toList = none := by
  obtain ⟨hwritten, hrefused⟩ := readFields?_exact
  have hnames : ∀ column ∈ [SelectColumn.named "as_of" (some "größe"),
      .named "all_time" (some "distinct_count")], ∀ name ∈ namesOf column, IsFieldName name := by
    intro column hcolumn name hname
    have hall : ∀ name ∈ ["as_of", "größe", "all_time", "distinct_count"].map String.toList,
        name ≠ [] ∧ (∀ c ∈ name, isNamePart c = true) ∧ isSelectKeyword name = false := by
      decide +kernel
    have hmem : name ∈ ["as_of", "größe", "all_time", "distinct_count"].map String.toList := by
      rcases List.mem_pair.mp hcolumn with rfl | rfl <;>
        rcases List.mem_pair.mp hname with rfl | rfl <;> decide
    obtain ⟨hne, hparts, hfree⟩ := hall name hmem
    exact ⟨hne, hparts, hfree⟩
  have hgap : IsGapText ['\t'] := ⟨by decide, by decide⟩
  have hfirst : IsColumnText "as_of AS größe ".toList (.named "as_of" (some "größe")) :=
    ⟨⟨_, _, rfl⟩, hnames _ (by decide), [], _, [' '], by decide, .display _, by decide⟩
  have hsecond : IsColumnText "\t all_time\tdistinct_count".toList
      (.named "all_time" (some "distinct_count")) :=
    ⟨⟨_, _, rfl⟩, hnames _ (by decide), ['\t', ' '], _, [], by decide, .unmarked _ _ hgap,
      by decide⟩
  have htext : "as_of AS größe ,\t all_time\tdistinct_count".toList =
      [','].intercalate ["as_of AS größe ".toList, "\t all_time\tdistinct_count".toList] := by
    decide +kernel
  have hunfit : IsUnfit "Distinct name".toList := by
    have hword : "Distinct".toList ∈ nameWords (fieldWords "Distinct name".toList) := by decide
    exact .keyword hword (by decide)
  constructor
  · rw [htext]
    exact hwritten _ _ (List.cons_ne_nil _ _) (.cons hfirst (.cons hsecond .nil))
  · exact (hrefused _).mpr ⟨by decide, _, by decide, hunfit⟩

end SqlGateway.Shape
