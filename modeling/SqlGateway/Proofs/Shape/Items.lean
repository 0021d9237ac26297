import SqlGateway.Proofs.Shape.Reread

/-!
# Lists read back

A list is written with a comma and a space between its items, and is read item by item.  An item is
read from any text in which nothing or a comma follows it, whatever it holds itself, so a comma or a
parenthesis inside quotes separates nothing, and the items read are the ones that were written.
-/

namespace SqlGateway.Shape

open Text

variable {α β : Type} {item : Step α} {text rest : List Char} {value : α}

/-! ### Items -/

/-- Whether a text is empty or begins with a comma. -/
def AtComma (text : List Char) : Prop :=
  ∀ c ∈ text.head?, c = ','

theorem AtComma.stopsAt {test : Char → Bool} (hcomma : AtComma text) (htest : test ',' = false) :
    StopsAt test text := by
  intro c hc
  rw [hcomma c hc, htest]

/-- The text of an item: it is read wherever it ends or a comma follows, and blanks are neither at
its front nor at its end. -/
structure IsItem (item : Step α) (text : List Char) (value : α) : Prop where
  ne_nil : text ≠ []
  head : ∀ c ∈ text.head?, isBlank c = false
  last : ∀ c ∈ text.getLast?, isBlank c = false
  read : ∀ rest, AtComma rest → item (text ++ rest) = some (value, rest)

theorem skipGap_of_atComma (hrest : AtComma rest) : skipGap rest = rest := by
  cases rest with
  | nil => rfl
  | cons c rest =>
      rw [hrest c rfl]
      exact skipGap_cons (by decide)

theorem IsItem.skipGap_append (hitem : IsItem item text value) :
    skipGap (text ++ rest) = text ++ rest := by
  cases htext : text with
  | nil => exact absurd htext hitem.ne_nil
  | cons c text => exact skipGap_cons (isGap_eq_false (hitem.head c (by rw [htext]; rfl)))

/-! ### Segments -/

/-- The text of an item with the gaps around it: all of it is read wherever it ends or a comma
follows. -/
def IsSegment (item : Step α) (seg : List Char) (value : α) : Prop :=
  ∀ rest, AtComma rest → padded item (seg ++ rest) = some (value, rest)

theorem IsItem.isSegment (hitem : IsItem item text value) {lead : List Char}
    (hlead : ∀ c ∈ lead, isGap c = true) : IsSegment item (lead ++ text) value := by
  intro rest hrest
  rw [padded, List.append_assoc, Shape.skipGap_append hlead, hitem.skipGap_append,
    hitem.read rest hrest]
  simp only [Option.map_some, skipGap_of_atComma hrest]

theorem skipGap_skipGap (text : List Char) : skipGap (skipGap text) = skipGap text := by
  obtain ⟨lead, -, -, hhead⟩ := exists_skipGap text
  exact skipGap_eq_self hhead

theorem padded_skipGap (item : Step α) (text : List Char) :
    padded item (skipGap text) = padded item text := by
  rw [padded, padded, skipGap_skipGap]

theorem skipGap_of_padded (hread : padded item text = some (value, rest)) :
    skipGap rest = rest := by
  obtain ⟨⟨found, behind⟩, -, heq⟩ := Option.map_eq_some_iff.mp hread
  cases heq
  exact skipGap_skipGap behind

theorem intercalate_cons {separator : Char} (seg : List Char) (segs : List (List Char)) :
    [separator].intercalate (seg :: segs) = seg ++ segs.flatMap (separator :: ·) := by
  induction segs generalizing seg with
  | nil => simp
  | cons next segs ih => simp [List.intercalate_cons_cons, ih]

/-- There are values for all segments exactly if each of them has one. -/
theorem exists_forall₂_iff {R : β → α → Prop} {segs : List β} :
    (∃ values, List.Forall₂ R segs values) ↔ ∀ seg ∈ segs, ∃ value, R seg value := by
  induction segs with
  | nil => simp
  | cons seg segs ih =>
      rw [List.forall_mem_cons, ← ih]
      constructor
      · rintro ⟨_, _ | ⟨hvalue, hvalues⟩⟩
        exact ⟨⟨_, hvalue⟩, ⟨_, hvalues⟩⟩
      · rintro ⟨⟨value, hvalue⟩, ⟨values, hvalues⟩⟩
        exact ⟨value :: values, .cons hvalue hvalues⟩

theorem atComma_segments (segs : List (List Char)) : AtComma (segs.flatMap (',' :: ·)) := by
  cases segs with
  | nil => simp [AtComma]
  | cons seg segs => simp [AtComma]

/-- The segments behind the first one are read one after the other. -/
theorem readFurther_segments {segs : List (List Char)} {values : List α}
    (hsegs : List.Forall₂ (IsSegment item) segs values) {rounds : Nat}
    (hrounds : (segs.flatMap (',' :: ·)).length ≤ rounds) :
    readFurther (padded item) rounds (segs.flatMap (',' :: ·)) = (values, []) := by
  induction hsegs generalizing rounds with
  | nil => cases rounds <;> rfl
  | @cons seg value segs values hseg _ ih =>
      simp only [List.flatMap_cons, List.length_append, List.length_cons] at hrounds
      obtain ⟨rounds, rfl⟩ : ∃ further, rounds = further + 1 := ⟨rounds - 1, by omega⟩
      have hrest : (segs.flatMap (',' :: ·)).length ≤ rounds := by omega
      have hcomma : skipComma? ((seg :: segs).flatMap (',' :: ·)) =
          some (skipGap (seg ++ segs.flatMap (',' :: ·))) := rfl
      rw [readFurther, hcomma]
      simp only [padded_skipGap, hseg _ (atComma_segments segs), ih hrest]

theorem readList?_segments {segs : List (List Char)} {values : List α} (hne : segs ≠ [])
    (hsegs : List.Forall₂ (IsSegment item) segs values) :
    readList? item ([','].intercalate segs) = some (values, []) := by
  cases hsegs with
  | nil => exact absurd rfl hne
  | @cons seg value segs values hseg hfurther =>
      rw [intercalate_cons, readList?, hseg _ (atComma_segments segs)]
      simp only [readFurther_segments hfurther le_rfl]

/-- What a reader takes from a list: texts of a kind, each of them the text of an item with the gaps
around it. -/
structure TakesSegments (item : Step α) (isSeg : List Char → α → Prop) : Prop where
  exists_segment : ∀ {text value rest}, padded item text = some (value, rest) →
    ∃ seg, text = seg ++ rest ∧ isSeg seg value
  isSegment : ∀ {seg value}, isSeg seg value → IsSegment item seg value

section Segments

variable {isSeg : List Char → α → Prop} {values : List α}

theorem TakesSegments.exists_of_readFurther (hitem : TakesSegments item isSeg) {rounds : Nat}
    (hgap : skipGap text = text)
    (hread : readFurther (padded item) rounds text = (values, [])) :
    ∃ segs, List.Forall₂ isSeg segs values ∧ text = segs.flatMap (',' :: ·) := by
  induction rounds generalizing text values with
  | zero =>
      cases hread
      exact ⟨[], .nil, rfl⟩
  | succ rounds ih =>
      rw [readFurther] at hread
      split at hread
      · cases hread
        exact ⟨[], .nil, rfl⟩
      · rename_i left hskip
        obtain ⟨behind, hcomma, rfl⟩ := exists_of_skipComma? hskip
        rw [hgap] at hcomma
        rw [padded_skipGap] at hread
        split at hread
        · cases hread
          contradiction
        · rename_i value rest hvalue
          obtain ⟨hvalues, hleft⟩ := Prod.mk.inj hread
          obtain ⟨seg, hbehind, hseg⟩ := hitem.exists_segment hvalue
          obtain ⟨segs, hsegs, hrest⟩ := ih (skipGap_of_padded hvalue) (Prod.ext rfl hleft)
          refine ⟨seg :: segs, ?_, ?_⟩
          · rw [← hvalues]
            exact .cons hseg hsegs
          · rw [hcomma, hbehind, hrest]
            rfl

/-- A list is read as a whole exactly if it consists of segments with commas between them. -/
theorem TakesSegments.readList?_eq_some_iff (hitem : TakesSegments item isSeg) :
    readList? item text = some (values, []) ↔ ∃ segs, segs ≠ [] ∧
      List.Forall₂ isSeg segs values ∧ text = [','].intercalate segs := by
  constructor
  · intro hread
    rw [readList?] at hread
    split at hread
    · contradiction
    · rename_i value rest hvalue
      obtain ⟨hvalues, hleft⟩ := Prod.mk.inj (Option.some.inj hread)
      obtain ⟨seg, htext, hseg⟩ := hitem.exists_segment hvalue
      obtain ⟨segs, hsegs, hrest⟩ :=
        hitem.exists_of_readFurther (skipGap_of_padded hvalue) (Prod.ext rfl hleft)
      refine ⟨seg :: segs, List.cons_ne_nil _ _, ?_, ?_⟩
      · rw [← hvalues]
        exact .cons hseg hsegs
      · rw [intercalate_cons, htext, ← hrest]
  · rintro ⟨segs, hne, hsegs, rfl⟩
    exact readList?_segments hne (hsegs.imp fun _ _ => hitem.isSegment)

end Segments

/-! ### Lists -/

section Lists

variable {write : β → List Char} {meaning : β → α} {entries : List β}

/-- The entries behind the first one, each with a comma and a space before it. -/
def furtherText (write : β → List Char) (entries : List β) : List Char :=
  entries.flatMap fun entry => ',' :: ' ' :: write entry

/-- A list: entries with a comma and a space between them. -/
def listText (write : β → List Char) (entries : List β) : List Char :=
  [',', ' '].intercalate (entries.map write)

theorem listText_cons (entry : β) (entries : List β) :
    listText write (entry :: entries) = write entry ++ furtherText write entries := by
  induction entries generalizing entry with
  | nil => simp [listText, furtherText]
  | cons next entries ih =>
      rw [listText, List.map_cons, List.map_cons, List.intercalate_cons_cons]
      change write entry ++ [',', ' '] ++ listText write (next :: entries) = _
      rw [ih, List.append_assoc]
      rfl

theorem listText_cons_cons (entry next : β) (entries : List β) :
    listText write (entry :: next :: entries) =
      (write entry ++ [',']) ++ ' ' :: listText write (next :: entries) := by
  rw [listText_cons, listText_cons, List.append_assoc]
  rfl

theorem listText_eq_intercalate (entry : β) (entries : List β) :
    listText write (entry :: entries) =
      [','].intercalate (write entry :: entries.map fun entry => ' ' :: write entry) := by
  rw [listText_cons, intercalate_cons, List.flatMap_map]
  rfl

theorem readList?_listText (hne : entries ≠ [])
    (hitems : ∀ entry ∈ entries, IsItem item (write entry) (meaning entry)) :
    readList? item (listText write entries) = some (entries.map meaning, []) := by
  cases entries with
  | nil => exact absurd rfl hne
  | cons entry entries =>
      obtain ⟨hitem, hrest⟩ := List.forall_mem_cons.mp hitems
      have hfirst : IsSegment item (write entry) (meaning entry) :=
        hitem.isSegment (List.forall_mem_nil _)
      have hfurther : List.Forall₂ (IsSegment item)
          (entries.map fun entry => ' ' :: write entry) (entries.map meaning) := by
        rw [List.forall₂_map_left_iff, List.forall₂_map_right_iff, List.forall₂_same]
        exact fun entry hentry => (hrest entry hentry).isSegment (List.forall_mem_singleton.mpr rfl)
      rw [listText_eq_intercalate]
      exact readList?_segments (List.cons_ne_nil _ _) (.cons hfirst hfurther)

theorem readWholeList?_eq_some_iff {values : List α} :
    readWholeList? item text = some values ↔ readList? item text = some (values, []) := by
  rw [readWholeList?]
  rcases readList? item text with _ | ⟨items, _ | ⟨c, left⟩⟩ <;> simp

theorem readWholeList?_listText (hne : entries ≠ [])
    (hitems : ∀ entry ∈ entries, IsItem item (write entry) (meaning entry)) :
    readWholeList? item (listText write entries) = some (entries.map meaning) := by
  rw [readWholeList?, readList?_listText hne hitems]

/-- Blanks are neither at the front nor at the end of a list. -/
theorem ends_listText (hitems : ∀ entry ∈ entries, IsItem item (write entry) (meaning entry)) :
    (∀ c ∈ (listText write entries).head?, isBlank c = false) ∧
      ∀ c ∈ (listText write entries).getLast?, isBlank c = false := by
  induction entries with
  | nil => simp [listText]
  | cons entry entries ih =>
      obtain ⟨hitem, hrest⟩ := List.forall_mem_cons.mp hitems
      constructor
      · rw [listText_cons, List.head?_append_of_ne_nil _ hitem.ne_nil]
        exact hitem.head
      · cases entries with
        | nil => simpa [listText] using hitem.last
        | cons next entries =>
            have hne : listText write (next :: entries) ≠ [] := by
              simp [listText_cons, (hrest next List.mem_cons_self).ne_nil]
            rw [listText_cons_cons, List.append_cons, List.getLast?_append_of_ne_nil _ hne]
            exact (ih hrest).2

theorem trim_listText (hitems : ∀ entry ∈ entries, IsItem item (write entry) (meaning entry)) :
    trim (listText write entries) = listText write entries := by
  obtain ⟨hhead, hlast⟩ := ends_listText hitems
  rw [trim, trimStart_eq_self hhead, trimEnd_eq_self hlast]

end Lists

/-! ### The lists of a statement -/

theorem ends_identifier {name : String} (hname : isIdentifier name = true) :
    (∀ c ∈ name.toList.head?, isBlank c = false) ∧ ∀ c ∈ name.toList.getLast?, isBlank c = false :=
  ⟨fun _ hc => isBlank_eq_false_of_isIdentifierPart
      (isIdentifierPart_of_mem hname (List.mem_of_mem_head? hc)),
    fun _ hc => isBlank_eq_false_of_isIdentifierPart
      (isIdentifierPart_of_mem hname (List.mem_of_mem_getLast? hc))⟩

theorem isItem_name {name : String} (hname : isIdentifier name = true) :
    IsItem readName? name.toList name.toList where
  ne_nil := toList_ne_nil_of_isIdentifier hname
  head := (ends_identifier hname).1
  last := (ends_identifier hname).2
  read _ hrest := readName?_identifier hname (hrest.stopsAt (by decide))

/-- A column list is read back. -/
theorem readColumns?_listText {columns : List String} (hne : columns ≠ [])
    (hcolumns : ∀ column ∈ columns, isIdentifier column = true) :
    readColumns? (listText String.toList columns) = some columns := by
  have hitems : ∀ column ∈ columns, IsItem readName? column.toList column.toList :=
    fun column hcolumn => isItem_name (hcolumns column hcolumn)
  rw [readColumns?, trim_listText hitems, readWholeList?_listText hne hitems, Option.map_some,
    List.map_map]
  simp

theorem isItem_value {value : Value} (hvalue : value.IsAtom) :
    IsItem readItem? value.sqlChars value where
  ne_nil := sqlChars_ne_nil hvalue
  head c hc := ((ends_sqlChars hvalue).1 c hc).1
  last c hc := ((ends_sqlChars hvalue).2 c hc).1
  read rest hrest := by
    rcases sqlChars_cases hvalue with ⟨text, rfl, htext⟩ | ⟨-, hne, hbare⟩
    · have hother : rest.head? ≠ some '\'' := by
        intro hhead
        have hcomma := hrest '\'' hhead
        contradiction
      rw [htext, List.cons_append, List.append_assoc, List.singleton_append, readItem?, readString?,
        if_pos (by decide : isQuote '\'' = true), readQuoted?_doubled hother]
      simp only [String.ofList_toList]
    · have hstring : readString? (value.sqlChars ++ rest) = none := by
        cases hchars : value.sqlChars with
        | nil => exact absurd hchars hne
        | cons c chars =>
            have hquote := isQuote_of_isBareChar (hbare c (hchars ▸ List.mem_cons_self))
            simp [readString?, hquote]
      have hparts : ∀ c ∈ value.sqlChars, isTokenPart c = true := fun c hc =>
        of_isBareChar (p := fun c => isTokenPart c = true) (by decide) (hbare c hc)
      have hstops : StopsAt isTokenPart rest := hrest.stopsAt (by decide)
      rw [readItem?, hstring, takeWhile_append_of_stopsAt hparts hstops,
        dropWhile_append_of_stopsAt hparts hstops]
      simp [hne, ofToken_sqlChars hvalue]

/-- A list of values is read back. -/
theorem readValues_listText {values : List Value} (hne : values ≠ [])
    (hvalues : ∀ value ∈ values, value.IsAtom) :
    readValues (listText Value.sqlChars values) = .ok values := by
  have hitems : ∀ value ∈ values, IsItem readItem? value.sqlChars (id value) :=
    fun value hvalue => isItem_value (hvalues value hvalue)
  rw [readValues, trim_listText hitems]
  simp only [readList?_listText hne hitems, List.map_id_fun, id]

/-- The text of a select list. -/
def fieldsText (columns : List SelectColumn) : List Char :=
  listText (fun column => column.sqlText.toList) columns

end SqlGateway.Shape
