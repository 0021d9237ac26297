import SqlGateway.Request.OfStatement
import SqlGateway.Proofs.Checks
import SqlGateway.Proofs.Identifier
import SqlGateway.Proofs.Text.Split

/-!
# The columns of a request

A query sends its select list as one text: entries with commas between them, a label before its
column with a colon between them.  The names are plain identifiers, so the commas and colons of the
text are exactly those that separate, and cutting the text gives the list back.
-/

namespace SqlGateway

/-- Every name of a select column is a plain identifier. -/
def SelectColumn.IsPlain : SelectColumn → Prop
  | star => True
  | named name label => isIdentifier name = true ∧ ∀ text ∈ label, isIdentifier text = true

/-- The entry of a select column in the text of a request. -/
def SelectColumn.entry : SelectColumn → List Char
  | star => ['*']
  | named name none => name.toList
  | named name (some label) => label.toList ++ ':' :: name.toList

theorem toList_columnText (name : String) (label : Option String) :
    (columnText name label).toList = (SelectColumn.named name label).entry := by
  cases label <;> simp [columnText, SelectColumn.entry]

theorem SelectColumn.requestText_eq_ok {column : SelectColumn} {text : String} :
    column.requestText = .ok text ↔ column.IsPlain ∧ text.toList = column.entry := by
  cases column with
  | star =>
      simp only [requestText, IsPlain, entry, Except.ok.injEq, true_and]
      exact ⟨fun h => by rw [← h]; rfl, fun h => String.toList_injective (by rw [h]; rfl)⟩
  | named name label =>
      simp only [requestText, check_bind_eq_ok, checkIdentifier_eq_ok, optionForM_eq_ok, pure_eq_ok,
        IsPlain, ← toList_columnText, String.toList_inj]
      constructor
      · rintro ⟨hname, hlabel, htext⟩
        exact ⟨⟨hname, hlabel⟩, htext.symm⟩
      · rintro ⟨⟨hname, hlabel⟩, htext⟩
        exact ⟨hname, hlabel, htext.symm⟩

/-- No entry holds the comma that separates it from the next. -/
theorem SelectColumn.comma_not_mem_entry {column : SelectColumn} (hplain : column.IsPlain) :
    ',' ∉ column.entry := by
  cases column with
  | star => simp [entry]
  | named name label =>
      obtain ⟨hname, hlabel⟩ := hplain
      have hcomma := not_mem_of_isIdentifier hname (c := ',') (by decide)
      cases label with
      | none => exact hcomma
      | some label =>
          have hlabel := not_mem_of_isIdentifier (hlabel label rfl) (c := ',') (by decide)
          simp [entry, hcomma, hlabel]

/-- The entries that stand for a select list: an empty list stands for all columns. -/
def selectEntries (columns : List SelectColumn) : List (List Char) :=
  if columns = [] then [SelectColumn.star.entry] else columns.map SelectColumn.entry

/-- The texts of select columns are their entries, and all their names are plain. -/
theorem forall₂_requestText {columns : List SelectColumn} {texts : List String}
    (htexts : columns.mapM SelectColumn.requestText = .ok texts) :
    (∀ column ∈ columns, column.IsPlain) ∧
      texts.map String.toList = columns.map SelectColumn.entry := by
  have hall := mapM_eq_ok.mp htexts
  induction hall with
  | nil => simp
  | cons hcolumn hrest ih =>
      obtain ⟨hplain, hentry⟩ := SelectColumn.requestText_eq_ok.mp hcolumn
      obtain ⟨hplains, hentries⟩ := ih (mapM_eq_ok.mpr hrest)
      exact ⟨List.forall_mem_cons.mpr ⟨hplain, hplains⟩, by simp [hentry, hentries]⟩

theorem isPlain_of_selectText {columns : List SelectColumn} {text : String}
    (htext : selectText columns = .ok text) : ∀ column ∈ columns, column.IsPlain := by
  obtain ⟨texts, htexts, -⟩ := bind_eq_ok.mp htext
  exact (forall₂_requestText htexts).1

/-- A select list of plain names has a text. -/
theorem exists_selectText {columns : List SelectColumn}
    (hplain : ∀ column ∈ columns, column.IsPlain) : ∃ text, selectText columns = .ok text := by
  have htexts : columns.mapM SelectColumn.requestText =
      .ok (columns.map fun column => String.ofList column.entry) := by
    rw [mapM_eq_ok, List.forall₂_map_right_iff, List.forall₂_same]
    exact fun column hcolumn =>
      SelectColumn.requestText_eq_ok.mpr ⟨hplain column hcolumn, String.toList_ofList⟩
  exact ⟨_, bind_eq_ok.mpr ⟨_, htexts, rfl⟩⟩

/-- Cutting the text of a select list at its commas gives the entries of the list. -/
theorem splitAt_selectText {columns : List SelectColumn} {text : String}
    (htext : selectText columns = .ok text) :
    Text.splitAt ',' text.toList = selectEntries columns := by
  obtain ⟨texts, htexts, hresult⟩ := bind_eq_ok.mp htext
  obtain ⟨hplain, hentries⟩ := forall₂_requestText htexts
  rw [← pure_eq_ok.mp hresult]
  cases columns with
  | nil =>
      have hnil : texts = [] := by simpa using hentries
      subst hnil
      decide
  | cons column rest =>
      have hne : (column :: rest).map SelectColumn.entry ≠ [] := by simp
      have hcommas : ∀ part ∈ (column :: rest).map SelectColumn.entry, ',' ∉ part := by
        intro part hpart
        obtain ⟨column, hcolumn, rfl⟩ := List.mem_map.mp hpart
        exact SelectColumn.comma_not_mem_entry (hplain column hcolumn)
      have htexts : texts.isEmpty = false := by
        cases texts with
        | nil => simp at hentries
        | cons _ _ => rfl
      rw [htexts, if_neg Bool.false_ne_true, String.toList_intercalate, hentries,
        selectEntries, if_neg (List.cons_ne_nil column rest)]
      exact Text.splitAt_intercalate hne hcommas

end SqlGateway
