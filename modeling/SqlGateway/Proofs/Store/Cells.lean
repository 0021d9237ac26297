import SqlGateway.Request.OfStatement
import SqlGateway.Store.Project

/-!
# Setting the cells of a row

A row keeps one cell per column.  Setting a cell overwrites the one of that column in its place, or
adds a cell at the end.  An assignment list is first gathered into a record, a row of its own, and
the record is then written over the stored row; these lemmas say that this comes to the same as
carrying out the assignments one after the other.
-/

namespace SqlGateway

/-- The columns of a row, in order. -/
def Row.columns (row : Row) : List String :=
  row.map Prod.fst

/-- No column stands twice in a row. -/
def Row.IsProper (row : Row) : Prop :=
  row.columns.Nodup

/-- A key is looked up in the first entry and, if that has another key, in the rest. -/
theorem lookup_cons_eq_ite {α : Type} (key name : String) (value : α)
    (entries : List (String × α)) :
    ((name, value) :: entries).lookup key =
      if key = name then some value else entries.lookup key := by
  by_cases hname : key = name
  · simp [hname]
  · have hdiffer : (key == name) = false := by simpa using hname
    rw [List.lookup_cons, hdiffer, if_neg hname]

namespace Json

variable {key other : String} {value : Json} {fields : List (String × Json)}

theorem mem_columns_setField :
    other ∈ (setField key value fields).map Prod.fst ↔
      other = key ∨ other ∈ fields.map Prod.fst := by
  induction fields with
  | nil => simp [setField]
  | cons field rest ih =>
      obtain ⟨name, old⟩ := field
      by_cases hname : name = key
      · simp [setField, hname]
      · simp only [setField, hname, if_false, List.map_cons, List.mem_cons, ih]
        exact or_left_comm

theorem nodup_columns_setField (hnodup : (fields.map Prod.fst).Nodup) :
    ((setField key value fields).map Prod.fst).Nodup := by
  induction fields with
  | nil => simp [setField]
  | cons field rest ih =>
      obtain ⟨name, old⟩ := field
      rw [List.map_cons, List.nodup_cons] at hnodup
      by_cases hname : name = key
      · simp only [setField, hname, if_true, List.map_cons, List.nodup_cons]
        exact hname ▸ hnodup
      · simp only [setField, hname, if_false, List.map_cons, List.nodup_cons]
        refine ⟨?_, ih hnodup.2⟩
        rw [mem_columns_setField]
        exact fun h => h.elim hname hnodup.1

/-- A new column is added at the end. -/
theorem setField_of_not_mem (hkey : key ∉ fields.map Prod.fst) :
    setField key value fields = fields ++ [(key, value)] := by
  induction fields with
  | nil => rfl
  | cons field rest ih =>
      obtain ⟨name, old⟩ := field
      simp only [List.map_cons, List.mem_cons, not_or] at hkey
      simp [setField, Ne.symm hkey.1, ih hkey.2]

theorem columns_setField_of_mem (hkey : key ∈ fields.map Prod.fst) :
    (setField key value fields).map Prod.fst = fields.map Prod.fst := by
  induction fields with
  | nil => contradiction
  | cons field rest ih =>
      obtain ⟨name, old⟩ := field
      by_cases hname : name = key
      · simp [setField, hname]
      · have hrest : key ∈ rest.map Prod.fst :=
          (List.mem_cons.mp hkey).resolve_left fun h => hname h.symm
        rw [setField, if_neg hname, List.map_cons, ih hrest, List.map_cons]

theorem getField?_setField :
    getField? other (setField key value fields) =
      if other = key then some value else getField? other fields := by
  simp only [getField?]
  induction fields with
  | nil => rw [setField, lookup_cons_eq_ite]
  | cons field rest ih =>
      obtain ⟨name, old⟩ := field
      by_cases hname : name = key
      · subst hname
        rw [setField, if_pos rfl, lookup_cons_eq_ite, lookup_cons_eq_ite]
        by_cases hother : other = name <;> simp [hother]
      · rw [setField, if_neg hname, lookup_cons_eq_ite, lookup_cons_eq_ite, ih]
        by_cases hother : other = name
        · subst hother
          simp [hname]
        · simp [hother]

/-- Of two values for one column the later counts. -/
theorem setField_setField (first : Json) :
    setField key value (setField key first fields) = setField key value fields := by
  induction fields with
  | nil => simp [setField]
  | cons field rest ih =>
      obtain ⟨name, old⟩ := field
      by_cases hname : name = key <;> simp [setField, hname, ih]

/-- A column that is there already can be set before or after any other one. -/
theorem setField_comm (hother : other ≠ key) (hkey : key ∈ fields.map Prod.fst) (first : Json) :
    setField key value (setField other first fields) =
      setField other first (setField key value fields) := by
  induction fields with
  | nil => simp at hkey
  | cons field rest ih =>
      obtain ⟨name, old⟩ := field
      rw [List.map_cons, List.mem_cons] at hkey
      by_cases hname : name = key
      · subst hname
        simp [setField, Ne.symm hother]
      · have hrest : key ∈ rest.map Prod.fst := hkey.resolve_left fun h => hname h.symm
        by_cases hfirst : name = other
        · subst hfirst
          simp [setField, hname]
        · simp [setField, hname, hfirst, ih hrest]

end Json

namespace Store

open Json (setField)

@[simp] theorem setCells_nil (row : Row) : setCells row [] = row := rfl

@[simp] theorem setCells_cons (row record : Row) (column : String) (value : Json) :
    setCells row ((column, value) :: record) = setCells (setField column value row) record := rfl

theorem mem_columns_setCells {row record : Row} {column : String} :
    column ∈ (setCells row record).columns ↔ column ∈ row.columns ∨ column ∈ record.columns := by
  induction record generalizing row with
  | nil => simp [Row.columns]
  | cons cell record ih =>
      obtain ⟨name, value⟩ := cell
      rw [setCells_cons, ih, Row.columns, Json.mem_columns_setField]
      simp only [Row.columns, List.map_cons, List.mem_cons]
      rw [or_assoc, or_left_comm]

theorem isProper_setCells {row : Row} (hrow : row.IsProper) (record : Row) :
    (setCells row record).IsProper := by
  induction record generalizing row with
  | nil => exact hrow
  | cons cell record ih => exact ih (Json.nodup_columns_setField hrow)

/-- Cells of new columns are added in their order. -/
theorem setCells_eq_append {row record : Row} (hnodup : (row ++ record).IsProper) :
    setCells row record = row ++ record := by
  induction record generalizing row with
  | nil => simp
  | cons cell record ih =>
      obtain ⟨column, value⟩ := cell
      have hsplit : row ++ (column, value) :: record = (row ++ [(column, value)]) ++ record := by
        simp
      have hcolumn : column ∉ row.map Prod.fst := by
        intro hmem
        rw [Row.IsProper, Row.columns, List.map_append, List.map_cons] at hnodup
        exact (List.nodup_append.mp hnodup).2.2 column hmem column List.mem_cons_self rfl
      rw [setCells_cons, Json.setField_of_not_mem hcolumn, hsplit]
      exact ih (hsplit ▸ hnodup)

/-- Copying all cells of a row gives the row. -/
theorem setCells_empty {row : Row} (hrow : row.IsProper) : setCells [] row = row := by
  have hnodup : Row.IsProper ([] ++ row) := hrow
  exact setCells_eq_append hnodup

theorem setField_setCells {row record : Row} {column : String} (value : Json)
    (hrow : column ∈ row.columns) (hrecord : column ∉ record.columns) :
    setField column value (setCells row record) = setCells (setField column value row) record := by
  induction record generalizing row with
  | nil => rfl
  | cons cell record ih =>
      obtain ⟨name, first⟩ := cell
      simp only [Row.columns, List.map_cons, List.mem_cons, not_or] at hrecord
      have hmem : column ∈ Row.columns (setField name first row) :=
        Json.mem_columns_setField.mpr (Or.inr hrow)
      rw [setCells_cons, ih hmem hrecord.2, Json.setField_comm (Ne.symm hrecord.1) hrow,
        setCells_cons]

/-- Setting a cell of the record sets it in every row that the record is written over. -/
theorem setCells_setField {record : Row} (hrecord : record.IsProper) (row : Row) (column : String)
    (value : Json) :
    setCells row (setField column value record) = setField column value (setCells row record) := by
  induction record generalizing row with
  | nil => rfl
  | cons cell record ih =>
      obtain ⟨name, first⟩ := cell
      rw [Row.IsProper, Row.columns, List.map_cons, List.nodup_cons] at hrecord
      by_cases hname : name = column
      · subst hname
        have hmem : name ∈ Row.columns (setField name first row) :=
          Json.mem_columns_setField.mpr (Or.inl rfl)
        rw [setCells_cons, setField_setCells value hmem hrecord.1, Json.setField_setField]
        simp [setField]
      · rw [setCells_cons, ← ih hrecord.2]
        simp [setField, hname]

/-- Writing a gathered record over a row comes to the same as setting its cells one by one. -/
theorem setCells_setCells (row cells : Row) :
    setCells row (setCells [] cells) = setCells row cells := by
  have hgeneral : ∀ before : Row, before.IsProper →
      setCells row (setCells before cells) = setCells (setCells row before) cells := by
    induction cells with
    | nil => intro before _; rfl
    | cons cell cells ih =>
        intro before hbefore
        obtain ⟨column, value⟩ := cell
        rw [setCells_cons, setCells_cons, ih _ (Json.nodup_columns_setField hbefore),
          setCells_setField hbefore]
  exact hgeneral [] List.nodup_nil

/-! ### A record written over a row -/

/-- A record written over a row adds its new columns, each where it is first named. -/
theorem columns_setCells_eq (row record : Row) : (setCells row record).columns =
    row.columns ++ (record.columns.filter (· ∉ row.columns)).eraseDups := by
  induction record generalizing row with
  | nil => simp [Row.columns]
  | cons cell record ih =>
      obtain ⟨column, value⟩ := cell
      have hhead : Row.columns ((column, value) :: record) = column :: Row.columns record := rfl
      rw [setCells_cons, ih, hhead]
      -- a column that is there already stays in its place
      by_cases hcolumn : column ∈ row.columns
      · have hcolumns : Row.columns (setField column value row) = row.columns :=
          Json.columns_setField_of_mem hcolumn
        rw [hcolumns, List.filter_cons_of_neg (by simpa using hcolumn)]
      · have hcolumns : Row.columns (setField column value row) = row.columns ++ [column] := by
          rw [Json.setField_of_not_mem hcolumn]
          simp [Row.columns]
        have hother : ∀ name, decide (name ∉ row.columns ++ [column]) =
            (!(name == column) && decide (name ∉ row.columns)) := by
          intro name
          rw [Bool.eq_iff_iff]
          simp [and_comm]
        simp only [hcolumns, hother]
        rw [List.filter_cons_of_pos (by simpa using hcolumn), List.eraseDups_cons,
          List.filter_filter, List.append_assoc, List.singleton_append]

/-- A row keeps its columns in their places; new ones are added behind them. -/
theorem columns_setCells (row record : Row) : row.columns <+: (setCells row record).columns := by
  rw [columns_setCells_eq]
  exact List.prefix_append _ _

/-- A record written over a row gives each of its columns the last of its values. -/
theorem getField?_setCells (row record : Row) (column : String) :
    Json.getField? column (setCells row record) =
      (record.reverse.lookup column).or (Json.getField? column row) := by
  induction record generalizing row with
  | nil => simp
  | cons cell record ih =>
      obtain ⟨name, value⟩ := cell
      rw [setCells_cons, ih, Json.getField?_setField, List.reverse_cons, List.lookup_append,
        lookup_cons_eq_ite]
      cases record.reverse.lookup column with
      | some last => rfl
      | none => split <;> simp

theorem getField?_setCells_of_not_mem {row record : Row} {column : String}
    (hcolumn : column ∉ record.columns) :
    Json.getField? column (setCells row record) = Json.getField? column row := by
  have hnone : record.reverse.lookup column = none := by
    rw [List.lookup_eq_none_iff]
    rintro ⟨name, value⟩ hcell
    have hname : name ∈ record.columns :=
      List.mem_map_of_mem (List.mem_reverse.mp hcell)
    simpa using fun h : column = name => hcolumn (h ▸ hname)
  rw [getField?_setCells, hnone, Option.none_or]

/-- A row that a record is written over has every cell of the record. -/
theorem getField?_setCells_of_mem {row record : Row} (hrecord : record.IsProper)
    {column : String} {value : Json} (hcell : (column, value) ∈ record) :
    Json.getField? column (setCells row record) = some value := by
  induction record generalizing row with
  | nil => contradiction
  | cons cell record ih =>
      rw [Row.IsProper, Row.columns, List.map_cons, List.nodup_cons] at hrecord
      rw [List.mem_cons] at hcell
      rcases hcell with rfl | hcell
      · rw [setCells_cons, getField?_setCells_of_not_mem hrecord.1, Json.getField?_setField,
          if_pos rfl]
      · exact ih hrecord.2 hcell

/-- What is set in a row does not matter if the record sets it again. -/
theorem setCells_setField_of_mem {row record : Row} {column : String} (value : Json)
    (hrow : column ∈ row.columns) (hrecord : column ∈ record.columns) :
    setCells (setField column value row) record = setCells row record := by
  induction record generalizing row with
  | nil => contradiction
  | cons cell record ih =>
      obtain ⟨name, first⟩ := cell
      rw [setCells_cons, setCells_cons]
      by_cases hname : name = column
      · rw [hname, Json.setField_setField]
      · have hrest : column ∈ Row.columns record :=
          (List.mem_cons.mp hrecord).resolve_left fun h => hname h.symm
        have hmem : column ∈ Row.columns (setField name first row) :=
          Json.mem_columns_setField.mpr (Or.inr hrow)
        rw [← Json.setField_comm hname hrow, ih hmem hrest]

/-- Writing a record over a row twice comes to the same as writing it once. -/
theorem setCells_setCells_self (row record : Row) :
    setCells (setCells row record) record = setCells row record := by
  induction record generalizing row with
  | nil => rfl
  | cons cell record ih =>
      obtain ⟨column, value⟩ := cell
      have hcolumn : column ∈ Row.columns (setField column value row) :=
        Json.mem_columns_setField.mpr (Or.inl rfl)
      rw [setCells_cons, setCells_cons]
      by_cases hrecord : column ∈ Row.columns record
      · have hwritten : column ∈ (setCells (setField column value row) record).columns :=
          mem_columns_setCells.mpr (Or.inr hrecord)
        rw [setCells_setField_of_mem value hwritten hrecord, ih]
      · rw [setField_setCells value hcolumn hrecord, Json.setField_setField, ih]

end Store

/-- The record of an assignment list is its cells, gathered. -/
theorem rowOf_eq_setCells (cells : List (String × Value)) :
    rowOf cells = Store.setCells [] (cells.map fun cell => (cell.1, cell.2.toJson)) := by
  rw [rowOf, Store.setCells, List.foldl_map]

theorem mem_columns_rowOf {cells : List (String × Value)} {column : String} :
    column ∈ (rowOf cells).columns ↔ column ∈ cells.map Prod.fst := by
  rw [rowOf_eq_setCells, Store.mem_columns_setCells]
  simp [Row.columns]

theorem isProper_rowOf (cells : List (String × Value)) : (rowOf cells).IsProper := by
  have hnil : Row.IsProper [] := List.nodup_nil
  rw [rowOf_eq_setCells]
  exact Store.isProper_setCells hnil _

/-- The columns of a row that is made of a list of columns. -/
theorem Row.columns_zip {columns : List String} {values : List Json}
    (hlength : values.length = columns.length) : Row.columns (columns.zip values) = columns := by
  rw [Row.columns, List.map_fst_zip (Nat.le_of_eq hlength.symm)]

/-- A row has a proper form if its columns are distinct. -/
theorem Row.isProper_zip {columns : List String} {values : List Json} (hnodup : columns.Nodup)
    (hlength : values.length = columns.length) : Row.IsProper (columns.zip values) := by
  rw [Row.IsProper, Row.columns_zip hlength]
  exact hnodup

/-- The row of an insertion has the values of the list in the columns of the list. -/
theorem rowOf_zip {columns : List String} {values : List Value} (hnodup : columns.Nodup)
    (hlength : values.length = columns.length) :
    rowOf (columns.zip values) = columns.zip (values.map Value.toJson) := by
  have hcells : (columns.zip values).map (fun cell => (cell.1, cell.2.toJson)) =
      columns.zip (values.map Value.toJson) := by
    rw [List.zip_map_right]
    rfl
  rw [rowOf_eq_setCells, hcells,
    Store.setCells_empty (Row.isProper_zip hnodup (by simpa using hlength))]

end SqlGateway
