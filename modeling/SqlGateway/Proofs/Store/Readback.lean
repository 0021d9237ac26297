import SqlGateway.Proofs.Shape.RoundTrip
import SqlGateway.Proofs.Store.Execute

/-!
# An inserted row is found again

The text of an insertion puts a row into its table, with the columns of the list in their order and
the values as they were written; and the text of a query for the same columns, by the value of one
of them, ends with that row.

A value goes a long way in between: it is written and read, becomes JSON in the request of the
insertion, a cell of the store, and is compared with the operand of a condition that was written and
read as well.  Both texts are read back by their shapes, so that the way through the text is left to
`Proofs/Shape/RoundTrip`; here a cell is compared with the value it was made of, and a row is
rebuilt from its own columns.
-/

namespace SqlGateway

/-! ### Rows and their cells -/

/-- The cell of a column that a row has. -/
theorem Store.cell_of_mem {row : Row} (hrow : row.IsProper) {column : String} {value : Json}
    (hcell : (column, value) ∈ row) : cell row column = value := by
  have hfield : Json.getField? column row = some value := by
    rw [← setCells_empty hrow]
    exact getField?_setCells_of_mem hrow hcell
  rw [cell, hfield]
  rfl

/-- A row is made up of the cells of its columns. -/
theorem Row.map_cell_columns {row : Row} (hrow : row.IsProper) :
    row.columns.map (fun column => (column, Store.cell row column)) = row := by
  rw [columns, List.map_map]
  have hcells : ∀ entry ∈ row, (entry.1, Store.cell row entry.1) = entry :=
    fun entry hentry => by rw [Store.cell_of_mem hrow hentry]
  exact (List.map_congr_left hcells).trans (List.map_id' row)

/-- A row rebuilt from some columns by their names has the cells of these columns, in order. -/
theorem rebuilt_named {columns : List String} (hne : columns ≠ []) (hnodup : columns.Nodup)
    (row : Row) :
    rebuilt (columns.map fun column => .named column none) row =
      columns.map fun column => (column, Store.cell row column) := by
  have hproper : Row.IsProper (columns.map fun column => (column, Store.cell row column)) := by
    rw [Row.IsProper, Row.columns, List.map_map]
    simpa [Function.comp_def] using hnodup
  rw [rebuilt, if_neg (by simpa using hne), List.foldl_map, ← Store.setCells_empty hproper,
    Store.setCells, List.foldl_map]
  rfl

/-- A row is rebuilt from its own columns. -/
theorem rebuilt_zip {columns : List String} {values : List Json} (hne : columns ≠ [])
    (hnodup : columns.Nodup) (hlength : values.length = columns.length) :
    rebuilt (columns.map fun column => .named column none) (columns.zip values) =
      columns.zip values := by
  have hcells := Row.map_cell_columns (Row.isProper_zip hnodup hlength)
  rwa [Row.columns_zip hlength, ← rebuilt_named hne hnodup] at hcells

/-! ### Finding a row -/

/-- A number or a text equals the cell that it has become. -/
theorem Store.meets_eq {row : Row} {column : String} {value : Value} (hvalue : value.IsShort)
    (hoperand : (∃ n, value = .int n) ∨ ∃ text, value = .string text)
    (hcell : cell row column = value.toJson) : meets row ⟨column, .eq, value⟩ = true := by
  rcases hoperand with ⟨n, rfl⟩ | ⟨text, rfl⟩
  · cases hvalue with
    | int hint =>
        simp [meets, hcell, Value.toJson, holds, compareTo?, compareNumberTo?, int64?, hint]
  · simp [meets, hcell, Value.toJson, holds, compareTo?, compareStringTo?]

/-- The row of an insertion has each number and each text of the list in its column. -/
theorem Store.meets_zip {columns : List String} {values : List Value} {column : String}
    {value : Value} (hnodup : columns.Nodup) (hlength : values.length = columns.length)
    (hcell : (column, value) ∈ columns.zip values) (hvalue : value.IsShort)
    (hoperand : (∃ n, value = .int n) ∨ ∃ text, value = .string text) :
    meets (columns.zip (values.map Value.toJson)) ⟨column, .eq, value⟩ = true := by
  have hjson : (column, value.toJson) ∈ columns.zip (values.map Value.toJson) := by
    rw [List.zip_map_right]
    exact List.mem_map_of_mem hcell
  exact meets_eq hvalue hoperand
    (cell_of_mem (Row.isProper_zip hnodup (by simpa using hlength)) hjson)

/-! ### Texts -/

/-- A short statement that is written as a text and answered is executed as it is. -/
theorem Store.answer_sqlText {allowed : Option (List String)} {s : Statement} {request : Request}
    (hs : s.IsShort) (hallowed : ∀ tables ∈ allowed, s.table ∈ tables)
    (hrequest : s.toRequest = .ok request) (store : Store) :
    (answer allowed (s.sqlText false)).run store = execute request store := by
  have hfound : Plan.found (Shape.normalize (s.sqlText false).toList) = .ok (.simple, s) := by
    rw [(Shape.isPiece_sqlText hs).normalize_eq]
    exact Plan.found_of_isReadAs (Shape.isReadAs_sqlText hs)
  have hplan : Plan.ofSql allowed (s.sqlText false) = .ok ⟨.simple, s, request⟩ :=
    Plan.ofSql_eq_ok.mpr ⟨hfound, hallowed, hrequest⟩
  exact answer_of_ok hplan store

/-- The text of the insertion of one row. -/
theorem InsertStatement.sqlText_row (table : String) (columns : List String)
    (values : List Value) :
    InsertStatement.sqlText ⟨table, columns, [values]⟩ =
      "INSERT INTO " ++ table ++ " (" ++ ", ".intercalate columns ++ ") VALUES (" ++
        ", ".intercalate (values.map Value.sqlText) ++ ")" := by
  have hopen : ") VALUES (" = ") VALUES " ++ "(" := by decide
  unfold sqlText rowText
  rw [hopen]
  simp only [List.map_cons, List.map_nil, String.intercalate_singleton, String.append_assoc]

/-- The text of a query for named columns by the value of one column. -/
theorem SelectStatement.sqlText_equal (table : String) (columns : List String) (column : String)
    (value : Value) :
    SelectStatement.sqlText false ⟨table, columns.map fun name => .named name none,
        some (.compare ⟨column, .eq, value⟩), [], none, none⟩ =
      "SELECT " ++ ", ".intercalate columns ++ " FROM " ++ table ++ " WHERE " ++ column ++ " = " ++
        value.sqlText := by
  simp [sqlText, whereText, orderText, Predicate.sqlText, Comparison.sqlText, Operator.symbol,
    SelectColumn.sqlText, Function.comp_def, String.append_assoc]

section Row

variable {allowed : Option (List String)} {table : String} {columns : List String}
  {values : List Value} {store : Store} {rows : List Row}

/-- Answering the text of an insertion adds its row at the end of the table. -/
theorem Store.answer_insert (htable : isIdentifier table = true)
    (hallowed : ∀ tables ∈ allowed, table ∈ tables)
    (hcolumns : ∀ column ∈ columns, isIdentifier column = true) (hne : columns ≠ [])
    (hnodup : columns.Nodup) (hlength : values.length = columns.length)
    (hvalues : ∀ value ∈ values, value.IsShort) (hrows : store.rows? table = some rows) :
    (answer allowed (InsertStatement.sqlText ⟨table, columns, [values]⟩)).run store =
      (some (.found [columns.zip (values.map Value.toJson)]),
        store.setRows table (rows ++ [columns.zip (values.map Value.toJson)])) := by
  have hproper : Row.IsProper (columns.zip (values.map Value.toJson)) :=
    Row.isProper_zip hnodup (by simpa using hlength)
  have hrequest : InsertStatement.toRequest ⟨table, columns, [values]⟩ = .ok _ :=
    InsertStatement.toRequest_eq_ok.mpr
      ⟨htable, hcolumns, List.cons_ne_nil values [], by simpa using hlength, rfl⟩
  have hanswer := answer_sqlText (.insert htable hne hcolumns hlength hvalues) hallowed hrequest
    store
  refine hanswer.trans ?_
  rw [execute_of_some hrows]
  simp [concerned?, changed, report, rowOf_zip hnodup hlength, project_star hproper]

/-- Answering the text of a query for the columns of a table by one of their values: the rows that
have the value, each rebuilt from the columns. -/
theorem Store.answer_select {column : String} {value : Value} (htable : isIdentifier table = true)
    (hallowed : ∀ tables ∈ allowed, table ∈ tables) (hseveral : 2 ≤ columns.length)
    (hcolumns : ∀ column ∈ columns,
      isIdentifier column = true ∧ Shape.isSelectKeyword column.toList = false)
    (hcolumn : isIdentifier column = true) (hvalue : value.IsShort)
    (hoperand : (∃ n, value = .int n) ∨ ∃ text, value = .string text)
    (hrows : store.rows? table = some rows) :
    (answer allowed (SelectStatement.sqlText false
      ⟨table, columns.map fun name => .named name none,
        some (.compare ⟨column, .eq, value⟩), [], none, none⟩)).run store =
      (some (.found ((rows.filter fun row => meets row ⟨column, .eq, value⟩).map
        (rebuilt (columns.map fun name => .named name none)))), store) := by
  have hshort : Comparison.IsShort ⟨column, .eq, value⟩ :=
    ⟨hcolumn, List.mem_cons_self, hvalue, hoperand⟩
  have hlist : IsShortList (columns.map fun name => .named name none) := by
    refine .named ?_ fun entry hentry => ?_
    · intro hnil
      rw [List.map_eq_nil_iff] at hnil
      simp [hnil] at hseveral
    · obtain ⟨name, hname, rfl⟩ := List.mem_map.mp hentry
      exact ⟨name, none, rfl, hcolumns name hname, by simp⟩
  obtain ⟨text, htext⟩ := exists_selectText (Shape.isPlain_of_isShortList hlist)
  have hrequest : SelectStatement.toRequest ⟨table, columns.map fun name => .named name none,
      some (.compare ⟨column, .eq, value⟩), [], none, none⟩ = .ok _ :=
    SelectStatement.toRequest_eq_ok.mpr ⟨htable, text, [.condition ⟨column, .eq, value⟩], htext,
      Predicate.filters_compare_eq_ok.mpr ⟨_, Shape.checked_eq_self hshort, rfl⟩, by simp, rfl⟩
  have hanswer := answer_sqlText
    (.select htable hlist (.compare hshort) (fun _ => by simpa using hseveral) (by simp) (by simp))
    hallowed hrequest store
  refine hanswer.trans ?_
  rw [execute_of_some hrows]
  have hpasses : passesAll [.condition ⟨column, .eq, value⟩] =
      fun row => meets row ⟨column, .eq, value⟩ := by
    funext row
    simp [passesAll, passes]
  simp [concerned?, changed, report, selected?, sorted?, hpasses, project_selectText htext,
    setRows_self hrows]

/-- An inserted row is found again by any of its numbers and texts.  The insertion succeeds, returns
the row with its columns in order, and adds just this row at the end of its table; and a query for
the same columns succeeds, changes nothing, and its last row is the inserted one. -/
theorem Store.answer_insert_then_select {column : String} {value : Value}
    (htable : isIdentifier table = true) (hallowed : ∀ tables ∈ allowed, table ∈ tables)
    (hrows : store.rows? table = some rows) (hseveral : 2 ≤ columns.length)
    (hcolumns : ∀ name ∈ columns,
      isIdentifier name = true ∧ Shape.isSelectKeyword name.toList = false)
    (hnodup : columns.Nodup) (hlength : values.length = columns.length)
    (hvalues : ∀ item ∈ values, item.IsShort) (hcell : (column, value) ∈ columns.zip values)
    (hoperand : (∃ n, value = .int n) ∨ ∃ text, value = .string text) :
    let row : Row := columns.zip (values.map Value.toJson)
    let inserted := (answer allowed ("INSERT INTO " ++ table ++ " (" ++ ", ".intercalate columns ++
      ") VALUES (" ++ ", ".intercalate (values.map Value.sqlText) ++ ")")).run store
    let selected := (answer allowed ("SELECT " ++ ", ".intercalate columns ++ " FROM " ++ table ++
      " WHERE " ++ column ++ " = " ++ value.sqlText)).run inserted.2
    inserted.1 = some (.found [row]) ∧
      (∀ other, inserted.2.rows? other =
        if other = table then some (rows ++ [row]) else store.rows? other) ∧
      selected.2 = inserted.2 ∧ ∃ earlier, selected.1 = some (.found (earlier ++ [row])) := by
  intro row inserted selected
  obtain ⟨hcolumn, hvalue⟩ := List.of_mem_zip hcell
  have hne : columns ≠ [] := List.ne_nil_of_mem hcolumn
  have hinserted : inserted = (some (.found [row]), store.setRows table (rows ++ [row])) := by
    have hanswer := answer_insert htable hallowed (fun name hname => (hcolumns name hname).1) hne
      hnodup hlength hvalues hrows
    rwa [InsertStatement.sqlText_row] at hanswer
  have hafter : ∀ other, inserted.2.rows? other =
      if other = table then some (rows ++ [row]) else store.rows? other := by
    rw [hinserted]
    exact rows?_setRows hrows (rows ++ [row])
  have hselected : selected =
      (some (.found (((rows ++ [row]).filter fun row => meets row ⟨column, .eq, value⟩).map
        (rebuilt (columns.map fun name => .named name none)))), inserted.2) := by
    have hanswer := answer_select htable hallowed hseveral hcolumns (hcolumns column hcolumn).1
      (hvalues value hvalue) hoperand ((hafter table).trans (if_pos rfl))
    rwa [SelectStatement.sqlText_equal] at hanswer
  clear_value selected inserted
  refine ⟨by rw [hinserted], hafter, by rw [hselected], ?_⟩
  refine ⟨(rows.filter fun row => meets row ⟨column, .eq, value⟩).map
    (rebuilt (columns.map fun name => .named name none)), ?_⟩
  -- the row passes the filter as the last one, and is rebuilt as it is
  have hmeets := meets_zip hnodup hlength hcell (hvalues value hvalue) hoperand
  have hrebuilt : rebuilt (columns.map fun name => .named name none) row = row :=
    rebuilt_zip hne hnodup (by simpa using hlength)
  rw [hselected, List.filter_append, List.map_append]
  simp [row, hmeets, hrebuilt]

end Row

/-- The least integer, a text with a quote and a comment in it, and no value at all; the row is
found by the text. -/
theorem Store.answer_insert_then_select_quoted :
    let store : Store := ⟨[("t", [[("a", .number (.int 0))]]), ("u", [])]⟩
    let row : Row := [("a", .number (.int (-9223372036854775808))), ("b", .string "it's -- 1; 2"),
      ("c", .null)]
    let inserted := (answer none
      "INSERT INTO t (a, b, c) VALUES (-9223372036854775808, 'it''s -- 1; 2', NULL)").run store
    let selected := (answer none "SELECT a, b, c FROM t WHERE b = 'it''s -- 1; 2'").run inserted.2
    inserted.1 = some (.found [row]) ∧
      inserted.2.rows? "t" = some [[("a", .number (.int 0))], row] ∧
      selected.2 = inserted.2 ∧ ∃ earlier, selected.1 = some (.found (earlier ++ [row])) := by
  intro store row inserted selected
  have hrows : store.rows? "t" = some [[("a", .number (.int 0))]] := rfl
  have hcell : ("b", Value.string "it's -- 1; 2") ∈ ["a", "b", "c"].zip
      [.int (-9223372036854775808), .string "it's -- 1; 2", .null] :=
    List.mem_cons_of_mem _ List.mem_cons_self
  have hvalues : ∀ item ∈ [Value.int (-9223372036854775808), .string "it's -- 1; 2", .null],
      item.IsShort := by
    simp only [List.forall_mem_cons, List.not_mem_nil, false_imp_iff, implies_true, and_true]
    exact ⟨.int (by decide), .string (by decide), .null⟩
  have hallowed : ∀ tables ∈ (none : Option (List String)), "t" ∈ tables := by simp
  have hall := answer_insert_then_select (by decide) hallowed hrows (by decide) (by decide)
    (by decide) (by decide) hvalues hcell (.inr ⟨_, rfl⟩)
  have hinsertion : "INSERT INTO " ++ "t" ++ " (" ++ ", ".intercalate ["a", "b", "c"] ++
      ") VALUES (" ++ ", ".intercalate (List.map Value.sqlText
        [.int (-9223372036854775808), .string "it's -- 1; 2", .null]) ++ ")" =
      "INSERT INTO t (a, b, c) VALUES (-9223372036854775808, 'it''s -- 1; 2', NULL)" := by
    decide +kernel
  have hquery : "SELECT " ++ ", ".intercalate ["a", "b", "c"] ++ " FROM " ++ "t" ++ " WHERE " ++
      "b" ++ " = " ++ Value.sqlText (.string "it's -- 1; 2") =
      "SELECT a, b, c FROM t WHERE b = 'it''s -- 1; 2'" := by
    decide +kernel
  rw [hinsertion, hquery] at hall
  obtain ⟨hinserted, hafter, hselected⟩ := hall
  exact ⟨hinserted, hafter "t", hselected⟩

end SqlGateway
