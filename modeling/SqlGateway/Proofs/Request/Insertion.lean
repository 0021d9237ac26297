import SqlGateway.Proofs.Request.OfStatement
import SqlGateway.Proofs.Store.Cells

/-!
# The rows of an insertion

An insertion lists its columns once and gives a tuple of values for each row.  Every tuple has to be
as long as the list, and becomes an object.  An object has each key once, so a column that the list
names twice has one cell in it: where it is named first, with the value it is given last.  The main
statement says that nothing else can be lost: every value of every row stands under its column
exactly if no column is named twice.
-/

namespace SqlGateway

/-! ### Gathering cells -/

variable {columns : List String} {values : List Value}

/-- What the object of a tuple holds: a cell for every column, where the column is first named, with
the value that is last given for it. -/
structure Row.Gathers (columns : List String) (values : List Value) (row : Row) : Prop where
  columns_eq : row.columns = columns.eraseDups
  getField?_eq : ∀ column, Json.getField? column row =
    ((columns.zip values).reverse.lookup column).map Value.toJson

theorem lookup_map_toJson (cells : List (String × Value)) (column : String) :
    (cells.map fun cell => (cell.1, cell.2.toJson)).lookup column =
      (cells.lookup column).map Value.toJson := by
  induction cells with
  | nil => rfl
  | cons cell cells ih =>
      rw [List.map_cons, lookup_cons_eq_ite, ih, lookup_cons_eq_ite]
      split <;> rfl

/-- The row of a tuple gathers its values. -/
theorem gathers_rowOf (hlength : values.length = columns.length) :
    Row.Gathers columns values (rowOf (columns.zip values)) := by
  have hcolumns : Row.columns ((columns.zip values).map fun cell => (cell.1, cell.2.toJson)) =
      columns := by
    rw [Row.columns, List.map_map]
    exact List.map_fst_zip (Nat.le_of_eq hlength.symm)
  refine ⟨?_, fun column => ?_⟩
  · rw [rowOf_eq_setCells, Store.columns_setCells_eq, hcolumns]
    simp [Row.columns]
  · rw [rowOf_eq_setCells, Store.getField?_setCells, ← List.map_reverse, lookup_map_toJson]
    simp [Json.getField?]

/-- The row of a tuple has every value under its column exactly if no column is named twice. -/
theorem rowOf_zip_eq_iff (hlength : values.length = columns.length) :
    rowOf (columns.zip values) = columns.zip (values.map Value.toJson) ↔ columns.Nodup := by
  constructor
  · intro hrow
    -- an object has each key once, and here its keys are the columns
    have hproper := isProper_rowOf (columns.zip values)
    rw [hrow, Row.IsProper, Row.columns_zip (by simpa using hlength)] at hproper
    exact hproper
  · intro hnodup
    exact rowOf_zip hnodup hlength

/-! ### The request of an insertion -/

namespace InsertStatement

/-- What is asked of an insertion: plain names, and rows that are all as long as the column list. -/
structure IsRegular (s : InsertStatement) : Prop where
  table : isIdentifier s.table = true
  columns : ∀ column ∈ s.columns, isIdentifier column = true
  rows_ne_nil : s.rows ≠ []
  length_eq : ∀ values ∈ s.rows, values.length = s.columns.length

/-- The rows in which every value of every tuple stands under its column. -/
def keptRows (s : InsertStatement) : List Row :=
  s.rows.map fun values => s.columns.zip (values.map Value.toJson)

theorem exists_toRequest_iff {s : InsertStatement} :
    (∃ request, s.toRequest = .ok request) ↔ s.IsRegular := by
  constructor
  · rintro ⟨request, hrequest⟩
    obtain ⟨htable, hcolumns, hrows, hlength, -⟩ := toRequest_eq_ok.mp hrequest
    exact ⟨htable, hcolumns, hrows, hlength⟩
  · intro hregular
    exact ⟨_, toRequest_eq_ok.mpr ⟨hregular.table, hregular.columns, hregular.rows_ne_nil,
      hregular.length_eq, rfl⟩⟩

/-- The first tuple that is too short or too long refuses all of them. -/
theorem mapM_row_eq_error {tuples : List (List Value)}
    (hwrong : tuples.find? (fun values => values.length ≠ columns.length) = some values) :
    tuples.mapM (InsertStatement.row columns) = .error (.arity columns.length values.length) := by
  induction tuples with
  | nil => simp at hwrong
  | cons first tuples ih =>
      rw [List.mapM_cons]
      by_cases hfirst : first.length = columns.length
      · rw [List.find?_cons_of_neg (by simpa using hfirst)] at hwrong
        rw [InsertStatement.row, if_pos hfirst, ih hwrong]
        rfl
      · rw [List.find?_cons_of_pos (by simpa using hfirst)] at hwrong
        cases hwrong
        rw [InsertStatement.row, if_neg hfirst]
        rfl

theorem toRequest_eq_arity {s : InsertStatement} (htable : isIdentifier s.table = true)
    (hcolumns : ∀ column ∈ s.columns, isIdentifier column = true)
    (hwrong : s.rows.find? (fun values => values.length ≠ s.columns.length) = some values) :
    s.toRequest = .error (.arity s.columns.length values.length) := by
  have hchecks : s.columns.forM checkIdentifier = .ok () :=
    forM_eq_ok.mpr fun column hcolumn => checkIdentifier_eq_ok.mpr (hcolumns column hcolumn)
  have hrows : s.rows.isEmpty = false := by
    cases hempty : s.rows with
    | nil => simp [hempty] at hwrong
    | cons first rest => rfl
  rw [toRequest, checkIdentifier_eq_ok.mpr htable, hchecks, hrows]
  simp only [Bool.false_eq_true, if_false, mapM_row_eq_error hwrong]
  rfl

/-- An insertion is taken exactly if it is regular.  Each of its tuples becomes a row that gathers
its values, and all values of all tuples are kept under their columns exactly if no column is named
twice.  The first tuple of another length refuses the whole insertion. -/
theorem toRequest_keeps_iff (s : InsertStatement) :
    ((∃ request, s.toRequest = .ok request) ↔ s.IsRegular) ∧
      (∀ request, s.toRequest = .ok request → ∃ rows, request.operation = .insert rows ∧
        List.Forall₂ (Row.Gathers s.columns) s.rows rows ∧
          (rows = s.keptRows ↔ s.columns.Nodup)) ∧
      (isIdentifier s.table = true → (∀ column ∈ s.columns, isIdentifier column = true) →
        ∀ values, s.rows.find? (fun values => values.length ≠ s.columns.length) = some values →
          s.toRequest = .error (.arity s.columns.length values.length)) := by
  refine ⟨exists_toRequest_iff, ?_, fun htable hcolumns values hwrong =>
    toRequest_eq_arity htable hcolumns hwrong⟩
  intro request hrequest
  obtain ⟨-, -, hrows, hlength, rfl⟩ := toRequest_eq_ok.mp hrequest
  refine ⟨_, rfl, ?_, ?_⟩
  · rw [List.forall₂_map_right_iff, List.forall₂_same]
    exact fun values hvalues => gathers_rowOf (hlength values hvalues)
  · rw [keptRows, List.map_inj_left]
    constructor
    · intro hkept
      obtain ⟨values, hvalues⟩ := List.exists_mem_of_ne_nil s.rows hrows
      exact (rowOf_zip_eq_iff (hlength values hvalues)).mp (hkept values hvalues)
    · intro hnodup values hvalues
      exact (rowOf_zip_eq_iff (hlength values hvalues)).mpr hnodup

/-- Two tuples of an insertion into two columns. -/
theorem toRequest_keeps_iff_tuples : ∃ request,
    InsertStatement.toRequest ⟨"t", ["a", "b"], [[.int 1, .string "x"], [.list [], .null]]⟩ =
        .ok request ∧ ["a", "b"].Nodup ∧
      request.operation = .insert [[("a", .number (.int 1)), ("b", .string "x")],
        [("a", .array []), ("b", .null)]] ∧
      InsertStatement.toRequest ⟨"t", ["a", "b"], [[.int 1, .string "x"], [.null]]⟩ =
        .error (.arity 2 1) := by
  obtain ⟨hregular, hkeeps, -⟩ := toRequest_keeps_iff
    ⟨"t", ["a", "b"], [[.int 1, .string "x"], [.list [], .null]]⟩
  obtain ⟨request, hrequest⟩ := hregular.mpr
    ⟨by decide, by decide, by simp, by simp⟩
  obtain ⟨rows, hoperation, -, hkept⟩ := hkeeps request hrequest
  have hnodup : ["a", "b"].Nodup := by decide
  refine ⟨request, hrequest, hnodup, ?_, ?_⟩
  · rw [hoperation, hkept.mpr hnodup]
    rfl
  · exact (toRequest_keeps_iff ⟨"t", ["a", "b"], [[.int 1, .string "x"], [.null]]⟩).2.2
      (by decide) (by decide) [.null] rfl

/-- Of two values for one column the first is lost. -/
theorem not_forall_keptRows :
    ¬∀ (s : InsertStatement) (request : Request), s.toRequest = .ok request →
      ∃ rows, request.operation = .insert rows ∧ rows = s.keptRows := by
  intro hall
  obtain ⟨rows, hoperation, rfl⟩ := hall ⟨"t", ["a", "a"], [[.int 1, .int 2]]⟩ _ rfl
  have hrows := Operation.insert.inj hoperation
  exact absurd (congrArg (List.map List.length) hrows) (by decide)

end InsertStatement

end SqlGateway
