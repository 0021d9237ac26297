import SqlGateway.Proofs.Request.Columns

/-!
# What the request of a statement is

For each kind of statement, when it becomes a request and which one.  The conditions are those that
the translation checks, and the request is written out as a whole, so that later proofs need not
follow the translation step by step.
-/

namespace SqlGateway

/-! ### Conditions -/

/-- The filters of an optional clause; without one there are none. -/
def Predicate.filtersOf : Option Predicate → Except Error (List Filter)
  | none => .ok []
  | some clause => clause.filters

theorem Request.restrictedBy_eq_ok {request result : Request} {clause : Option Predicate} :
    request.restrictedBy clause = .ok result ↔
      ∃ filters, Predicate.filtersOf clause = .ok filters ∧
        { request with filters := request.filters ++ filters } = result := by
  cases clause with
  | none => simp [restrictedBy, Predicate.filtersOf]
  | some clause =>
      simp only [restrictedBy, restricted, Predicate.filtersOf, bind_eq_ok, pure_eq_ok]

/-- What is asked of a comparison: a plain column, null or a truth value for `IS`, and a list for
nothing but membership. -/
structure Comparison.IsAllowed (c : Comparison) : Prop where
  isIdentifier : isIdentifier c.column = true
  truthOperand : c.op = .is → c.value = .null ∨ ∃ b, c.value = .bool b
  scalar : c.op ≠ .isIn → ∀ items, c.value ≠ .list items

/-- A comparison as a filter states it: membership always looks into a list. -/
def Comparison.stated (c : Comparison) : Comparison :=
  if c.op = .isIn then { c with value := .list c.value.intoList } else c

@[simp]
theorem Comparison.stated_column (c : Comparison) : c.stated.column = c.column := by
  unfold stated
  split <;> rfl

theorem Comparison.checked_eq_ok_iff {c result : Comparison} :
    c.checked = .ok result ↔ c.IsAllowed ∧ result = c.stated := by
  obtain ⟨column, op, value⟩ := c
  have hallowed : (Comparison.mk column op value).IsAllowed ↔ isIdentifier column = true ∧
      (op = .is → value = .null ∨ ∃ b, value = .bool b) ∧
        (op ≠ .isIn → ∀ items, value ≠ .list items) :=
    ⟨fun h => ⟨h.1, h.2, h.3⟩, fun h => ⟨h.1, h.2.1, h.2.2⟩⟩
  rw [checked, check_bind_eq_ok, checkIdentifier_eq_ok, hallowed, and_assoc]
  apply and_congr_right
  intro _
  cases op <;> cases value <;> simp [stated, eq_comm]

theorem Predicate.filters_compare_eq_ok {c : Comparison} {filters : List Filter} :
    (Predicate.compare c).filters = .ok filters ↔
      ∃ result, c.checked = .ok result ∧ [.condition result] = filters := by
  simp only [Predicate.filters, bind_eq_ok, pure_eq_ok]

theorem Predicate.filters_and_eq_ok {left right : Predicate} {filters : List Filter} :
    (Predicate.and left right).filters = .ok filters ↔
      ∃ first second, left.filters = .ok first ∧ right.filters = .ok second ∧
        first ++ second = filters := by
  simp only [Predicate.filters, bind_eq_ok, pure_eq_ok, exists_and_left]

theorem Predicate.filters_or_eq_ok {left right : Predicate} {filters : List Filter} :
    (Predicate.or left right).filters = .ok filters ↔
      ∃ leaves, (Predicate.or left right).disjuncts = .ok leaves ∧ [.anyOf leaves] = filters := by
  simp only [Predicate.filters, bind_eq_ok, pure_eq_ok]

theorem Predicate.disjuncts_compare_eq_ok {c : Comparison} {leaves : List Comparison} :
    (Predicate.compare c).disjuncts = .ok leaves ↔
      ∃ result, c.checked = .ok result ∧ [result] = leaves := by
  simp only [Predicate.disjuncts, bind_eq_ok, pure_eq_ok]

theorem Predicate.disjuncts_or_eq_ok {left right : Predicate} {leaves : List Comparison} :
    (Predicate.or left right).disjuncts = .ok leaves ↔
      ∃ first second, left.disjuncts = .ok first ∧ right.disjuncts = .ok second ∧
        first ++ second = leaves := by
  simp only [Predicate.disjuncts, bind_eq_ok, pure_eq_ok, exists_and_left]

/-! ### Statements -/

theorem SelectStatement.toRequest_eq_ok {s : SelectStatement} {request : Request} :
    s.toRequest = .ok request ↔
      isIdentifier s.table = true ∧ ∃ columns filters,
        selectText s.columns = .ok columns ∧ Predicate.filtersOf s.filter = .ok filters ∧
          (∀ key ∈ s.order, isIdentifier key.column = true) ∧
          request = {
            table := s.table, operation := .select, select := some columns, filters
            order := s.order, limit := s.limit, offset := s.offset } := by
  simp only [toRequest, bind_eq_ok, Request.restrictedBy_eq_ok, pure_eq_ok, Request.ofTable,
    Request.returning, List.nil_append]
  constructor
  · rintro ⟨⟨⟩, htable, columns, hcolumns, -, ⟨filters, hfilters, rfl⟩, ⟨⟩, horder, rfl⟩
    rw [forM_eq_ok] at horder
    exact ⟨checkIdentifier_eq_ok.mp htable, columns, filters, hcolumns, hfilters,
      fun key hkey => checkIdentifier_eq_ok.mp (horder key hkey), rfl⟩
  · rintro ⟨htable, columns, filters, hcolumns, hfilters, horder, rfl⟩
    exact ⟨(), checkIdentifier_eq_ok.mpr htable, columns, hcolumns, _, ⟨filters, hfilters, rfl⟩, (),
      forM_eq_ok.mpr fun key hkey => checkIdentifier_eq_ok.mpr (horder key hkey), rfl⟩

theorem InsertStatement.row_eq_ok {columns : List String} {values : List Value} {row : Row} :
    InsertStatement.row columns values = .ok row ↔
      values.length = columns.length ∧ row = rowOf (columns.zip values) := by
  unfold InsertStatement.row
  split <;> simp_all [eq_comm]

theorem InsertStatement.toRequest_eq_ok {s : InsertStatement} {request : Request} :
    s.toRequest = .ok request ↔
      isIdentifier s.table = true ∧ (∀ column ∈ s.columns, isIdentifier column = true) ∧
        s.rows ≠ [] ∧ (∀ values ∈ s.rows, values.length = s.columns.length) ∧
          request = {
            table := s.table
            operation := .insert (s.rows.map fun values => rowOf (s.columns.zip values))
            select := some "*", filters := [], order := [], limit := none, offset := none } := by
  have hrows : ∀ rows : List Row, s.rows.mapM (InsertStatement.row s.columns) = .ok rows ↔
      (∀ values ∈ s.rows, values.length = s.columns.length) ∧
        rows = s.rows.map fun values => rowOf (s.columns.zip values) := by
    intro rows
    rw [mapM_eq_ok]
    simp only [row_eq_ok]
    induction s.rows generalizing rows with
    | nil => simp
    | cons values rest ih =>
        cases rows with
        | nil => simp
        | cons row rows =>
            rw [List.forall₂_cons, ih, List.forall_mem_cons, List.map_cons, List.cons.injEq]
            tauto
  simp only [toRequest, check_bind_eq_ok, checkIdentifier_eq_ok, forM_eq_ok]
  split
  · simp_all
  · simp only [bind_eq_ok, hrows, pure_eq_ok, Request.ofTable, Request.inserting,
      Request.returning]
    constructor
    · rintro ⟨htable, hcolumns, -, ⟨hlengths, rfl⟩, rfl⟩
      exact ⟨htable, hcolumns, by simp_all, hlengths, rfl⟩
    · rintro ⟨htable, hcolumns, -, hlengths, rfl⟩
      exact ⟨htable, hcolumns, _, ⟨hlengths, rfl⟩, rfl⟩

/-- The record of an assignment list. -/
def UpdateStatement.record (s : UpdateStatement) : Row :=
  rowOf (s.assignments.map fun a => (a.column, a.value))

theorem UpdateStatement.toRequest_eq_ok {s : UpdateStatement} {request : Request} :
    s.toRequest = .ok request ↔
      isIdentifier s.table = true ∧ s.assignments ≠ [] ∧
        (∀ a ∈ s.assignments, isIdentifier a.column = true) ∧
          ∃ filters, Predicate.filtersOf s.filter = .ok filters ∧
            request = {
              table := s.table, operation := .update s.record, select := some "*", filters
              order := [], limit := none, offset := none } := by
  simp only [toRequest, check_bind_eq_ok, checkIdentifier_eq_ok]
  split
  · simp_all
  · simp only [bind_eq_ok, Request.restrictedBy_eq_ok, pure_eq_ok, Request.ofTable,
      Request.updating, Request.returning, List.nil_append]
    constructor
    · rintro ⟨htable, ⟨⟩, hcolumns, -, ⟨filters, hfilters, rfl⟩, rfl⟩
      rw [forM_eq_ok] at hcolumns
      exact ⟨htable, by simp_all, fun a ha => checkIdentifier_eq_ok.mp (hcolumns a ha), filters,
        hfilters, rfl⟩
    · rintro ⟨htable, -, hcolumns, filters, hfilters, rfl⟩
      exact ⟨htable, (), forM_eq_ok.mpr fun a ha => checkIdentifier_eq_ok.mpr (hcolumns a ha), _,
        ⟨filters, hfilters, rfl⟩, rfl⟩

theorem DeleteStatement.toRequest_eq_ok {s : DeleteStatement} {request : Request} :
    s.toRequest = .ok request ↔
      isIdentifier s.table = true ∧ ∃ filters, Predicate.filtersOf s.filter = .ok filters ∧
        request = {
          table := s.table, operation := .delete, select := none, filters, order := []
          limit := none, offset := none } := by
  simp only [toRequest, check_bind_eq_ok, checkIdentifier_eq_ok, Request.restrictedBy_eq_ok,
    Request.ofTable, Request.deleting, List.nil_append]
  constructor
  · rintro ⟨htable, filters, hfilters, rfl⟩
    exact ⟨htable, filters, hfilters, rfl⟩
  · rintro ⟨htable, filters, hfilters, rfl⟩
    exact ⟨htable, filters, hfilters, rfl⟩

/-- The request of a statement is about the table of the statement. -/
theorem Statement.table_of_toRequest {s : Statement} {request : Request}
    (hrequest : s.toRequest = .ok request) :
    request.table = s.table ∧ isIdentifier s.table = true := by
  cases s with
  | select s =>
      obtain ⟨htable, columns, filters, -, -, -, rfl⟩ := SelectStatement.toRequest_eq_ok.mp hrequest
      exact ⟨rfl, htable⟩
  | insert s =>
      obtain ⟨htable, -, -, -, rfl⟩ := InsertStatement.toRequest_eq_ok.mp hrequest
      exact ⟨rfl, htable⟩
  | update s =>
      obtain ⟨htable, -, -, filters, -, rfl⟩ := UpdateStatement.toRequest_eq_ok.mp hrequest
      exact ⟨rfl, htable⟩
  | delete s =>
      obtain ⟨htable, filters, -, rfl⟩ := DeleteStatement.toRequest_eq_ok.mp hrequest
      exact ⟨rfl, htable⟩

/-- The request of a statement wants rows back, unless the statement is a removal. -/
theorem Statement.returnsRows_of_toRequest {s : Statement} {request : Request}
    (hrequest : s.toRequest = .ok request) :
    request.returnsRows = true ↔ s.kind ≠ .delete := by
  cases s with
  | select s =>
      obtain ⟨-, columns, filters, -, -, -, rfl⟩ := SelectStatement.toRequest_eq_ok.mp hrequest
      simp [Request.returnsRows, kind]
  | insert s =>
      obtain ⟨-, -, -, -, rfl⟩ := InsertStatement.toRequest_eq_ok.mp hrequest
      simp [Request.returnsRows, kind]
  | update s =>
      obtain ⟨-, -, -, filters, -, rfl⟩ := UpdateStatement.toRequest_eq_ok.mp hrequest
      simp [Request.returnsRows, kind]
  | delete s =>
      obtain ⟨-, filters, -, rfl⟩ := DeleteStatement.toRequest_eq_ok.mp hrequest
      simp [Request.returnsRows, kind]

end SqlGateway
