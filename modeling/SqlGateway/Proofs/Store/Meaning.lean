import SqlGateway.Store.Basic
import SqlGateway.Proofs.Request.Clause
import SqlGateway.Proofs.Sorting.Stable
import SqlGateway.Proofs.Store.Cells
import SqlGateway.Proofs.Text.Blank

/-!
# What a statement means, and that its request does just that

A statement is carried out in two steps: it is translated into a request, in which the condition has
become a flat list of filters, the select list a text and the values JSON, and the store then
executes the request without having seen the statement.  Here the statement is given a meaning of
its own, read directly off its parts, and executing its request is shown to have that meaning.

The order of a query is part of its meaning as what a stable sort is, not as what the store does to
find one.  It takes keys that order the rows consistently: other rows have no stable sort, and on
some of them the sort gives up.
-/

namespace SqlGateway

/-! ### The meaning of a statement -/

/-- Whether a row satisfies a clause: both sides of a conjunction, either side of a disjunction. -/
def Predicate.holdsOf (row : Row) : Predicate → Bool
  | compare c => Store.meets row c
  | and left right => holdsOf row left && holdsOf row right
  | or left right => holdsOf row left || holdsOf row right

/-- Whether a row satisfies an optional clause; without one every row does. -/
def satisfies (clause : Option Predicate) (row : Row) : Bool :=
  clause.all (Predicate.holdsOf row)

/-- Adds what a column chooses from a row to the row built so far: a star copies every cell, a named
column puts its cell, or null, under its label if it has one. -/
def SelectColumn.addTo (row built : Row) : SelectColumn → Row
  | star => row.foldl (fun built cell => Json.setField cell.1 cell.2 built) built
  | named name label => Json.setField (label.getD name) ((row.lookup name).getD .null) built

/-- A row rebuilt column by column; an empty select list stands for all columns. -/
def rebuilt (columns : List SelectColumn) (row : Row) : Row :=
  (if columns = [] then [.star] else columns).foldl (SelectColumn.addTo row) []

/-- A list without its first `offset` items, cut behind the `limit` items that follow. -/
def page {α : Type} (offset limit : Option Nat) (items : List α) : List α :=
  match limit with
  | none => items.drop (offset.getD 0)
  | some count => (items.drop (offset.getD 0)).take count

/-- A row with assignments carried out on it, one after the other. -/
def assigned (assignments : List Assignment) (row : Row) : Row :=
  assignments.foldl (fun row a => Json.setField a.column a.value.toJson row) row

/-- The row with the given values in the given columns. -/
def rowWith (columns : List String) (values : List Value) : Row :=
  (columns.zip values).foldl (fun row cell => Json.setField cell.1 cell.2.toJson row) []

/-- What a statement makes of the rows of its table, and the rows that it returns, if any. -/
inductive Statement.Means (rows : List Row) :
    Statement → List Row → Option (List Row) → Prop
  /-- A query returns a page of the rows that satisfy its clause, sorted stably. -/
  | select {s : SelectStatement} {ordered : List Row} :
      IsStableSort (Store.compareRows s.order) (rows.filter (satisfies s.filter)) ordered →
        Means rows (.select s) rows
          (some ((page s.offset s.limit ordered).map (rebuilt s.columns)))
  | insert (s : InsertStatement) :
      Means rows (.insert s) (rows ++ s.rows.map (rowWith s.columns))
        (some (s.rows.map (rowWith s.columns)))
  | update (s : UpdateStatement) :
      Means rows (.update s)
        (rows.map fun row => if satisfies s.filter row then assigned s.assignments row else row)
        (some ((rows.filter (satisfies s.filter)).map (assigned s.assignments)))
  | delete (s : DeleteStatement) :
      Means rows (.delete s) (rows.filter fun row => !satisfies s.filter row) none

/-- The keys of a query order the rows that satisfy its clause consistently.  Other statements do
not ask for an order. -/
def Statement.IsSortable (rows : List Row) : Statement → Prop
  | select s => IsPreorderOn (Store.compareRows s.order) (rows.filter (satisfies s.filter))
  | _ => True

/-- Where the rows can be sorted, a statement has no more than one meaning. -/
theorem Statement.Means.unique {rows : List Row} {s : Statement} (hsortable : s.IsSortable rows)
    {after after' : List Row} {returned returned' : Option (List Row)}
    (hmeans : s.Means rows after returned) (hmeans' : s.Means rows after' returned') :
    after' = after ∧ returned' = returned := by
  cases hmeans with
  | select hordered =>
      cases hmeans' with
      | select hordered' =>
          rw [hordered.unique hordered' hsortable]
          exact ⟨rfl, rfl⟩
  | insert s =>
      cases hmeans'
      exact ⟨rfl, rfl⟩
  | update s =>
      cases hmeans'
      exact ⟨rfl, rfl⟩
  | delete s =>
      cases hmeans'
      exact ⟨rfl, rfl⟩

/-! ### Conditions -/

/-- A comparison as a filter states it holds of the same rows. -/
theorem Store.meets_stated (row : Row) (c : Comparison) : meets row c.stated = meets row c := by
  unfold Comparison.stated
  split
  · rename_i hisIn
    cases hcell : cell row c.column <;> simp [meets, hisIn, hcell, holds, Value.intoList]
  · rfl

variable {clause : Predicate}

/-- Where there is no conjunction, a clause holds of the rows that one of its leaves holds of. -/
theorem Predicate.any_leaves (hclause : ¬clause.HasAnd) (row : Row) :
    clause.leaves.any (Store.meets row) = clause.holdsOf row := by
  induction clause with
  | compare c => simp [leaves, holdsOf]
  | and left right => exact absurd hasAnd_and hclause
  | or left right ihleft ihright =>
      rw [hasAnd_or, not_or] at hclause
      rw [leaves, List.any_append, ihleft hclause.1, ihright hclause.2, holdsOf]

theorem Predicate.passesAll_factors (hclause : clause.IsFlat) (row : Row) :
    Store.passesAll (clause.factors.map toFilter) row = clause.holdsOf row := by
  induction clause with
  | compare c =>
      simp [factors, toFilter, Store.passesAll, Store.passes, Store.meets_stated, holdsOf]
  | and left right ihleft ihright =>
      obtain ⟨hleft, hright⟩ := isFlat_and.mp hclause
      rw [holdsOf, ← ihleft hleft, ← ihright hright, factors, List.map_append]
      exact List.all_append
  | or left right =>
      rw [← any_leaves (isFlat_or.mp hclause).1]
      simp [factors, toFilter, Store.passesAll, Store.passes, Store.meets_stated, Function.comp_def]

/-- The filters of a clause let through the rows that the clause holds of. -/
theorem Predicate.passesAll_filters {filters : List Filter}
    (hfilters : clause.filters = .ok filters) (row : Row) :
    Store.passesAll filters row = clause.holdsOf row := by
  obtain ⟨hflat, rfl⟩ := filters_eq_ok_iff.mp hfilters
  exact passesAll_factors hflat row

theorem passesAll_filtersOf {clause : Option Predicate} {filters : List Filter}
    (hfilters : Predicate.filtersOf clause = .ok filters) :
    Store.passesAll filters = satisfies clause := by
  funext row
  cases clause with
  | none =>
      cases hfilters
      rfl
  | some clause => exact Predicate.passesAll_filters hfilters row

/-! ### Select lists -/

/-- The item that a select column is read back as. -/
def SelectColumn.item : SelectColumn → Store.ColumnItem
  | star => .star
  | named name label => .column (label.getD name) name

theorem SelectColumn.isBlank_of_mem_entry {column : SelectColumn} (hplain : column.IsPlain) :
    ∀ c ∈ column.entry, Text.isBlank c = false := by
  have hidentifier : ∀ {name : String}, isIdentifier name = true →
      ∀ c ∈ name.toList, Text.isBlank c = false :=
    fun hname c hc => isBlank_eq_false_of_isIdentifierPart (isIdentifierPart_of_mem hname hc)
  cases column with
  | star => decide
  | named name label =>
      obtain ⟨hname, hlabel⟩ := hplain
      cases label with
      | none => exact hidentifier hname
      | some label =>
          have hcolon : Text.isBlank ':' = false := by decide
          simp only [entry, List.forall_mem_append, List.forall_mem_cons]
          exact ⟨hidentifier (hlabel label rfl), hcolon, hidentifier hname⟩

/-- Reading an entry of a select list gives the column back. -/
theorem SelectColumn.ofChars_entry {column : SelectColumn} (hplain : column.IsPlain) :
    Store.ColumnItem.ofChars column.entry = column.item := by
  cases column with
  | star => rfl
  | named name label =>
      obtain ⟨hname, hlabel⟩ := hplain
      cases label with
      | none =>
          have hstar : name.toList ≠ ['*'] := by
            intro h
            exact not_mem_of_isIdentifier hname (c := '*') (by decide) (by simp [h])
          have hcolon := not_mem_of_isIdentifier hname (c := ':') (by decide)
          simp [Store.ColumnItem.ofChars, entry, item, hstar, Text.splitOnce?_of_not_mem hcolon]
      | some label =>
          have hstar : label.toList ++ ':' :: name.toList ≠ ['*'] := by
            intro h
            have hmem : ':' ∈ label.toList ++ ':' :: name.toList := by simp
            simp [h] at hmem
          have hcolon := not_mem_of_isIdentifier (hlabel label rfl) (c := ':') (by decide)
          simp [Store.ColumnItem.ofChars, entry, item, hstar, Text.splitOnce?_append hcolon]

theorem SelectColumn.entry_ne_nil {column : SelectColumn} (hplain : column.IsPlain) :
    column.entry ≠ [] := by
  cases column with
  | star => simp [entry]
  | named name label =>
      cases label with
      | none => exact toList_ne_nil_of_isIdentifier hplain.1
      | some label => simp [entry]

/-- Reading the text of a select list gives the columns of the list. -/
theorem columnItems_selectText {columns : List SelectColumn} {text : String}
    (htext : selectText columns = .ok text) :
    Store.columnItems text =
      (if columns = [] then [.star] else columns).map SelectColumn.item := by
  have hread : ∀ columns : List SelectColumn, (∀ column ∈ columns, column.IsPlain) →
      (((columns.map SelectColumn.entry).map Text.trim).filter fun entry => !entry.isEmpty).map
        Store.ColumnItem.ofChars = columns.map SelectColumn.item := by
    intro columns hplain
    induction columns with
    | nil => rfl
    | cons column rest ih =>
        obtain ⟨hcolumn, hrest⟩ := List.forall_mem_cons.mp hplain
        have htrim := Text.trim_eq_self (SelectColumn.isBlank_of_mem_entry hcolumn)
        simp [htrim, SelectColumn.entry_ne_nil hcolumn, SelectColumn.ofChars_entry hcolumn,
          ← ih hrest]
  rw [Store.columnItems, splitAt_selectText htext, selectEntries]
  split
  · rfl
  · exact hread columns (isPlain_of_selectText htext)

theorem Store.addItem_item (row built : Row) (column : SelectColumn) :
    addItem row built column.item = column.addTo row built := by
  cases column <;> rfl

/-- The columns that the text of a select list chooses from a row. -/
theorem project_selectText {columns : List SelectColumn} {text : String}
    (htext : selectText columns = .ok text) : Store.project text = rebuilt columns := by
  funext row
  rw [Store.project, columnItems_selectText htext, rebuilt, List.foldl_map]
  simp only [Store.addItem_item]

theorem Store.project_star {row : Row} (hrow : row.IsProper) : project "*" row = row := by
  have hitems : columnItems "*" = [.star] := by decide
  rw [project, hitems]
  exact setCells_empty hrow

theorem Store.map_project_star {rows : List Row} (hrows : ∀ row ∈ rows, row.IsProper) :
    rows.map (project "*") = rows := by
  rw [List.map_congr_left fun row hrow => project_star (hrows row hrow), List.map_id']

/-! ### Assignments -/

theorem setCells_record (s : UpdateStatement) (row : Row) :
    Store.setCells row s.record = assigned s.assignments row := by
  rw [UpdateStatement.record, rowOf_eq_setCells, Store.setCells_setCells, Store.setCells, assigned,
    List.map_map, List.foldl_map]
  rfl

theorem isProper_assigned {row : Row} (hrow : row.IsProper) (assignments : List Assignment) :
    (assigned assignments row).IsProper := by
  induction assignments generalizing row with
  | nil => exact hrow
  | cons a assignments ih => exact ih (Json.nodup_columns_setField hrow)

/-! ### Execution -/

theorem Store.rows?_setRows {store : Store} {table : String} {old : List Row}
    (hold : store.rows? table = some old) (new : List Row) (other : String) :
    (store.setRows table new).rows? other =
      if other = table then some new else store.rows? other := by
  obtain ⟨tables⟩ := store
  simp only [rows?, setRows] at hold ⊢
  induction tables with
  | nil => simp at hold
  | cons entry tables ih =>
      obtain ⟨name, rows⟩ := entry
      by_cases hname : name = table
      · subst hname
        rw [setTable, if_pos rfl, lookup_cons_eq_ite, lookup_cons_eq_ite]
        by_cases hother : other = name <;> simp [hother]
      · rw [lookup_cons_eq_ite, if_neg (Ne.symm hname)] at hold
        rw [setTable, if_neg hname, lookup_cons_eq_ite, lookup_cons_eq_ite, ih hold]
        by_cases hother : other = name
        · subst hother
          simp [hname]
        · simp [hother]

theorem Store.selected?_eq_map (request : Request) (rows : List Row) :
    selected? request rows =
      (sorted? request.order (rows.filter (passesAll request.filters))).map
        (page request.offset request.limit) := by
  unfold selected?
  cases hlimit : request.limit <;> rfl

/-- Keys that order rows consistently sort them stably. -/
theorem Store.sortsStably_sorted {keys : List OrderKey} {rows : List Row}
    (hpreorder : IsPreorderOn (compareRows keys) rows) :
    SortsStably (compareRows keys) (sorted? keys) rows := by
  cases keys with
  | nil => exact ⟨rows, rfl, .refl (List.pairwise_of_forall fun _ _ => by simp [compareRows])⟩
  | cons key keys => exact Sorting.sortsStably_sort hpreorder

/-- Integers next to `2 ^ 63`, some of which are equal to `2 ^ 63` itself though they are told apart
from each other. -/
def Store.blurredRows : List Row :=
  [796, 799, 802, 807, 795, 793, 806, 804, 791, 788, 800, 797, 805, 798, 789, 808, 790, 801, 792,
    803, 794].map fun n => [("n", .number (.int (9223372036854775000 + n)))]

/-- The sort gives up on rows that are not ordered consistently. -/
theorem Store.sorted?_blurredRows : sorted? [⟨"n", .ascending⟩] blurredRows = none := by
  rw [← Option.isNone_iff_eq_none]
  decide +kernel

/-- A query for such rows in order has no outcome. -/
theorem Store.execute_blurredRows {request : Request} (hselect : request.operation = .select)
    (hfilters : request.filters = []) (horder : request.order = [⟨"n", .ascending⟩])
    {store : Store} (hrows : store.rows? request.table = some blurredRows) :
    (execute request store).1 = none := by
  have hall : blurredRows.filter (passesAll []) = blurredRows :=
    List.filter_eq_self.mpr fun _ _ => rfl
  rw [execute, hrows]
  simp only [concerned?, hselect, selected?_eq_map, hfilters, hall, horder, sorted?_blurredRows,
    Option.map_none]

/-- Executing the request of a statement has the meaning of the statement, of which there is just
one if the rows can be sorted: the rows that it returns, if any, and the rows of its table
afterwards are those of the meaning, and no other table is touched. -/
theorem execute_toRequest {s : Statement} {request : Request} (hrequest : s.toRequest = .ok request)
    {store : Store} {rows : List Row} (hrows : store.rows? s.table = some rows)
    (hproper : ∀ row ∈ rows, row.IsProper) (hsortable : s.IsSortable rows) :
    ∃ after returned, s.Means rows after returned ∧
      (∀ after' returned', s.Means rows after' returned' →
        after' = after ∧ returned' = returned) ∧
      (Store.execute request store).1 =
        some (match returned with
        | some found => Outcome.found found
        | none => Outcome.done) ∧
      ∀ table, (Store.execute request store).2.rows? table =
        if table = s.table then some after else store.rows? table := by
  have htable := (Statement.table_of_toRequest hrequest).1
  have hexecute : Store.execute request store =
      ((Store.concerned? request rows).map (Store.report request),
        store.setRows s.table (Store.changed request rows)) := by
    rw [Store.execute, htable, hrows]
  have hcontents : ∃ returned, s.Means rows (Store.changed request rows) returned ∧
      (Store.concerned? request rows).map (Store.report request) =
        some (match returned with
        | some found => Outcome.found found
        | none => Outcome.done) := by
    cases s with
    | select s =>
        obtain ⟨-, text, filters, htext, hfilters, -, rfl⟩ :=
          SelectStatement.toRequest_eq_ok.mp hrequest
        obtain ⟨ordered, hsort, hordered⟩ := Store.sortsStably_sorted hsortable
        refine ⟨_, .select hordered, ?_⟩
        simp [Store.report, Store.concerned?, Store.selected?_eq_map, passesAll_filtersOf hfilters,
          hsort, project_selectText htext]
    | insert s =>
        obtain ⟨-, -, -, -, rfl⟩ := InsertStatement.toRequest_eq_ok.mp hrequest
        have hadded : ∀ row ∈ s.rows.map (rowWith s.columns), row.IsProper := by
          intro row hrow
          obtain ⟨values, -, rfl⟩ := List.mem_map.mp hrow
          exact isProper_rowOf _
        exact ⟨_, .insert s, congrArg (some ∘ Outcome.found) (Store.map_project_star hadded)⟩
    | update s =>
        obtain ⟨-, -, -, filters, hfilters, rfl⟩ := UpdateStatement.toRequest_eq_ok.mp hrequest
        have hpasses := passesAll_filtersOf hfilters
        have hchanged : ∀ row ∈ (rows.filter (satisfies s.filter)).map (assigned s.assignments),
            row.IsProper := by
          intro row hrow
          obtain ⟨old, hold, rfl⟩ := List.mem_map.mp hrow
          exact isProper_assigned (hproper old (List.mem_of_mem_filter hold)) _
        refine ⟨some ((rows.filter (satisfies s.filter)).map (assigned s.assignments)), ?_, ?_⟩
        · simp only [Store.changed, hpasses, setCells_record]
          exact .update s
        · simp only [Store.report, Store.concerned?, hpasses, setCells_record, Option.map_some]
          rw [Store.map_project_star hchanged]
    | delete s =>
        obtain ⟨-, filters, hfilters, rfl⟩ := DeleteStatement.toRequest_eq_ok.mp hrequest
        refine ⟨none, ?_, rfl⟩
        simp only [Store.changed, passesAll_filtersOf hfilters]
        exact .delete s
  obtain ⟨returned, hmeans, hreport⟩ := hcontents
  refine ⟨_, returned, hmeans, fun _ _ hmeans' => hmeans.unique hsortable hmeans', ?_, ?_⟩
  · rw [hexecute, hreport]
  · rw [hexecute]
    exact Store.rows?_setRows hrows _

/-- An update that assigns a column twice, with a tree of conditions, and a query that shows the
second of the rows it sorts, under a label. -/
theorem execute_toRequest_update :
    let update : Statement := .update
      { table := "t"
        assignments := [⟨"a", .int 1⟩, ⟨"b", .null⟩, ⟨"a", .int 2⟩]
        filter := some (.and (.or (.compare ⟨"a", .eq, .int 5⟩) (.compare ⟨"b", .is, .null⟩))
          (.compare ⟨"c", .isIn, .string "x"⟩)) }
    let query : Statement := .select
      { table := "t", columns := [.named "c" (some "d"), .star], filter := none
        order := [⟨"c", .descending⟩], limit := none, offset := some 1 }
    let rows : List Row :=
      [[("a", .number (.int 5)), ("c", .string "x")], [("a", .number (.int 5)), ("c", .null)]]
    let store : Store := ⟨[("t", rows), ("u", [])]⟩
    (∃ request, update.toRequest = .ok request ∧
      (Store.execute request store).1 =
        some (.found [[("a", .number (.int 2)), ("c", .string "x"), ("b", .null)]]) ∧
      ∀ table, (Store.execute request store).2.rows? table =
        if table = "t" then some [[("a", .number (.int 2)), ("c", .string "x"), ("b", .null)],
          [("a", .number (.int 5)), ("c", .null)]]
        else store.rows? table) ∧
    ∃ request, query.toRequest = .ok request ∧
      (Store.execute request store).1 =
        some (.found [[("d", .string "x"), ("a", .number (.int 5)), ("c", .string "x")]]) := by
  intro update query rows store
  have hrows : store.rows? "t" = some rows := rfl
  have hproper : ∀ row ∈ rows, row.IsProper := by
    simp [rows, Row.IsProper, Row.columns]
  constructor
  · obtain ⟨request, hrequest⟩ := exists_eq_ok_of_isOk
      (show update.toRequest.isOk = true by decide +kernel)
    obtain ⟨_, _, -, hunique, hreturned, hstored⟩ :=
      execute_toRequest hrequest hrows hproper trivial
    obtain ⟨rfl, rfl⟩ := hunique _ _ (.update _)
    exact ⟨request, hrequest, hreturned, hstored⟩
  · obtain ⟨request, hrequest⟩ := exists_eq_ok_of_isOk
      (show query.toRequest.isOk = true by decide +kernel)
    have hsortable : query.IsSortable rows :=
      ⟨⟨by decide +kernel, by decide +kernel⟩, by decide +kernel⟩
    have hordered : IsStableSort (Store.compareRows [⟨"c", .descending⟩]) rows rows.reverse :=
      ⟨.swap _ _ _, by decide +kernel,
        List.forall_mem_cons.mpr ⟨rfl, List.forall_mem_singleton.mpr rfl⟩⟩
    obtain ⟨_, _, -, hunique, hreturned, -⟩ := execute_toRequest hrequest hrows hproper hsortable
    obtain ⟨rfl, rfl⟩ := hunique _ _ (.select hordered)
    exact ⟨request, hrequest, hreturned⟩

/-- Not every statement that is translated for a table that is there has an outcome. -/
theorem not_forall_execute_toRequest :
    ¬∀ (s : Statement) (request : Request) (store : Store) (rows : List Row),
      s.toRequest = .ok request → store.rows? s.table = some rows →
        (∀ row ∈ rows, row.IsProper) →
          ∃ outcome, (Store.execute request store).1 = some outcome := by
  intro hexecutes
  let s : SelectStatement :=
    { table := "t", columns := [.named "n" none], filter := none, order := [⟨"n", .ascending⟩]
      limit := none, offset := none }
  obtain ⟨request, hrequest⟩ := exists_eq_ok_of_isOk
    (show s.toRequest.isOk = true by decide +kernel)
  have hproper : ∀ row ∈ Store.blurredRows, row.IsProper := by
    simp [Store.blurredRows, Row.IsProper, Row.columns]
  obtain ⟨outcome, houtcome⟩ :=
    hexecutes (.select s) request ⟨[("t", Store.blurredRows)]⟩ _ hrequest rfl hproper
  obtain ⟨-, text, filters, -, hfilters, -, rfl⟩ := SelectStatement.toRequest_eq_ok.mp hrequest
  cases hfilters
  rw [Store.execute_blurredRows rfl rfl rfl rfl] at houtcome
  contradiction

end SqlGateway
