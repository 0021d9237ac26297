import SqlGateway.Proofs.Request.Clause
import SqlGateway.Proofs.Store.Cells

/-!
# The names in a request

A request carries names in seven places: its table, its select list with the labels there, its
filters at the top and inside a disjunction, its sort keys, and the columns of the rows that it
writes.  The request of a statement has plain identifiers in all of them.
-/

namespace SqlGateway

/-- The names in a text of columns: what its commas and colons separate, apart from stars. -/
def columnTextNames (text : String) : List String :=
  (((Text.splitAt ',' text.toList).filter fun entry => entry != ['*']).flatMap
    (Text.splitAt ':')).map String.ofList

/-- The columns that an operation writes. -/
def Operation.columns : Operation → List String
  | select => []
  | insert rows => rows.flatMap Row.columns
  | update record => Row.columns record
  | delete => []

/-- The columns that a filter looks at. -/
def Filter.columns : Filter → List String
  | condition c => [c.column]
  | anyOf conditions => conditions.map Comparison.column

/-- All names in a request. -/
def Request.names (request : Request) : List String :=
  request.table :: (request.operation.columns ++ request.select.toList.flatMap columnTextNames ++
    request.filters.flatMap Filter.columns ++ request.order.map OrderKey.column)

/-- Every name in a request is a plain identifier. -/
def Request.IsPlain (request : Request) : Prop :=
  ∀ name ∈ request.names, isIdentifier name = true

theorem Request.isPlain_iff {request : Request} :
    request.IsPlain ↔
      isIdentifier request.table = true ∧
        (∀ name ∈ request.operation.columns, isIdentifier name = true) ∧
        (∀ text ∈ request.select, ∀ name ∈ columnTextNames text, isIdentifier name = true) ∧
        (∀ filter ∈ request.filters, ∀ name ∈ filter.columns, isIdentifier name = true) ∧
        ∀ key ∈ request.order, isIdentifier key.column = true := by
  simp only [IsPlain, names, List.forall_mem_cons, List.forall_mem_append, List.forall_mem_map,
    List.mem_flatMap, Option.mem_toList, forall_exists_index, and_imp, and_assoc]
  have hswap : ∀ {β : Type} (holds : β → Prop) (part : β → List String),
      (∀ name item, holds item → name ∈ part item → isIdentifier name = true) ↔
        ∀ item, holds item → ∀ name ∈ part item, isIdentifier name = true :=
    fun holds part => ⟨fun h item hitem name => h name item hitem,
      fun h name item hitem => h item hitem name⟩
  rw [hswap, hswap]
  exact Iff.rfl

/-! ### Conditions -/

theorem Predicate.columns_toFilter (clause : Predicate) :
    clause.toFilter.columns = clause.leaves.map Comparison.column := by
  cases clause <;> simp [toFilter, Filter.columns, leaves, Function.comp_def]

theorem Predicate.isIdentifier_of_filters {clause : Predicate} {filters : List Filter}
    (hfilters : clause.filters = .ok filters) :
    ∀ filter ∈ filters, ∀ name ∈ filter.columns, isIdentifier name = true := by
  obtain ⟨hflat, rfl⟩ := filters_eq_ok_iff.mp hfilters
  intro filter hfilter name hname
  obtain ⟨part, hpart, rfl⟩ := List.mem_map.mp hfilter
  rw [columns_toFilter] at hname
  obtain ⟨leaf, hleaf, rfl⟩ := List.mem_map.mp hname
  exact (isAllowed_of_mem_factors hflat hpart leaf hleaf).isIdentifier

theorem Predicate.isIdentifier_of_filtersOf {clause : Option Predicate} {filters : List Filter}
    (hfilters : Predicate.filtersOf clause = .ok filters) :
    ∀ filter ∈ filters, ∀ name ∈ filter.columns, isIdentifier name = true := by
  cases clause with
  | none =>
      cases hfilters
      simp
  | some clause => exact isIdentifier_of_filters hfilters

/-! ### Select lists -/

theorem SelectColumn.isIdentifier_of_mem_entry {column : SelectColumn} (hplain : column.IsPlain)
    (hstar : column.entry ≠ ['*']) :
    ∀ part ∈ Text.splitAt ':' column.entry, isIdentifier (String.ofList part) = true := by
  cases column with
  | star => exact absurd rfl hstar
  | named name label =>
      obtain ⟨hname, hlabel⟩ := hplain
      have hcolon := not_mem_of_isIdentifier hname (c := ':') (by decide)
      cases label with
      | none => simpa [entry, Text.splitAt_of_not_mem hcolon] using hname
      | some label =>
          have hlabel := hlabel label rfl
          have hlabelColon := not_mem_of_isIdentifier hlabel (c := ':') (by decide)
          simpa [entry, Text.splitAt_append hlabelColon, Text.splitAt_of_not_mem hcolon] using
            ⟨hlabel, hname⟩

theorem isIdentifier_of_mem_selectText {columns : List SelectColumn} {text : String}
    (htext : selectText columns = .ok text) :
    ∀ name ∈ columnTextNames text, isIdentifier name = true := by
  intro name hname
  rw [columnTextNames, splitAt_selectText htext] at hname
  obtain ⟨part, hpart, rfl⟩ := List.mem_map.mp hname
  obtain ⟨entry, hentry, hpart⟩ := List.mem_flatMap.mp hpart
  obtain ⟨hentry, hstar⟩ := List.mem_filter.mp hentry
  have hstar : entry ≠ ['*'] := by simpa using hstar
  unfold selectEntries at hentry
  split at hentry
  · exact absurd (List.mem_singleton.mp hentry) hstar
  · obtain ⟨column, hcolumn, rfl⟩ := List.mem_map.mp hentry
    exact SelectColumn.isIdentifier_of_mem_entry (isPlain_of_selectText htext column hcolumn)
      hstar part hpart

/-- A star names no column. -/
theorem columnTextNames_star : columnTextNames "*" = [] := by
  decide

/-! ### Requests -/

/-- Every name in the request of a statement is a plain identifier. -/
theorem Statement.isPlain_of_toRequest {s : Statement} {request : Request}
    (hrequest : s.toRequest = .ok request) : request.IsPlain := by
  cases s with
  | select s =>
      obtain ⟨htable, text, filters, htext, hfilters, horder, rfl⟩ :=
        SelectStatement.toRequest_eq_ok.mp hrequest
      refine Request.isPlain_iff.mpr ⟨htable, by simp [Operation.columns], ?_,
        Predicate.isIdentifier_of_filtersOf hfilters, horder⟩
      simpa using isIdentifier_of_mem_selectText htext
  | insert s =>
      obtain ⟨htable, hcolumns, -, -, rfl⟩ := InsertStatement.toRequest_eq_ok.mp hrequest
      refine Request.isPlain_iff.mpr ⟨htable, ?_, by simp [columnTextNames_star], by simp, by simp⟩
      intro name hname
      obtain ⟨row, hrow, hname⟩ := List.mem_flatMap.mp hname
      obtain ⟨values, -, rfl⟩ := List.mem_map.mp hrow
      obtain ⟨cell, hcell, rfl⟩ := List.mem_map.mp (mem_columns_rowOf.mp hname)
      exact hcolumns cell.1 (List.of_mem_zip hcell).1
  | update s =>
      obtain ⟨htable, -, hcolumns, filters, hfilters, rfl⟩ :=
        UpdateStatement.toRequest_eq_ok.mp hrequest
      refine Request.isPlain_iff.mpr ⟨htable, ?_, by simp [columnTextNames_star],
        Predicate.isIdentifier_of_filtersOf hfilters, by simp⟩
      intro name hname
      have hcolumn := mem_columns_rowOf.mp hname
      simp only [List.map_map, List.mem_map, Function.comp_apply] at hcolumn
      obtain ⟨a, ha, rfl⟩ := hcolumn
      exact hcolumns a ha
  | delete s =>
      obtain ⟨htable, filters, hfilters, rfl⟩ := DeleteStatement.toRequest_eq_ok.mp hrequest
      exact Request.isPlain_iff.mpr ⟨htable, by simp [Operation.columns], by simp,
        Predicate.isIdentifier_of_filtersOf hfilters, by simp⟩

end SqlGateway
