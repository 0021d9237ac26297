import SqlGateway.Proofs.Store.Meaning

/-!
# What executing a request does to a store

A request about a table that is not there fails and leaves the store as it was.  Any other request
replaces the rows of its table, by what `Store.changed` makes of them, and nothing else; and it
succeeds, unless it is a query and its keys do not order the rows consistently.  Runs of requests,
repeated requests and the outcomes of texts are all followed through these cases, so that no later
proof opens `Store.execute`.
-/

namespace SqlGateway.Store

variable {request : Request} {store : Store} {table : String} {rows : List Row}

/-! ### Replacing the rows of a table -/

/-- The names of the tables, in order. -/
def names (store : Store) : List String :=
  store.tables.map Prod.fst

/-- Replacing rows neither adds a table nor takes one away. -/
theorem names_setRows (store : Store) (table : String) (rows : List Row) :
    (store.setRows table rows).names = store.names := by
  obtain ⟨tables⟩ := store
  simp only [names, setRows]
  induction tables with
  | nil => rfl
  | cons entry tables ih =>
      obtain ⟨name, old⟩ := entry
      by_cases hname : name = table
      · simp [setTable, hname]
      · simp [setTable, hname, ih]

/-- Replacing the rows of a table by themselves changes nothing. -/
theorem setRows_self (hrows : store.rows? table = some rows) :
    store.setRows table rows = store := by
  obtain ⟨tables⟩ := store
  simp only [rows?, setRows, Store.mk.injEq] at hrows ⊢
  induction tables with
  | nil => rfl
  | cons entry tables ih =>
      obtain ⟨name, old⟩ := entry
      rw [lookup_cons_eq_ite] at hrows
      by_cases hname : name = table
      · rw [if_pos hname.symm] at hrows
        simp [setTable, hname, Option.some.inj hrows]
      · rw [if_neg (Ne.symm hname)] at hrows
        simp [setTable, hname, ih hrows]

/-- Of two replacements of the rows of one table the later counts. -/
theorem setRows_setRows (store : Store) (table : String) (first second : List Row) :
    (store.setRows table first).setRows table second = store.setRows table second := by
  obtain ⟨tables⟩ := store
  simp only [setRows, Store.mk.injEq]
  induction tables with
  | nil => rfl
  | cons entry tables ih =>
      obtain ⟨name, old⟩ := entry
      by_cases hname : name = table
      · simp [setTable, hname]
      · simp [setTable, hname, ih]

/-! ### The two cases of a request -/

theorem execute_of_none (hrows : store.rows? request.table = none) :
    execute request store = (some (.failed (missing request.table)), store) := by
  rw [execute, hrows]

theorem execute_of_some (hrows : store.rows? request.table = some rows) :
    execute request store =
      ((concerned? request rows).map (report request),
        store.setRows request.table (changed request rows)) := by
  rw [execute, hrows]

/-- What is reported about rows is never a failure. -/
theorem failure_report (request : Request) (rows : List Row) :
    (report request rows).failure = none := by
  unfold report
  split <;> rfl

theorem rows?_execute (hrows : store.rows? request.table = some rows) (other : String) :
    (execute request store).2.rows? other =
      if other = request.table then some (changed request rows) else store.rows? other := by
  rw [execute_of_some hrows]
  exact rows?_setRows hrows _ other

/-- A query leaves the store as it was. -/
theorem execute_select_snd (hselect : request.operation = .select) (store : Store) :
    (execute request store).2 = store := by
  cases hrows : store.rows? request.table with
  | none => rw [execute_of_none hrows]
  | some rows =>
      rw [execute_of_some hrows, changed, hselect]
      exact setRows_self hrows

/-- A request about a table that is there does not fail. -/
theorem failure_execute (hrows : store.rows? request.table = some rows) {outcome : Outcome}
    (houtcome : (execute request store).1 = some outcome) : outcome.failure = none := by
  rw [execute_of_some hrows] at houtcome
  obtain ⟨about, -, rfl⟩ := Option.map_eq_some_iff.mp houtcome
  exact failure_report request about

/-- The rows that a request is about are found, unless it is a query whose keys do not order the
rows that pass its filters consistently. -/
theorem not_isPreorderOn_of_concerned? (hnone : concerned? request rows = none) :
    request.operation = .select ∧
      ¬IsPreorderOn (compareRows request.order) (rows.filter (passesAll request.filters)) := by
  unfold concerned? at hnone
  split at hnone <;> rename_i hoperation
  · refine ⟨hoperation, fun hpreorder => ?_⟩
    obtain ⟨found, hfound, -⟩ := sortsStably_sorted hpreorder
    rw [selected?_eq_map, hfound] at hnone
    contradiction
  all_goals contradiction

theorem not_isPreorderOn_of_execute (hrows : store.rows? request.table = some rows)
    (hnone : (execute request store).1 = none) :
    request.operation = .select ∧
      ¬IsPreorderOn (compareRows request.order) (rows.filter (passesAll request.filters)) := by
  rw [execute_of_some hrows, Option.map_eq_none_iff] at hnone
  exact not_isPreorderOn_of_concerned? hnone

/-! ### Texts -/

variable {allowed : Option (List String)} {sql : String}

theorem answer_of_error {error : Error} (herror : Plan.ofSql allowed sql = .error error)
    (store : Store) : (answer allowed sql).run store = (some (.ofError error), store) := by
  unfold answer answerSql
  rw [herror]
  rfl

theorem answer_of_ok {plan : Plan} (hplan : Plan.ofSql allowed sql = .ok plan) (store : Store) :
    (answer allowed sql).run store = execute plan.request store := by
  unfold answer answerSql
  rw [hplan]
  rfl

end SqlGateway.Store
