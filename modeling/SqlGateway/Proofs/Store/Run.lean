import SqlGateway.Proofs.Store.Execute

/-!
# Runs of a store

A run takes steps one after the other, each a text that is answered or a request that is put to the
store directly.  What a single step may do is said once, in `Transition.IsOrderly`: it concerns one
table, it leaves no trace unless it succeeds, and each operation changes rows in its own narrow way.
Every step of every run is orderly, and no run adds a table or takes one away.

A step may end without an outcome.  That takes a query whose keys do not order the rows that it
finds consistently, and it leaves no trace either.

A step comes down to at most one request, and a request to one of the two cases of
`Proofs/Store/Execute`; so the proof splits on the request of a step and never on the text that it
was planned from.
-/

namespace SqlGateway.Store

/-! ### Steps -/

/-- A step of a run. -/
inductive Step where
  /-- A text is answered. -/
  | text (sql : String)
  /-- A request is put to the store directly. -/
  | direct (request : Request)

/-- A step that was taken, with what it led to. -/
structure Transition where
  before : Store
  step : Step
  outcome : Option Outcome
  after : Store

/-- A step ended with a failure. -/
def Transition.Fails (t : Transition) : Prop :=
  ∃ outcome, t.outcome = some outcome ∧ outcome.failure ≠ none

/-- A step ended without a failure. -/
def Transition.Succeeds (t : Transition) : Prop :=
  ∃ outcome, t.outcome = some outcome ∧ outcome.failure = none

section Steps

variable (allowed : Option (List String))

/-- The request that a step puts to the store, if any; a text that cannot be planned puts none. -/
def Step.request? : Step → Option Request
  | text sql => (Plan.ofSql allowed sql).toOption.map Plan.request
  | direct request => some request

/-- Takes a step. -/
def Step.take (store : Store) : Step → Option Outcome × Store
  | text sql => (answer allowed sql).run store
  | direct request => execute request store

/-- Takes steps one after the other, each from the store that the one before has left. -/
def run (store : Store) : List Step → List Transition
  | [] => []
  | step :: steps =>
    let (outcome, after) := step.take allowed store
    { before := store, step, outcome, after } :: run after steps

end Steps

/-! ### What a step may do -/

/-- How a row may be changed by an update. -/
structure RowChange (filters : List Filter) (record old new : Row) : Prop where
  /-- Only rows that match are changed. -/
  unmatched : passesAll filters old = false → new = old
  /-- Only cells that the record names are changed. -/
  unnamed : ∀ column ∉ record.columns, Json.getField? column new = Json.getField? column old
  /-- The columns of the row keep their places. -/
  columns : old.columns <+: new.columns
  /-- A row that matches takes every cell of the record. -/
  written : passesAll filters old = true → record.IsProper →
    ∀ column value, (column, value) ∈ record → Json.getField? column new = some value

/-- What an operation may make of the rows of its table. -/
inductive Effect (filters : List Filter) : Operation → List Row → List Row → Prop
  | select (rows : List Row) : Effect filters .select rows rows
  | insert (rows added : List Row) : Effect filters (.insert added) rows (rows ++ added)
  | update {record : Row} {rows changed : List Row} :
      List.Forall₂ (RowChange filters record) rows changed →
        Effect filters (.update record) rows changed
  | delete {rows kept : List Row} : kept.Sublist rows →
      (∀ row, row ∈ kept ↔ row ∈ rows ∧ passesAll filters row = false) →
        Effect filters .delete rows kept

/-- What a step may do to a store, and when a request fails. -/
structure Transition.IsOrderly (allowed : Option (List String)) (t : Transition) : Prop where
  /-- No table is added or taken away. -/
  names_eq : t.after.names = t.before.names
  /-- Only the table of the request is changed, and none if there is no request. -/
  frame : ∀ table, (∀ request ∈ t.step.request? allowed, request.table ≠ table) →
    t.after.rows? table = t.before.rows? table
  /-- A step that does not succeed leaves no trace. -/
  failed : ¬t.Succeeds → t.after = t.before
  /-- A query changes nothing. -/
  query : ∀ request ∈ t.step.request? allowed, request.operation = .select → t.after = t.before
  /-- The rows of the table of the request are changed as its operation may change them. -/
  effect : ∀ request ∈ t.step.request? allowed, ∀ rows,
    t.before.rows? request.table = some rows →
      ∃ changed, t.after.rows? request.table = some changed ∧
        Effect request.filters request.operation rows changed
  /-- A request that is put directly fails exactly if its table is not there. -/
  fails_iff : ∀ request, t.step = .direct request →
    (t.Fails ↔ t.before.rows? request.table = none)
  /-- Such a failure has the status of something that was not found. -/
  status : ∀ request, t.step = .direct request → t.Fails →
    ∃ outcome, t.outcome = some outcome ∧ outcome.status = some 404
  /-- There is an outcome, unless it is a query whose rows cannot be sorted. -/
  gives_up : t.outcome = none → ∃ request ∈ t.step.request? allowed,
    request.operation = .select ∧ ∃ rows, t.before.rows? request.table = some rows ∧
      ¬IsPreorderOn (compareRows request.order) (rows.filter (passesAll request.filters))

/-! ### Operations -/

/-- An update of a matching row writes the record over it. -/
theorem rowChange_setCells (filters : List Filter) (record row : Row) :
    RowChange filters record row
      (if passesAll filters row then setCells row record else row) := by
  cases hpasses : passesAll filters row with
  | false =>
      exact ⟨fun _ => rfl, fun _ _ => rfl, List.prefix_rfl, fun h => by simp [hpasses] at h⟩
  | true =>
      exact ⟨fun h => by simp [hpasses] at h,
        fun _ hcolumn => getField?_setCells_of_not_mem hcolumn, columns_setCells row record,
        fun _ hrecord _ _ hcell => getField?_setCells_of_mem hrecord hcell⟩

theorem effect_changed (request : Request) (rows : List Row) :
    Effect request.filters request.operation rows (changed request rows) := by
  unfold changed
  cases request.operation with
  | select => exact .select rows
  | insert added => exact .insert rows added
  | update record =>
      refine .update ?_
      rw [List.forall₂_map_right_iff, List.forall₂_same]
      exact fun row _ => rowChange_setCells request.filters record row
  | delete =>
      refine .delete List.filter_sublist fun row => ?_
      rw [List.mem_filter, Bool.not_eq_true']

/-! ### Steps -/

variable {allowed : Option (List String)} {step : Step} {request : Request}

theorem Step.take_of_none (hrequest : step.request? allowed = none) (store : Store) :
    ∃ error, step.take allowed store = (some (.ofError error), store) := by
  cases step with
  | text sql =>
      cases hplan : Plan.ofSql allowed sql with
      | error error => exact ⟨error, answer_of_error hplan store⟩
      | ok plan => simp [request?, hplan, Except.toOption] at hrequest
  | direct request => contradiction

theorem Step.take_of_some (hrequest : step.request? allowed = some request) (store : Store) :
    step.take allowed store = execute request store := by
  cases step with
  | text sql =>
      cases hplan : Plan.ofSql allowed sql with
      | error error => simp [request?, hplan, Except.toOption] at hrequest
      | ok plan =>
          simp only [request?, hplan, Except.toOption, Option.map_some, Option.some.injEq]
            at hrequest
          rw [take, answer_of_ok hplan, hrequest]
  | direct other =>
      cases hrequest
      rfl

/-- A step without a request fails, and the store stays as it was. -/
theorem isOrderly_of_none (hrequest : step.request? allowed = none) (store : Store)
    (error : Error) :
    Transition.IsOrderly allowed ⟨store, step, some (.ofError error), store⟩ where
  names_eq := rfl
  frame _ _ := rfl
  failed _ := rfl
  query _ _ _ := rfl
  effect request hsome := by simp [hrequest] at hsome
  fails_iff request hstep := by
    subst hstep
    contradiction
  status request hstep := by
    subst hstep
    contradiction
  gives_up hnone := by contradiction

/-- A request about a table that is not there fails, and the store stays as it was. -/
theorem isOrderly_of_missing (hrequest : step.request? allowed = some request) {store : Store}
    (hrows : store.rows? request.table = none) :
    Transition.IsOrderly allowed ⟨store, step, some (.failed (missing request.table)), store⟩ where
  names_eq := rfl
  frame _ _ := rfl
  failed _ := rfl
  query _ _ _ := rfl
  effect other hother rows hsome := by
    obtain rfl : request = other := Option.some.inj (hrequest.symm.trans hother)
    simp [hrows] at hsome
  fails_iff other hstep := by
    subst hstep
    obtain rfl : other = request := Option.some.inj hrequest
    simp [Transition.Fails, hrows, Outcome.failed]
  status _ _ _ := ⟨_, rfl, rfl⟩
  gives_up hnone := by contradiction

/-- A request about a table that is there changes the rows of that table alone, and does not
fail. -/
theorem isOrderly_of_rows (hrequest : step.request? allowed = some request) {store : Store}
    {rows : List Row} (hrows : store.rows? request.table = some rows) :
    Transition.IsOrderly allowed
      ⟨store, step, (execute request store).1, (execute request store).2⟩ where
  names_eq := by
    rw [execute_of_some hrows]
    exact names_setRows _ _ _
  frame table hother := by
    rw [rows?_execute hrows, if_neg (Ne.symm (hother request hrequest))]
  failed hsucceeds := by
    cases houtcome : (execute request store).1 with
    | none => exact execute_select_snd (not_isPreorderOn_of_execute hrows houtcome).1 store
    | some outcome => exact absurd ⟨outcome, houtcome, failure_execute hrows houtcome⟩ hsucceeds
  query other hother hselect := by
    obtain rfl : request = other := Option.some.inj (hrequest.symm.trans hother)
    exact execute_select_snd hselect store
  effect other hother before hbefore := by
    obtain rfl : request = other := Option.some.inj (hrequest.symm.trans hother)
    obtain rfl : rows = before := Option.some.inj (hrows.symm.trans hbefore)
    refine ⟨_, ?_, effect_changed request rows⟩
    rw [rows?_execute hrows, if_pos rfl]
  fails_iff other hstep := by
    subst hstep
    obtain rfl : other = request := Option.some.inj hrequest
    refine iff_of_false ?_ (by simp [hrows])
    rintro ⟨outcome, houtcome, hfailure⟩
    exact hfailure (failure_execute hrows houtcome)
  status other _ := by
    rintro ⟨outcome, houtcome, hfailure⟩
    exact absurd (failure_execute hrows houtcome) hfailure
  gives_up hnone := by
    obtain ⟨hselect, hpreorder⟩ := not_isPreorderOn_of_execute hrows hnone
    exact ⟨request, hrequest, hselect, rows, hrows, hpreorder⟩

/-- Whatever the store, a step is orderly. -/
theorem isOrderly_take (allowed : Option (List String)) (store : Store) (step : Step) :
    Transition.IsOrderly allowed
      ⟨store, step, (step.take allowed store).1, (step.take allowed store).2⟩ := by
  cases hrequest : step.request? allowed with
  | none =>
      obtain ⟨error, htake⟩ := Step.take_of_none hrequest store
      rw [htake]
      exact isOrderly_of_none hrequest store error
  | some request =>
      rw [Step.take_of_some hrequest]
      cases hrows : store.rows? request.table with
      | none =>
          rw [execute_of_none hrows]
          exact isOrderly_of_missing hrequest hrows
      | some rows => exact isOrderly_of_rows hrequest hrows

/-! ### Runs -/

/-- Every step of a run is orderly, and after each of them the store has the tables that it had at
the beginning. -/
theorem isOrderly_of_mem_run {store : Store} {steps : List Step} {t : Transition}
    (ht : t ∈ run allowed store steps) :
    t.IsOrderly allowed ∧ t.after.names = store.names := by
  induction steps generalizing store with
  | nil => contradiction
  | cons step steps ih =>
      have hfirst := isOrderly_take allowed store step
      rcases List.mem_cons.mp ht with rfl | hrest
      · exact ⟨hfirst, hfirst.names_eq⟩
      · obtain ⟨horderly, hnames⟩ := ih hrest
        exact ⟨horderly, hnames.trans hfirst.names_eq⟩

/-- A change that is planned from a text, and then a query of a table that is not there. -/
theorem isOrderly_of_mem_run_missing :
    let store : Store := ⟨[("t", [[("a", .number (.int 1))]]), ("u", [])]⟩
    let query : Step := .direct (.ofTable "v")
    ∃ t ∈ run none store [.text "UPDATE t SET a = 2", query],
      t.step = query ∧ t.IsOrderly none ∧ t.after.names = ["t", "u"] := by
  intro store query
  have hmem : _ ∈ run none store [.text "UPDATE t SET a = 2", query] :=
    List.mem_cons_of_mem _ List.mem_cons_self
  obtain ⟨horderly, hnames⟩ := isOrderly_of_mem_run hmem
  exact ⟨_, hmem, rfl, horderly, hnames⟩

/-- Not every query of a table that is there succeeds. -/
theorem not_forall_succeeds :
    ¬∀ (store : Store) (request : Request) (t : Transition),
      t ∈ run none store [.direct request] → (store.rows? request.table).isSome = true →
        t.Succeeds := by
  intro hsucceeds
  let query : Request := { Request.ofTable "t" with order := [⟨"n", .ascending⟩] }
  let store : Store := ⟨[("t", blurredRows)]⟩
  have hrows : store.rows? query.table = some blurredRows := rfl
  have hnone : (execute query store).1 = none := execute_blurredRows rfl rfl rfl hrows
  obtain ⟨outcome, houtcome, -⟩ := hsucceeds store query _ List.mem_cons_self rfl
  cases houtcome.symm.trans hnone

end SqlGateway.Store
