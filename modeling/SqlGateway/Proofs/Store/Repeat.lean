import SqlGateway.Proofs.Store.Execute

/-!
# Changes that are made twice

An update or a removal leaves the same store whether it is executed once or twice in a row.  A row
that an update has changed may still match or not, for the record may name the very columns that the
filters look at: if it matches, the record is written over itself, and if it does not, it is left
alone.  A row that did not match before is the same row afterwards, and matches no more than before.
-/

namespace SqlGateway.Store

variable {request : Request}

/-! ### Rows -/

/-- An update of rows that were just updated changes nothing. -/
theorem map_setCells_twice (filters : List Filter) (record : Row) (rows : List Row) :
    let updated (row : Row) : Row := if passesAll filters row then setCells row record else row
    (rows.map updated).map updated = rows.map updated := by
  intro updated
  rw [List.map_map]
  refine List.map_congr_left fun row _ => ?_
  by_cases hbefore : passesAll filters row = true
  · -- the record may have changed what the filters look at, so both cases are possible
    by_cases hafter : passesAll filters (setCells row record) = true
    · simp [updated, hbefore, hafter, setCells_setCells_self]
    · simp [updated, hbefore, hafter]
  · simp [updated, hbefore]

/-- No row that a removal has left matches. -/
theorem filter_passesAll_filter_not (filters : List Filter) (rows : List Row) :
    (rows.filter fun row => !passesAll filters row).filter (passesAll filters) = [] := by
  rw [List.filter_filter, List.filter_eq_nil_iff]
  intro row _
  simp

/-- What an update or a removal makes of rows stays as it is when it is made again. -/
theorem changed_changed
    (hchange : request.operation.kind = .update ∨ request.operation.kind = .delete)
    (rows : List Row) :
    changed request (changed request rows) = changed request rows := by
  unfold changed
  cases hoperation : request.operation with
  | select => simp [hoperation, Operation.kind] at hchange
  | insert added => simp [hoperation, Operation.kind] at hchange
  | update record => exact map_setCells_twice request.filters record rows
  | delete =>
      simp only [List.filter_filter, Bool.and_self]

/-- A second removal is about no row. -/
theorem concerned?_changed_delete (hdelete : request.operation = .delete) (rows : List Row) :
    concerned? request (changed request rows) = some [] := by
  unfold concerned? changed
  rw [hdelete]
  exact congrArg some (filter_passesAll_filter_not request.filters rows)

/-! ### Stores -/

theorem execute_twice
    (hchange : request.operation.kind = .update ∨ request.operation.kind = .delete)
    (store : Store) :
    (execute request (execute request store).2).2 = (execute request store).2 := by
  cases hrows : store.rows? request.table with
  | none => rw [execute_of_none hrows, execute_of_none hrows]
  | some rows =>
      have hafter := rows?_execute hrows request.table
      rw [if_pos rfl] at hafter
      rw [execute_of_some hafter, changed_changed hchange, execute_of_some hrows,
        setRows_setRows]

/-- A removal that is made again finds no row that matches. -/
theorem execute_twice_delete (hdelete : request.operation = .delete) {store : Store}
    {left : List Row} (hleft : (execute request store).2.rows? request.table = some left) :
    (∀ row ∈ left, passesAll request.filters row = false) ∧
      (execute request (execute request store).2).1 = some (report request []) := by
  cases hrows : store.rows? request.table with
  | none =>
      rw [execute_of_none hrows, hrows] at hleft
      contradiction
  | some rows =>
      have hafter := rows?_execute hrows request.table
      rw [if_pos rfl] at hafter
      obtain rfl : left = changed request rows := Option.some.inj (hleft.symm.trans hafter)
      constructor
      · intro row hrow
        rw [changed, hdelete, List.mem_filter, Bool.not_eq_true'] at hrow
        exact hrow.2
      · rw [execute_of_some hafter, concerned?_changed_delete hdelete]
        rfl

/-- An update or a removal that is executed twice in a row leaves the store as it was after the
first time, whether it is put to the store directly or planned from a text, and whatever cells its
record and its filters name.  The second time a removal is about no row. -/
theorem execute_execute
    (hchange : request.operation.kind = .update ∨ request.operation.kind = .delete)
    (store : Store) :
    (execute request (execute request store).2).2 = (execute request store).2 ∧
      (request.operation = .delete → ∀ left,
        (execute request store).2.rows? request.table = some left →
          (∀ row ∈ left, passesAll request.filters row = false) ∧
            (execute request (execute request store).2).1 = some (report request [])) ∧
      ∀ allowed sql plan, Plan.ofSql allowed sql = .ok plan → plan.request = request →
        ((answer allowed sql).run ((answer allowed sql).run store).2).2 =
          ((answer allowed sql).run store).2 := by
  refine ⟨execute_twice hchange store, fun hdelete left => execute_twice_delete hdelete, ?_⟩
  rintro allowed sql plan hplan rfl
  rw [answer_of_ok hplan, answer_of_ok hplan]
  exact execute_twice hchange store

/-- An update that changes the column its filter looks at, so that no row matches the second time,
and a removal that is planned from a text. -/
theorem execute_execute_moved :
    let update : Request :=
      { table := "t", operation := .update [("a", .number (.int 2))], select := none
        filters := [.condition ⟨"a", .eq, .int 1⟩], order := [], limit := none, offset := none }
    let store : Store := ⟨[("t", [[("a", .number (.int 1))], [("a", .number (.int 3))]])]⟩
    let removal := answer none "DELETE FROM t WHERE a = 3"
    ((execute update store).2.rows? "t" =
        some [[("a", .number (.int 2))], [("a", .number (.int 3))]] ∧
      (execute update (execute update store).2).2 = (execute update store).2) ∧
    ∃ plan, Plan.ofSql none "DELETE FROM t WHERE a = 3" = .ok plan ∧
      (execute plan.request (execute plan.request store).2).1 = some (report plan.request []) ∧
      (removal.run (removal.run store).2).2 = (removal.run store).2 := by
  intro update store removal
  obtain ⟨plan, hplan⟩ := exists_eq_ok_of_isOk
    (show (Plan.ofSql none "DELETE FROM t WHERE a = 3").isOk = true by decide +kernel)
  have hrequest : (Plan.ofSql none "DELETE FROM t WHERE a = 3").toOption.map
      (fun plan => (plan.request.table, plan.request.operation.kind)) = some ("t", .delete) := by
    decide +kernel
  simp only [hplan, Except.toOption, Option.map_some, Option.some.injEq, Prod.mk.injEq]
    at hrequest
  obtain ⟨htable, hkind⟩ := hrequest
  have hdelete : plan.request.operation = .delete := by
    cases hoperation : plan.request.operation <;> simp [hoperation, Operation.kind] at hkind ⊢
  have hrows : store.rows? plan.request.table =
      some [[("a", .number (.int 1))], [("a", .number (.int 3))]] := by
    rw [htable]
    rfl
  have hleft := rows?_execute hrows plan.request.table
  rw [if_pos rfl] at hleft
  obtain ⟨-, hremoved, htext⟩ := execute_execute (Or.inr hkind) store
  exact ⟨⟨rfl, (execute_execute (Or.inl rfl) store).1⟩, plan, hplan,
    (hremoved hdelete _ hleft).2, htext none _ plan hplan rfl⟩

end SqlGateway.Store
