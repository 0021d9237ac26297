import SqlGateway.Proofs.Store.Execute
import SqlGateway.Proofs.Store.Order

/-!
# Queries by pages

A query with a limit and an offset answers with a part of the rows that it answers with otherwise.
Asked again and again, each time with the offset moved on by the limit, it gives all of them, each
once and in their order: the rows are found and sorted in the same way each time, and the parts that
are cut out lie end to end (`flatMap_page`).

That the order is the one asked for takes a preorder.  Where the rows are no preorder, nothing is
promised, not even that there is an outcome.
-/

namespace SqlGateway

/-! ### Pages of a list -/

section Page

variable {α β : Type} {items : List α} {offset : Nat}

theorem map_page (f : α → β) (offset limit : Option Nat) (items : List α) :
    (page offset limit items).map f = page offset limit (items.map f) := by
  cases limit <;> simp [page]

/-- Behind the last item there is nothing, however many items are asked for. -/
theorem page_of_length_le (hoffset : items.length ≤ offset) (limit : Option Nat) :
    page (some offset) limit items = [] := by
  cases limit <;> simp [page, List.drop_of_length_le hoffset]

/-- Pages of one size, one after the other, are the items they reach to. -/
theorem flatMap_page (size pages : Nat) (items : List α) :
    (List.range pages).flatMap (fun number => page (some (number * size)) (some size) items) =
      items.take (pages * size) := by
  induction pages with
  | zero => simp
  | succ pages ih =>
      rw [List.range_succ, List.flatMap_append, ih, Nat.succ_mul, List.take_add]
      simp [page]

/-- The pages up to the one that the last item is on, or would be on next, are all items. -/
theorem flatMap_page_eq_self {size : Nat} (hsize : 1 ≤ size) (items : List α) :
    (List.range (items.length / size + 1)).flatMap
      (fun number => page (some (number * size)) (some size) items) = items := by
  have hreach : items.length < (items.length / size + 1) * size := by
    rw [Nat.mul_comm]
    exact Nat.lt_mul_div_succ items.length hsize
  rw [flatMap_page, List.take_of_length_le hreach.le]

end Page

namespace Store

variable {request : Request} {store : Store} {rows : List Row}

/-- A query with some bounds answers with a page of the rows that it finds. -/
theorem execute_select (hselect : request.operation = .select)
    (hrows : store.rows? request.table = some rows) {found : List Row}
    (hfound : sorted? request.order (rows.filter (passesAll request.filters)) = some found)
    (offset limit : Option Nat) :
    execute { request with limit, offset } store =
      (some (.found (page offset limit (found.map (project (request.select.getD "*"))))),
        store) := by
  have hafter : store.rows? { request with limit, offset }.table = some rows := hrows
  rw [execute_of_some hafter, ← map_page]
  simp only [concerned?, changed, report, hselect, selected?_eq_map, hfound, Option.map_some,
    setRows_self hrows]

/-- A query on rows that its keys can sort.  Without bounds it finds the rows that pass its filters,
each as often as the table has it, in the order of its keys, and rows that no key tells apart in the
order of the table.  The pages of any one size give these very rows, and from the number of these
rows on there are none. -/
theorem execute_pages (hselect : request.operation = .select)
    (hrows : store.rows? request.table = some rows)
    (hpreorder : IsPreorderOn (compareRows request.order) rows) :
    let passing := rows.filter (passesAll request.filters)
    let shown := List.map (project (request.select.getD "*"))
    ∃ found : List Row,
      execute { request with limit := none, offset := none } store =
        (some (.found (shown found)), store) ∧
      found.Perm passing ∧
      (found.Pairwise fun row row' => compareRows request.order row row' ≠ .gt) ∧
      (∀ row ∈ passing, found.filter (compareRows request.order row · == .eq) =
        passing.filter (compareRows request.order row · == .eq)) ∧
      (∀ size, 1 ≤ size → ∃ pages : Nat → List Row,
        (∀ number, execute
            { request with limit := some size, offset := some (number * size) } store =
          (some (.found (pages number)), store)) ∧
        (List.range (passing.length / size + 1)).flatMap pages = shown found) ∧
      ∀ offset limit, passing.length ≤ offset →
        execute { request with limit, offset := some offset } store =
          (some (.found []), store) := by
  intro passing shown
  have hpassing : IsPreorderOn (compareRows request.order) passing :=
    hpreorder.mono List.filter_sublist.subset
  obtain ⟨found, hfound, hsort⟩ := sortsStably_sorted hpassing
  have hexecute : ∀ offset limit, execute { request with limit, offset } store =
      (some (.found (page offset limit (shown found))), store) :=
    execute_select hselect hrows hfound
  have hlength : (shown found).length = passing.length := by
    rw [List.length_map, hsort.length_eq]
  refine ⟨found, hexecute none none, hsort.perm, hsort.pairwise, hsort.stable,
    fun size hsize => ⟨_, fun number => hexecute _ _, ?_⟩, fun offset limit hoffset => ?_⟩
  · rw [← hlength]
    exact flatMap_page_eq_self hsize _
  · rw [hexecute, page_of_length_le (hlength ▸ hoffset)]

/-- Rows sorted downwards, null first, three of them shown two by two. -/
theorem execute_pages_downwards :
    let rows : List Row := [[("k", .number (.int 1)), ("v", .string "a")],
      [("k", .null), ("v", .string "b")], [("k", .number (.int 1)), ("v", .string "c")],
      [("k", .bool true), ("v", .null)]]
    let request : Request :=
      { Request.ofTable "t" with
        filters := [.condition { column := "v", op := .neq, value := .string "z" }]
        order := [{ column := "k", direction := .descending }] }
    let store : Store := ⟨[("t", rows)]⟩
    ∃ found : List Row,
      (execute request store).1 = some (.found found) ∧ found.length = 3 ∧
      ∃ pages : Nat → List Row,
        (∀ number, execute { request with limit := some 2, offset := some (number * 2) } store =
          (some (.found (pages number)), store)) ∧
        pages 0 ++ pages 1 = found := by
  intro rows request store
  have hpreorder : IsPreorderOn (compareRows request.order) rows :=
    isPreorderOn_compareRows fun key hkey => by
      rw [List.mem_singleton.mp hkey]
      refine isPreorderOn_compareCells (by decide) ?_
      -- the one integer of the column is small
      rintro ⟨m, n, u, -, -, hu, -, -, -, hlarge, -⟩
      simp only [rows, List.map_cons, List.map_nil, cell, Json.getField?, List.lookup_cons_self,
        Option.getD_some, List.mem_cons, Json.number.injEq, Json.Number.int.injEq, reduceCtorEq,
        List.not_mem_nil, or_false, false_or, or_self] at hu
      omega
  have hrows : store.rows? request.table = some rows := rfl
  obtain ⟨found, hunpaged, hperm, -, -, hpages, -⟩ := execute_pages rfl hrows hpreorder
  obtain ⟨pages, hexecute, hconcat⟩ := hpages 2 (by decide)
  have hpassing : (rows.filter (passesAll request.filters)).length = 3 := by decide
  refine ⟨_, congrArg Prod.fst hunpaged, ?_, pages, hexecute, ?_⟩
  · rw [List.length_map, hperm.length_eq, hpassing]
  · rw [← hconcat, hpassing]
    exact congrArg (pages 0 ++ ·) (List.append_nil _).symm

end Store

end SqlGateway
