import SqlGateway.Proofs.Statement.Codec
import SqlGateway.Request.Codec

/-!
# Requests as they are stored

The stored form of a request stores it, provided that its values and the cells of its rows have
exact texts; the cells keep their order.  With what is known of statements this gives the main
statement: a statement and a request are read back from their texts as they were, as long as arrays
and objects do not nest deeper than a text may nest them.
-/

namespace SqlGateway

open Json

/-! ### Operations and filters -/

/-- The rows that an operation holds. -/
def Operation.rows : Operation → List Row
  | insert rows => rows
  | update record => [record]
  | _ => []

/-- The comparisons of a filter. -/
def Filter.comparisons : Filter → List Comparison
  | condition c => [c]
  | anyOf conditions => conditions

theorem Operation.stores_toStored {operation : Operation}
    (hrows : ∀ row ∈ operation.rows, (Json.object row).IsExact) :
    Stores Operation.ofStored? operation.toStored operation := by
  cases operation with
  | select => exact ⟨.string "Select", rfl⟩
  | insert rows =>
      have hstores : Stores (asList? asRow?) (.array (rows.map .object)) rows :=
        Stores.list fun row hrow => stores_row (hrows row hrow)
      exact hstores.variant rfl
  | update record =>
      exact (stores_row (hrows record (List.mem_singleton.mpr rfl))).variant rfl
  | delete => exact ⟨.string "Delete", rfl⟩

theorem Filter.stores_toStored {filter : Filter}
    (hvalues : ∀ c ∈ filter.comparisons, c.value.IsStorable) :
    Stores Filter.ofStored? filter.toStored filter := by
  cases filter with
  | condition c =>
      exact (Comparison.stores_toStored (hvalues c (List.mem_singleton.mpr rfl))).variant rfl
  | anyOf conditions =>
      have hstores : Stores (asList? Comparison.ofStored?)
          (.array (conditions.map Comparison.toStored)) conditions :=
        Stores.list fun c hc => Comparison.stores_toStored (hvalues c hc)
      have hrecord : Stores (asRecord? ["conditions"] 0)
          (.object [("conditions", .array (conditions.map Comparison.toStored))])
          [some (.array (conditions.map Comparison.toStored))] :=
        Stores.record ["conditions"] rfl (by decide) (by simp [hstores.isExact]) id
      refine ⟨.variant hrecord.isExact, ?_⟩
      simp [toStored, ofStored?, asVariant?, hrecord.read_eq, required?, hstores.read_eq]

/-! ### Requests -/

/-- Whether a request is stored exactly: no value and no cell is a double or holds one, all whole
numbers fit 64 bits, and no row has a column twice. -/
structure Request.IsStorable (request : Request) : Prop where
  values : ∀ filter ∈ request.filters, ∀ c ∈ filter.comparisons, c.value.IsStorable
  rows : ∀ row ∈ request.operation.rows, (Json.object row).IsExact
  limit : ∀ n ∈ request.limit, n ≤ Decimal.maxUInt64
  offset : ∀ n ∈ request.offset, n ≤ Decimal.maxUInt64

/-- The stored form of a request stores it. -/
theorem Request.stores_toStored {request : Request} (hrequest : request.IsStorable) :
    Stores Request.ofStored? request.toStored request := by
  have hoperation := Operation.stores_toStored hrequest.rows
  have hselect : Stores (asOption? asString?) (ofOption .string request.select) request.select :=
    Stores.option fun text _ => ⟨stores_string text, by simp⟩
  have hfilters := Stores.list fun filter hfilter =>
    Filter.stores_toStored (hrequest.values filter hfilter)
  have horder := Stores.list fun key (_ : key ∈ request.order) => key.stores_toStored
  have hlimit := stores_optionalCount hrequest.limit
  have hoffset := stores_optionalCount hrequest.offset
  apply Stores.record ["table", "operation", "select", "filters", "order", "limit", "offset"] rfl
    (by decide)
  · simp [IsExact.string, hoperation.isExact, hselect.isExact, hfilters.isExact, horder.isExact,
      hlimit.isExact, hoffset.isExact]
  · intro hrecord
    rw [ofStored?, hrecord]
    simp [required?, optional?, asString?, hoperation.read_eq, hselect.read_eq, hfilters.read_eq,
      horder.read_eq, hlimit.read_eq, hoffset.read_eq]

/-- Statements and requests are read back from their texts. -/
theorem ofStoredText?_storedText :
    (∀ s : Statement, s.IsStorable → s.toStored.depth < nestingLimit →
      Statement.ofStoredText? s.storedText = some s) ∧
    ∀ request : Request, request.IsStorable → request.toStored.depth < nestingLimit →
      Request.ofStoredText? request.storedText = some request := by
  constructor
  · intro s hs hdepth
    exact (Statement.stores_toStored hs).read_write hdepth
  · intro request hrequest hdepth
    exact (Request.stores_toStored hrequest).read_write hdepth

/-- A clause with a list in a list. -/
theorem ofStoredText?_storedText_nested :
    let s : Statement := .select ⟨"t", [.star, .named "a" (some "b")],
      some (.or (.compare ⟨"a", .isIn, .list [.int (-1), .null, .list [.string "\"\n"]]⟩)
        (.and (.compare ⟨"b", .is, .bool true⟩) (.compare ⟨"c", .eq, .string "null"⟩))),
      [⟨"a", .descending⟩], some 10, none⟩
    let request : Request := ⟨"t", .update [("b", .object [("y", .null), ("x", .array [])]),
      ("a", .number (.int 18446744073709551615))], some "*",
      [.anyOf [⟨"a", .lt, .int 0⟩]], [], none, some 0⟩
    s.IsStorable ∧ s.toStored.depth < nestingLimit ∧
      Statement.ofStoredText? s.storedText = some s ∧
      request.IsStorable ∧ request.toStored.depth < nestingLimit ∧
      Request.ofStoredText? request.storedText = some request := by
  intro s request
  have hs : s.IsStorable := by
    refine ⟨?_, ?_⟩
    · simp only [s, Statement.values, Predicate.leavesOf, Predicate.leaves, List.map_cons,
        List.cons_append, List.nil_append, List.map_nil, List.forall_mem_cons]
      refine ⟨.list ?_, .bool true, .string "null", by simp⟩
      simp only [List.forall_mem_cons]
      exact ⟨.int (by decide), .null, .list (by simp [Value.IsStorable.string]), by simp⟩
    · decide
  have hrequest : request.IsStorable := by
    refine ⟨?_, ?_, by simp [request], by simp [request]⟩
    · simp only [request, List.forall_mem_cons, Filter.comparisons]
      exact ⟨⟨.int (by decide), by simp⟩, by simp⟩
    · simp only [request, Operation.rows, List.forall_mem_cons]
      refine ⟨.object (by decide) ?_, by simp⟩
      simp only [List.forall_mem_cons]
      refine ⟨.object (by decide) ?_, .int (by decide) (by decide), by simp⟩
      simp [IsExact.null, IsExact.array]
  exact ⟨hs, by decide, ofStoredText?_storedText.1 s hs (by decide),
    hrequest, by decide, ofStoredText?_storedText.2 request hrequest (by decide)⟩

end SqlGateway
