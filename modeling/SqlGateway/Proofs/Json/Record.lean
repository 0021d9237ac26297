import SqlGateway.Json.Record
import SqlGateway.Proofs.Json.Text
import SqlGateway.Proofs.Store.Cells
import Mathlib.Data.List.Nodup

/-!
# What a stored form stores

A reader of typed data gives back what was stored if two things hold: the stored form survives being
written and read as text, and the reader finds the data in it.  `Json.Stores` says both at once, so
that the lemma of a type is put together from the lemmas of its parts, by the same few forms of
which all stored data are made: strings, counts, lists, optional values, records, variants and rows.
-/

namespace SqlGateway.Json

variable {α : Type} {reader : Json → Option α} {write : α → Json}

/-- Whether a value stores some data: its text stands for it, and the reader finds the data. -/
structure Stores (reader : Json → Option α) (value : Json) (data : α) : Prop where
  isExact : value.IsExact
  read_eq : reader value = some data

/-- Data are read back from the text of what stores them, if that does not nest too deep. -/
theorem Stores.read_write {value : Json} {data : α} (hstores : Stores reader value data)
    (hdepth : value.depth < nestingLimit) : (read? (Json.write value)).bind reader = some data := by
  rw [read?_write hstores.isExact hdepth, Option.bind_some, hstores.read_eq]

/-! ### Strings, counts, lists and optional values -/

theorem stores_string (s : String) : Stores asString? (.string s) s :=
  ⟨.string s, rfl⟩

theorem stores_count {n : Nat} (hn : n ≤ Decimal.maxUInt64) :
    Stores (asCount? Decimal.maxUInt64) (ofCount n) n := by
  have hleast : Decimal.minInt64 ≤ (n : Int) := by
    have hmin : Decimal.minInt64 = -(2 ^ 63) := rfl
    omega
  have hgreatest : (n : Int) ≤ (Decimal.maxUInt64 : Int) := Int.ofNat_le.mpr hn
  refine ⟨.int hleast hgreatest, ?_⟩
  simp [ofCount, asCount?, hgreatest]

theorem Stores.list {items : List α} (hitems : ∀ item ∈ items, Stores reader (write item) item) :
    Stores (asList? reader) (.array (items.map write)) items := by
  constructor
  · apply IsExact.array
    intro value hvalue
    obtain ⟨item, hitem, rfl⟩ := List.mem_map.mp hvalue
    exact (hitems item hitem).isExact
  · rw [asList?, asArray?, Option.bind_eq_bind, Option.bind_some, List.mapM_map]
    induction items with
    | nil => rfl
    | cons item items ih =>
        obtain ⟨hitem, hrest⟩ := List.forall_mem_cons.mp hitems
        rw [List.mapM_cons, ih hrest, Function.comp_apply, hitem.read_eq]
        rfl

/-- An optional value is stored if what it holds is never stored as null. -/
theorem Stores.option {data : Option α}
    (hdata : ∀ item ∈ data, Stores reader (write item) item ∧ write item ≠ .null) :
    Stores (asOption? reader) (ofOption write data) data := by
  cases data with
  | none => exact ⟨.null, rfl⟩
  | some item =>
      obtain ⟨hitem, hnull⟩ := hdata item rfl
      refine ⟨hitem.isExact, ?_⟩
      rw [ofOption, asOption?, hitem.read_eq]
      · rfl
      · exact hnull

/-! ### Records, variants and rows -/

/-- The fields of a record are found by their names. -/
theorem asRecord?_object {fields : List (String × Json)} (spare : Nat)
    (hnodup : (fields.map Prod.fst).Nodup) :
    asRecord? (fields.map Prod.fst) spare (.object fields) =
      some (fields.map fun field => some field.2) := by
  have honce : (fields.map Prod.fst).any
      (fun name => 1 < fields.countP fun field => field.1 == name) = false := by
    rw [List.any_eq_false]
    intro name _
    have hcount := List.nodup_iff_count_le_one.mp hnodup name
    rw [List.count, List.countP_map] at hcount
    simpa [Function.comp_def] using hcount
  have hfound : (fields.map Prod.fst).map (fun name => getField? name fields) =
      fields.map fun field => some field.2 := by
    rw [List.map_map, List.map_inj_left]
    intro field hfield
    have hproper : Row.IsProper fields := hnodup
    have hset : getField? field.1 (Store.setCells [] fields) = some field.2 :=
      Store.getField?_setCells_of_mem hproper hfield
    rwa [Store.setCells_empty hproper] at hset
  rw [asRecord?, honce, hfound]
  rfl

/-- A record is stored if its fields have exact texts and its reader finds the data in them. -/
theorem Stores.record {fields : List (String × Json)} {data : α} (names : List String)
    (hnames : fields.map Prod.fst = names) (hnodup : names.Nodup)
    (hfields : ∀ field ∈ fields, field.2.IsExact)
    (hread : asRecord? names 0 (.object fields) = some (fields.map fun field => some field.2) →
      reader (.object fields) = some data) : Stores reader (.object fields) data := by
  subst hnames
  exact ⟨.object hnodup hfields, hread (asRecord?_object 0 hnodup)⟩

/-- A variant is an object with one field. -/
theorem IsExact.variant {name : String} {data : Json} (hdata : data.IsExact) :
    (Json.object [(name, data)]).IsExact :=
  .object (List.nodup_singleton name) (by simpa using hdata)

/-- Data of one kind are stored under its name, if the reader of all kinds reads them from there. -/
theorem Stores.variant {β : Type} {ofKind : Json → Option β} {name : String} {value : Json}
    {data : α} {kind : α → β} (hdata : Stores reader value data)
    (hread : ofKind (.object [(name, value)]) = (reader value).map kind) :
    Stores ofKind (.object [(name, value)]) (kind data) := by
  refine ⟨.variant hdata.isExact, ?_⟩
  rw [hread, hdata.read_eq, Option.map_some]

/-- Fields whose keys are all new are added as they are. -/
theorem mergedFields_eq_append {before fields : List (String × Json)}
    (hnodup : ((before ++ fields).map Prod.fst).Nodup)
    (hmerged : ∀ field ∈ fields, merged field.2 = field.2) :
    mergedFields before fields = before ++ fields := by
  induction fields generalizing before with
  | nil => rw [mergedFields, List.append_nil]
  | cons field fields ih =>
      obtain ⟨key, value⟩ := field
      obtain ⟨hvalue, hrest⟩ := List.forall_mem_cons.mp hmerged
      have hkey : key ∉ before.map Prod.fst := by
        intro hmem
        rw [List.map_append, List.map_cons] at hnodup
        exact (List.nodup_append.mp hnodup).2.2 key hmem key List.mem_cons_self rfl
      -- what was added stands before what is still to come
      have hsplit : before ++ (key, value) :: fields = (before ++ [(key, value)]) ++ fields := by
        simp
      rw [mergedFields, hvalue, setField_of_not_mem hkey, hsplit]
      exact ih (hsplit ▸ hnodup) hrest

theorem mergedItems_eq {items : List Json} (hmerged : ∀ item ∈ items, merged item = item) :
    mergedItems items = items := by
  induction items with
  | nil => rfl
  | cons item items ih =>
      obtain ⟨hitem, hrest⟩ := List.forall_mem_cons.mp hmerged
      rw [mergedItems, hitem, ih hrest]

/-- Where no key stands twice there is nothing to merge. -/
theorem merged_eq_self {value : Json} (hvalue : value.IsExact) : merged value = value := by
  induction hvalue with
  | null => rfl
  | bool b => rfl
  | int _ _ => rfl
  | string s => rfl
  | array _ ih => rw [merged, mergedItems_eq ih]
  | object hnodup _ ih =>
      rw [merged, mergedFields_eq_append (by simpa using hnodup) ih, List.nil_append]

theorem stores_row {fields : List (String × Json)} (hrow : (Json.object fields).IsExact) :
    Stores asRow? (.object fields) fields := by
  have hmerged := merged_eq_self hrow
  rw [merged, Json.object.injEq] at hmerged
  exact ⟨hrow, congrArg some hmerged⟩

end SqlGateway.Json
