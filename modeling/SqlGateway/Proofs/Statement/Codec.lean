import SqlGateway.Proofs.Json.Record
import SqlGateway.Proofs.Request.Clause
import SqlGateway.Statement.Codec

/-!
# Statements as they are stored

The stored form of a statement stores it, provided that its values have exact texts: a double does
not.  A value is stored without its kind, and yet none is taken for another: null, truth values,
numbers, strings and lists are five different kinds of JSON.
-/

namespace SqlGateway

open Json

/-! ### Values -/

/-- Whether a value is stored exactly: whole numbers fit 64 bits with a sign, and neither it nor an
item of it is a double. -/
inductive Value.IsStorable : Value → Prop
  | null : IsStorable .null
  | bool (b : Bool) : IsStorable (.bool b)
  | int {n : Int} : Decimal.isInt64 n = true → IsStorable (.int n)
  | string (s : String) : IsStorable (.string s)
  | list {items : List Value} : (∀ item ∈ items, IsStorable item) → IsStorable (.list items)

theorem Value.toJsonItems_eq_map (items : List Value) :
    Value.toJsonItems items = items.map Value.toJson := by
  induction items with
  | nil => rfl
  | cons item items ih => rw [toJsonItems, ih, List.map_cons]

theorem Value.ofStoredItems?_eq_mapM (items : List Json) :
    Value.ofStoredItems? items = items.mapM Value.ofStored? := by
  induction items with
  | nil => rfl
  | cons item items ih =>
      rw [ofStoredItems?, ih, List.mapM_cons]

theorem Value.stores_toJson {value : Value} (hvalue : value.IsStorable) :
    Stores Value.ofStored? value.toJson value := by
  induction hvalue with
  | null => exact ⟨.null, rfl⟩
  | bool b => exact ⟨.bool b, rfl⟩
  | @int n hn =>
      have hbounds : Decimal.minInt64 ≤ n ∧ n ≤ Decimal.maxInt64 := by
        simpa [Decimal.isInt64] using hn
      have hgreatest : n ≤ (Decimal.maxUInt64 : Int) :=
        Int.le_trans hbounds.2 (by decide)
      refine ⟨.int hbounds.1 hgreatest, ?_⟩
      rw [Value.toJson, Value.ofStored?, Value.ofJsonNumber, if_pos hn]
  | string s => exact ⟨.string s, rfl⟩
  | list _ ih =>
      have hitems := Stores.list ih
      rw [Value.toJson, Value.toJsonItems_eq_map]
      refine ⟨hitems.isExact, ?_⟩
      rw [Value.ofStored?, Value.ofStoredItems?_eq_mapM]
      exact congrArg (Option.map Value.list) hitems.read_eq

/-! ### Conditions -/

theorem Operator.stores_storedName (op : Operator) :
    Stores Operator.ofStored? (.string op.storedName) op :=
  ⟨.string _, by cases op <;> decide⟩

theorem Comparison.stores_toStored {c : Comparison} (hvalue : c.value.IsStorable) :
    Stores Comparison.ofStored? c.toStored c := by
  have hop := Operator.stores_storedName c.op
  have hoperand := Value.stores_toJson hvalue
  apply Stores.record ["column", "op", "value"] rfl (by decide)
  · simp [IsExact.string, hoperand.isExact]
  · intro hrecord
    rw [Comparison.ofStored?, hrecord]
    simp [required?, asString?, hop.read_eq, hoperand.read_eq]

namespace Predicate

/-- A tree is stored by its name with its two sides. -/
theorem isExact_pair {name : String} {left right : Json} (hleft : left.IsExact)
    (hright : right.IsExact) : (Json.object [(name, .array [left, right])]).IsExact :=
  .variant (.array (by simp [hleft, hright]))

theorem stores_toStored {clause : Predicate} (hvalues : ∀ c ∈ clause.leaves, c.value.IsStorable) :
    Stores Predicate.ofStored? clause.toStored clause := by
  induction clause with
  | compare c =>
      have hc := Comparison.stores_toStored (hvalues c (List.mem_singleton.mpr rfl))
      refine ⟨.variant hc.isExact, ?_⟩
      -- the data of a comparison are no array of two sides
      have hread := hc.read_eq
      rw [Comparison.toStored] at hread
      rw [toStored, Comparison.toStored, ofStored?, if_pos rfl, hread]
      · rfl
      · simp
  | and left right ihleft ihright =>
      obtain ⟨hleft, hright⟩ := List.forall_mem_append.mp hvalues
      refine ⟨isExact_pair (ihleft hleft).isExact (ihright hright).isExact, ?_⟩
      rw [toStored, ofStored?, if_pos rfl, (ihleft hleft).read_eq, (ihright hright).read_eq]
      rfl
  | or left right ihleft ihright =>
      obtain ⟨hleft, hright⟩ := List.forall_mem_append.mp hvalues
      refine ⟨isExact_pair (ihleft hleft).isExact (ihright hright).isExact, ?_⟩
      rw [toStored, ofStored?, if_neg (by decide), if_pos rfl, (ihleft hleft).read_eq,
        (ihright hright).read_eq]
      rfl

/-- The comparisons of an optional clause; without one there are none. -/
def leavesOf : Option Predicate → List Comparison
  | none => []
  | some clause => clause.leaves

/-- An optional clause is stored. -/
theorem stores_optional {clause : Option Predicate}
    (hvalues : ∀ c ∈ leavesOf clause, c.value.IsStorable) :
    Stores (asOption? Predicate.ofStored?) (ofOption toStored clause) clause := by
  apply Stores.option
  rintro clause rfl
  refine ⟨stores_toStored hvalues, ?_⟩
  cases clause <;> simp [toStored]

end Predicate

/-! ### Columns and order -/

theorem SelectColumn.stores_toStored (column : SelectColumn) :
    Stores SelectColumn.ofStored? column.toStored column := by
  cases column with
  | star => exact ⟨.string "Star", rfl⟩
  | named name label =>
      have hlabel : Stores (asOption? asString?) (ofOption .string label) label :=
        Stores.option fun text _ => ⟨stores_string text, by simp⟩
      -- the label and the name stand in a record of their own, below the name of the variant
      have hnamed : Stores (asRecord? ["name", "alias"] 0)
          (.object [("name", .string name), ("alias", ofOption .string label)])
          [some (.string name), some (ofOption .string label)] :=
        Stores.record ["name", "alias"] rfl (by decide)
          (by simp [IsExact.string, hlabel.isExact]) id
      refine ⟨.variant hnamed.isExact, ?_⟩
      simp [toStored, ofStored?, asVariant?, hnamed.read_eq, required?, optional?, asString?,
        hlabel.read_eq]

theorem OrderKey.stores_toStored (key : OrderKey) :
    Stores OrderKey.ofStored? key.toStored key := by
  have hdirection : Direction.ofStored? (.string key.direction.storedName) =
      some key.direction := by
    cases key.direction <;> rfl
  apply Stores.record ["column", "order"] rfl (by decide)
  · simp [IsExact.string]
  · intro hrecord
    rw [ofStored?, hrecord]
    simp [required?, asString?, hdirection]

/-- An optional count is stored. -/
theorem stores_optionalCount {count : Option Nat} (hcount : ∀ n ∈ count, n ≤ Decimal.maxUInt64) :
    Stores (asOption? countOfStored?) (ofOption ofCount count) count :=
  Stores.option fun n hn => ⟨stores_count (hcount n hn), by simp [ofCount]⟩

/-! ### Statements -/

theorem SelectStatement.stores_toStored {s : SelectStatement}
    (hvalues : ∀ c ∈ Predicate.leavesOf s.filter, c.value.IsStorable)
    (hlimit : ∀ n ∈ s.limit, n ≤ Decimal.maxUInt64)
    (hoffset : ∀ n ∈ s.offset, n ≤ Decimal.maxUInt64) :
    Stores SelectStatement.ofStored? s.toStored s := by
  have hcolumns := Stores.list fun column (_ : column ∈ s.columns) => column.stores_toStored
  have hfilter := Predicate.stores_optional hvalues
  have horder := Stores.list fun key (_ : key ∈ s.order) => key.stores_toStored
  have hlimit := stores_optionalCount hlimit
  have hoffset := stores_optionalCount hoffset
  apply Stores.record ["table", "columns", "filter", "order_by", "limit", "offset"] rfl (by decide)
  · simp [IsExact.string, hcolumns.isExact, hfilter.isExact, horder.isExact, hlimit.isExact,
      hoffset.isExact]
  · intro hrecord
    rw [ofStored?, hrecord]
    simp [required?, optional?, asString?, hcolumns.read_eq, hfilter.read_eq, horder.read_eq,
      hlimit.read_eq, hoffset.read_eq]

theorem InsertStatement.stores_toStored {s : InsertStatement}
    (hvalues : ∀ values ∈ s.rows, ∀ value ∈ values, value.IsStorable) :
    Stores InsertStatement.ofStored? s.toStored s := by
  have hcolumns := Stores.list fun column (_ : column ∈ s.columns) => stores_string column
  have hrows := Stores.list fun values (hrow : values ∈ s.rows) =>
    Stores.list fun value hvalue => Value.stores_toJson (hvalues values hrow value hvalue)
  apply Stores.record ["table", "columns", "rows"] rfl (by decide)
  · simp [IsExact.string, hcolumns.isExact, hrows.isExact]
  · intro hrecord
    rw [ofStored?, hrecord]
    simp [required?, asString?, hcolumns.read_eq, hrows.read_eq]

theorem Assignment.stores_toStored {a : Assignment} (hvalue : a.value.IsStorable) :
    Stores Assignment.ofStored? a.toStored a := by
  have hoperand := Value.stores_toJson hvalue
  apply Stores.record ["column", "value"] rfl (by decide)
  · simp [IsExact.string, hoperand.isExact]
  · intro hrecord
    rw [ofStored?, hrecord]
    simp [required?, asString?, hoperand.read_eq]

theorem UpdateStatement.stores_toStored {s : UpdateStatement}
    (hassigned : ∀ a ∈ s.assignments, a.value.IsStorable)
    (hvalues : ∀ c ∈ Predicate.leavesOf s.filter, c.value.IsStorable) :
    Stores UpdateStatement.ofStored? s.toStored s := by
  have hassignments := Stores.list fun a ha => Assignment.stores_toStored (hassigned a ha)
  have hfilter := Predicate.stores_optional hvalues
  apply Stores.record ["table", "assignments", "filter"] rfl (by decide)
  · simp [IsExact.string, hassignments.isExact, hfilter.isExact]
  · intro hrecord
    rw [ofStored?, hrecord]
    simp [required?, optional?, asString?, hassignments.read_eq, hfilter.read_eq]

theorem DeleteStatement.stores_toStored {s : DeleteStatement}
    (hvalues : ∀ c ∈ Predicate.leavesOf s.filter, c.value.IsStorable) :
    Stores DeleteStatement.ofStored? s.toStored s := by
  have hfilter := Predicate.stores_optional hvalues
  apply Stores.record ["table", "filter"] rfl (by decide)
  · simp [IsExact.string, hfilter.isExact]
  · intro hrecord
    rw [ofStored?, hrecord]
    simp [required?, optional?, asString?, hfilter.read_eq]

namespace Statement

/-- The values of a statement: those that it sets and those that it compares with. -/
def values : Statement → List Value
  | select s => (Predicate.leavesOf s.filter).map Comparison.value
  | insert s => s.rows.flatten
  | update s => s.assignments.map Assignment.value ++
      (Predicate.leavesOf s.filter).map Comparison.value
  | delete s => (Predicate.leavesOf s.filter).map Comparison.value

/-- The counts of a statement. -/
def counts : Statement → List Nat
  | select s => s.limit.toList ++ s.offset.toList
  | _ => []

/-- Whether a statement is stored exactly: no value is a double or holds one, and all whole numbers
fit 64 bits. -/
structure IsStorable (s : Statement) : Prop where
  values : ∀ value ∈ s.values, value.IsStorable
  counts : ∀ n ∈ s.counts, n ≤ Decimal.maxUInt64

/-- The stored form of a statement stores it. -/
theorem stores_toStored {s : Statement} (hs : s.IsStorable) :
    Stores Statement.ofStored? s.toStored s := by
  obtain ⟨hvalues, hcounts⟩ := hs
  cases s with
  | select s =>
      have hstores := SelectStatement.stores_toStored
        (fun c hc => hvalues c.value (List.mem_map_of_mem hc))
        (fun n hn => hcounts n (List.mem_append_left _ (Option.mem_toList.mpr hn)))
        (fun n hn => hcounts n (List.mem_append_right _ (Option.mem_toList.mpr hn)))
      exact hstores.variant rfl
  | insert s =>
      have hstores := InsertStatement.stores_toStored fun values hrow value hvalue =>
        hvalues value (List.mem_flatten_of_mem hrow hvalue)
      exact hstores.variant rfl
  | update s =>
      have hstores := UpdateStatement.stores_toStored
        (fun a ha => hvalues a.value (List.mem_append_left _ (List.mem_map_of_mem ha)))
        (fun c hc => hvalues c.value (List.mem_append_right _ (List.mem_map_of_mem hc)))
      exact hstores.variant rfl
  | delete s =>
      have hstores := DeleteStatement.stores_toStored
        (fun c hc => hvalues c.value (List.mem_map_of_mem hc))
      exact hstores.variant rfl

end Statement

end SqlGateway
