import SqlGateway.Proofs.Request.OfStatement

/-!
# Which clauses become filters

A clause is a tree and the filters of a request are a list.  The greatest parts of the tree that are
no conjunctions, taken from left to right, are the filters: a comparison becomes a condition, a
disjunction one filter over all its leaves, however it nests.  So a conjunction below a disjunction
has no place in the list.  The main statement says that this and what an operator expects of its
value is all that a clause is refused for, and that nothing but the filters of the request changes.
-/

namespace SqlGateway

namespace Predicate

/-! ### The parts of a clause -/

/-- Whether a tree stands in a clause, be it the whole of it or a part of one of its sides. -/
inductive IsPartOf (part : Predicate) : Predicate → Prop
  | self : IsPartOf part part
  | andLeft {left right : Predicate} : IsPartOf part left → IsPartOf part (.and left right)
  | andRight {left right : Predicate} : IsPartOf part right → IsPartOf part (.and left right)
  | orLeft {left right : Predicate} : IsPartOf part left → IsPartOf part (.or left right)
  | orRight {left right : Predicate} : IsPartOf part right → IsPartOf part (.or left right)

/-- The comparisons of a clause, from left to right. -/
def leaves : Predicate → List Comparison
  | compare c => [c]
  | and left right => left.leaves ++ right.leaves
  | or left right => left.leaves ++ right.leaves

/-- The greatest parts of a clause that are no conjunctions, from left to right. -/
def factors : Predicate → List Predicate
  | and left right => left.factors ++ right.factors
  | clause => [clause]

/-- The filter of a part that is no conjunction. -/
def toFilter : Predicate → Filter
  | compare c => .condition c.stated
  | clause => .anyOf (clause.leaves.map Comparison.stated)

/-- Whether a clause holds a conjunction. -/
def HasAnd (clause : Predicate) : Prop :=
  ∃ left right, (and left right).IsPartOf clause

/-- What is asked of a clause: no conjunction below a disjunction, and every comparison is one that
is allowed. -/
structure IsFlat (clause : Predicate) : Prop where
  not_hasAnd : ∀ left right, (or left right).IsPartOf clause → ¬(or left right).HasAnd
  isAllowed : ∀ c ∈ clause.leaves, c.IsAllowed

variable {c : Comparison} {clause left right : Predicate}

/-- The factors of a clause have its leaves, each once and in their order. -/
theorem flatMap_leaves_factors (clause : Predicate) :
    clause.factors.flatMap leaves = clause.leaves := by
  induction clause with
  | compare c => simp [factors, leaves]
  | and left right ihleft ihright =>
      rw [factors, List.flatMap_append, ihleft, ihright, leaves]
  | or left right => simp [factors, leaves]

theorem leaves_ne_nil (clause : Predicate) : clause.leaves ≠ [] := by
  induction clause with
  | compare c => simp [leaves]
  | and left right ihleft => simp [leaves, ihleft]
  | or left right ihleft => simp [leaves, ihleft]

theorem factors_ne_nil (clause : Predicate) : clause.factors ≠ [] := by
  intro hempty
  apply leaves_ne_nil clause
  rw [← flatMap_leaves_factors, hempty, List.flatMap_nil]

theorem isAllowed_of_mem_factors {part : Predicate} (hclause : clause.IsFlat)
    (hpart : part ∈ clause.factors) : ∀ leaf ∈ part.leaves, leaf.IsAllowed := by
  intro leaf hleaf
  apply hclause.isAllowed
  rw [← flatMap_leaves_factors]
  exact List.mem_flatMap_of_mem hpart hleaf

theorem not_hasAnd_compare : ¬(compare c).HasAnd := by
  rintro ⟨left, right, hpart⟩
  cases hpart

theorem hasAnd_and : (and left right).HasAnd :=
  ⟨left, right, .self⟩

theorem hasAnd_or : (or left right).HasAnd ↔ left.HasAnd ∨ right.HasAnd := by
  constructor
  · rintro ⟨left', right', hpart⟩
    cases hpart with
    | orLeft hleft => exact .inl ⟨left', right', hleft⟩
    | orRight hright => exact .inr ⟨left', right', hright⟩
  · rintro (⟨left', right', hleft⟩ | ⟨left', right', hright⟩)
    · exact ⟨left', right', .orLeft hleft⟩
    · exact ⟨left', right', .orRight hright⟩

theorem isFlat_compare : (compare c).IsFlat ↔ c.IsAllowed := by
  constructor
  · intro hflat
    exact hflat.isAllowed c (List.mem_singleton.mpr rfl)
  · intro hallowed
    refine ⟨fun left right hpart => ?_, fun leaf hleaf => ?_⟩
    · cases hpart
    · rw [List.mem_singleton.mp hleaf]
      exact hallowed

theorem isFlat_and : (and left right).IsFlat ↔ left.IsFlat ∧ right.IsFlat := by
  constructor
  · intro hflat
    obtain ⟨hleft, hright⟩ := List.forall_mem_append.mp hflat.isAllowed
    exact ⟨⟨fun l r hpart => hflat.not_hasAnd l r (.andLeft hpart), hleft⟩,
      ⟨fun l r hpart => hflat.not_hasAnd l r (.andRight hpart), hright⟩⟩
  · rintro ⟨hleft, hright⟩
    refine ⟨fun l r hpart => ?_, List.forall_mem_append.mpr ⟨hleft.isAllowed, hright.isAllowed⟩⟩
    cases hpart with
    | andLeft hpart => exact hleft.not_hasAnd l r hpart
    | andRight hpart => exact hright.not_hasAnd l r hpart

/-- Where a clause holds no conjunction, no part of it does. -/
theorem not_hasAnd_of_isPartOf {part : Predicate} (hpart : part.IsPartOf clause)
    (hclause : ¬clause.HasAnd) : ¬part.HasAnd := by
  induction hpart with
  | self => exact hclause
  | andLeft => exact absurd hasAnd_and hclause
  | andRight => exact absurd hasAnd_and hclause
  | orLeft _ ih => exact ih fun h => hclause (hasAnd_or.mpr (.inl h))
  | orRight _ ih => exact ih fun h => hclause (hasAnd_or.mpr (.inr h))

theorem isFlat_or : (or left right).IsFlat ↔
    ¬(or left right).HasAnd ∧ ∀ leaf ∈ (or left right).leaves, leaf.IsAllowed := by
  constructor
  · intro hflat
    exact ⟨hflat.not_hasAnd left right .self, hflat.isAllowed⟩
  · rintro ⟨hand, hallowed⟩
    exact ⟨fun l r hpart => not_hasAnd_of_isPartOf hpart hand, hallowed⟩

/-! ### The filters of a clause -/

/-- A disjunction is taken apart down to its leaves unless it holds a conjunction. -/
theorem disjuncts_eq_ok_iff {conditions : List Comparison} :
    clause.disjuncts = .ok conditions ↔
      ¬clause.HasAnd ∧ (∀ c ∈ clause.leaves, c.IsAllowed) ∧
        conditions = clause.leaves.map Comparison.stated := by
  induction clause generalizing conditions with
  | compare c =>
      simp only [disjuncts_compare_eq_ok, Comparison.checked_eq_ok_iff, not_hasAnd_compare, leaves,
        List.forall_mem_singleton, List.map_singleton, not_false_eq_true, true_and]
      constructor
      · rintro ⟨result, ⟨hallowed, rfl⟩, rfl⟩
        exact ⟨hallowed, rfl⟩
      · rintro ⟨hallowed, rfl⟩
        exact ⟨_, ⟨hallowed, rfl⟩, rfl⟩
  | and left right =>
      -- refused, and a conjunction holds one
      simp [disjuncts, hasAnd_and]
  | or left right ihleft ihright =>
      rw [disjuncts_or_eq_ok, hasAnd_or, leaves, List.forall_mem_append, List.map_append]
      constructor
      · rintro ⟨first, second, hfirst, hsecond, rfl⟩
        obtain ⟨hleft, hleftLeaves, rfl⟩ := ihleft.mp hfirst
        obtain ⟨hright, hrightLeaves, rfl⟩ := ihright.mp hsecond
        exact ⟨fun h => h.elim hleft hright, ⟨hleftLeaves, hrightLeaves⟩, rfl⟩
      · rintro ⟨hand, ⟨hleftLeaves, hrightLeaves⟩, rfl⟩
        exact ⟨_, _, ihleft.mpr ⟨fun h => hand (.inl h), hleftLeaves, rfl⟩,
          ihright.mpr ⟨fun h => hand (.inr h), hrightLeaves, rfl⟩, rfl⟩

theorem filters_eq_ok_iff {filters : List Filter} :
    clause.filters = .ok filters ↔ clause.IsFlat ∧ filters = clause.factors.map toFilter := by
  induction clause generalizing filters with
  | compare c =>
      simp only [filters_compare_eq_ok, Comparison.checked_eq_ok_iff, isFlat_compare, factors,
        toFilter, List.map_singleton]
      constructor
      · rintro ⟨result, ⟨hallowed, rfl⟩, rfl⟩
        exact ⟨hallowed, rfl⟩
      · rintro ⟨hallowed, rfl⟩
        exact ⟨_, ⟨hallowed, rfl⟩, rfl⟩
  | and left right ihleft ihright =>
      rw [filters_and_eq_ok, isFlat_and, factors, List.map_append]
      constructor
      · rintro ⟨first, second, hfirst, hsecond, rfl⟩
        obtain ⟨hleft, rfl⟩ := ihleft.mp hfirst
        obtain ⟨hright, rfl⟩ := ihright.mp hsecond
        exact ⟨⟨hleft, hright⟩, rfl⟩
      · rintro ⟨⟨hleft, hright⟩, rfl⟩
        exact ⟨_, _, ihleft.mpr ⟨hleft, rfl⟩, ihright.mpr ⟨hright, rfl⟩, rfl⟩
  | or left right =>
      -- a disjunction is a factor of its own, so nothing is asked of its sides one by one
      simp only [filters_or_eq_ok, isFlat_or, factors, List.map_singleton, toFilter]
      constructor
      · rintro ⟨conditions, hconditions, rfl⟩
        obtain ⟨hand, hallowed, rfl⟩ := disjuncts_eq_ok_iff.mp hconditions
        exact ⟨⟨hand, hallowed⟩, rfl⟩
      · rintro ⟨⟨hand, hallowed⟩, rfl⟩
        exact ⟨_, disjuncts_eq_ok_iff.mpr ⟨hand, hallowed, rfl⟩, rfl⟩

end Predicate

/-- A clause restricts a request exactly if it is flat, and then it adds the filters of its factors
and changes nothing else. -/
theorem Request.restricted_eq_ok_iff {request result : Request} {clause : Predicate} :
    request.restricted clause = .ok result ↔
      clause.IsFlat ∧ result = { request with
        filters := request.filters ++ clause.factors.map Predicate.toFilter } := by
  rw [restricted, bind_eq_ok]
  constructor
  · rintro ⟨filters, hfilters, hresult⟩
    obtain ⟨hflat, rfl⟩ := Predicate.filters_eq_ok_iff.mp hfilters
    exact ⟨hflat, (pure_eq_ok.mp hresult).symm⟩
  · rintro ⟨hflat, rfl⟩
    exact ⟨_, Predicate.filters_eq_ok_iff.mpr ⟨hflat, rfl⟩, rfl⟩

end SqlGateway
