import SqlGateway.Proofs.Sorting.Small
import SqlGateway.Sorting.Run

/-!
# Sorting by runs is stable

A run stands for a stretch of the list: if it is sorted it is the stable sort of the stretch, if not
it is the stretch itself.  Cutting gives runs whose stretches make up the list, and joining two
neighbouring runs gives a run that stands for both their stretches.  In which order the runs are
joined, and so how deep they lie in the tree, does not matter for this.
-/

namespace SqlGateway.Sorting

variable {α : Type} {order : α → α → Ordering} {items all : List α}

/-- A run that stands for a stretch of a list. -/
def Run.StandsFor (order : α → α → Ordering) (run : Run α) (items : List α) : Prop :=
  if run.isSorted then IsStableSort order items run.items else run.items = items

theorem Run.StandsFor.length_eq {run : Run α} (h : run.StandsFor order items) :
    run.items.length = items.length := by
  unfold StandsFor at h
  split at h
  · exact h.length_eq
  · rw [h]

/-- Runs that stand for stretches which make up a list. -/
inductive StandFor (order : α → α → Ordering) : List (Run α) → List α → Prop
  | nil : StandFor order [] []
  | cons {run : Run α} {runs : List (Run α)} {items others : List α} :
      run.StandsFor order items → StandFor order runs others →
        StandFor order (run :: runs) (items ++ others)

/-! ### Cutting -/

theorem spanRun_isPrefix (goesOn : α → α → Bool) (last : α) (items : List α) :
    spanRun goesOn last items <+: items := by
  induction items generalizing last with
  | nil => exact List.nil_prefix
  | cons item rest ih =>
      rw [spanRun]
      split
      · exact List.prefix_cons_inj item |>.mpr (ih item)
      · exact List.nil_prefix

/-- In a run each item stands in the relation to the one before. -/
theorem isChain_spanRun (goesOn : α → α → Bool) (last : α) (items : List α) :
    (last :: spanRun goesOn last items).IsChain fun a b => goesOn a b = true := by
  induction items generalizing last with
  | nil => exact List.isChain_singleton _
  | cons item rest ih =>
      rw [spanRun]
      split
      · rename_i hgoesOn
        exact List.isChain_cons_cons.mpr ⟨hgoesOn, ih item⟩
      · exact List.isChain_singleton _

theorem pairwise_of_isChain {r : α → α → Prop}
    (htrans : ∀ a ∈ items, ∀ b ∈ items, ∀ c ∈ items, r a b → r b c → r a c)
    (hchain : items.IsChain r) : items.Pairwise r := by
  induction items with
  | nil => exact .nil
  | cons a rest ih =>
      have hrest : rest.Pairwise r := ih (fun b hb c hc d hd => htrans b (by simp [hb]) c
        (by simp [hc]) d (by simp [hd])) hchain.tail
      refine List.pairwise_cons.mpr ⟨fun b hb => ?_, hrest⟩
      cases rest with
      | nil => cases hb
      | cons c rest =>
          have hac := (List.isChain_cons_cons.mp hchain).1
          rcases List.mem_cons.mp hb with rfl | hb
          · exact hac
          · exact htrans a (by simp) c (by simp) b (by simp [hb]) hac
              ((List.pairwise_cons.mp hrest).1 b hb)

/-- Items sorted strictly the other way round are sorted by turning them. -/
theorem isStableSort_reverse (hpreorder : IsPreorderOn order items)
    (hdescends : items.Pairwise fun a b => order b a = .lt) :
    IsStableSort order items items.reverse := by
  refine .of_filter_eq hpreorder (List.reverse_perm _) ?_ fun alike htied => ?_
  · exact List.pairwise_reverse.mpr (hdescends.imp fun hless => by simp [hless])
  · rw [List.filter_reverse]
    -- no two items are equal to each other
    match hfilter : items.filter alike with
    | [] | [_] => rfl
    | a :: b :: others =>
        have hpairwise := hdescends.filter alike
        rw [hfilter] at hpairwise
        have hless := (List.pairwise_cons.mp hpairwise).1 b (by simp)
        obtain ⟨ha, halike⟩ := List.mem_filter.mp (hfilter ▸ List.mem_cons_self)
        obtain ⟨hb, halike'⟩ := List.mem_filter.mp
          (hfilter ▸ List.mem_cons_of_mem a List.mem_cons_self)
        rw [htied b hb a ha halike' halike] at hless
        cases hless

theorem isStableSort_naturalRun (hpreorder : IsPreorderOn order items) :
    IsStableSort order (items.take (naturalRun (precedes order) items).length)
      (naturalRun (precedes order) items) := by
  match items, hpreorder with
  | [], _ => exact .refl .nil
  | [a], _ => exact .refl (List.pairwise_singleton _ a)
  | first :: second :: rest, hpreorder =>
      have hrun : ∀ goesOn : α → α → Bool,
          (first :: second :: rest).take (first :: second :: spanRun goesOn second rest).length =
            first :: second :: spanRun goesOn second rest := by
        intro goesOn
        simp only [List.length_cons, List.take_succ_cons]
        rw [← List.prefix_iff_eq_take.mp (spanRun_isPrefix goesOn second rest)]
      have hchain : ∀ goesOn : α → α → Bool, goesOn first second = true →
          (first :: second :: spanRun goesOn second rest).IsChain fun a b => goesOn a b = true :=
        fun goesOn hfirst => List.isChain_cons_cons.mpr ⟨hfirst, isChain_spanRun goesOn second rest⟩
      have hwithin : ∀ goesOn : α → α → Bool,
          IsPreorderOn order (first :: second :: spanRun goesOn second rest) := by
        intro goesOn
        rw [← hrun goesOn]
        exact hpreorder.mono (List.take_subset _ _)
      rw [naturalRun]
      by_cases hdescends : precedes order second first = true
      · rw [if_pos hdescends, List.length_reverse, hrun]
        refine isStableSort_reverse (hwithin _) (pairwise_of_isChain ?_ ?_)
        · exact fun a ha b hb c hc hab hbc => (hwithin _).lt_of_lt_of_ne_gt hc hb ha hbc
            (by simp [hab])
        · exact (hchain _ hdescends).imp fun a b hless => precedes_eq_true.mp hless
      · rw [if_neg hdescends, hrun]
        have hpairwise := pairwise_of_isChain ?_ (hchain (fun a b => !precedes order b a) ?_)
        · exact .refl (hpairwise.imp_of_mem fun ha hb hnot =>
            (precedes_eq_false (hwithin _) hb ha).mp (Bool.not_eq_true' _ |>.mp hnot))
        · intro a ha b hb c hc
          simp only [Bool.not_eq_true', precedes_eq_false (hwithin _) hb ha,
            precedes_eq_false (hwithin _) hc hb, precedes_eq_false (hwithin _) hc ha]
          exact (hwithin _).trans a ha b hb c hc
        · simpa using hdescends

/-- The first run of a list stands for as many items as it has. -/
theorem exists_firstRun (hpreorder : IsPreorderOn order items) (eager : Bool) {enough : Nat}
    (henough : 1 ≤ enough) (hitems : items ≠ []) :
    ∃ run, firstRun? (precedes order) eager enough items = some run ∧
      run.StandsFor order (items.take run.items.length) ∧ 1 ≤ run.items.length := by
  have hlength : 1 ≤ items.length := List.length_pos_iff.mpr hitems
  unfold firstRun?
  simp only
  split
  · rename_i hlong
    exact ⟨_, rfl, isStableSort_naturalRun hpreorder, henough.trans hlong.2⟩
  · cases eager with
    | true =>
        obtain ⟨sorted, hsorted, hstable⟩ :=
          sortsStably_sortShort (hpreorder.mono (List.take_subset shortLength items))
        refine ⟨{ isSorted := true, items := sorted }, by simp [hsorted], ?_, ?_⟩
        · change IsStableSort order (items.take sorted.length) sorted
          rwa [hstable.length_eq, take_length_take]
        · change 1 ≤ sorted.length
          rw [hstable.length_eq, List.length_take, shortLength]
          omega
    | false =>
        refine ⟨{ isSorted := false, items := items.take enough }, by simp, ?_, ?_⟩
        · exact (take_length_take enough items).symm
        · change 1 ≤ (items.take enough).length
          rw [List.length_take]
          omega

theorem enoughFor_pos {length : Nat} (hlength : 1 ≤ length) : 1 ≤ enoughFor length := by
  unfold enoughFor
  split
  · omega
  · rename_i hlong
    have hlog : 12 ≤ length.log2 := (Nat.le_log2 (by omega)).mpr (by omega)
    have hpow : 2 ^ 1 ≤ 2 ^ ((1 + length.log2) / 2) := Nat.pow_le_pow_right (by decide) (by omega)
    exact (Nat.le_div_iff_mul_le (by decide)).mpr (hpow.trans (Nat.le_add_right _ _))

/-- The runs of a list stand for it. -/
theorem exists_runs (hpreorder : IsPreorderOn order items) (eager : Bool) {enough : Nat}
    (henough : 1 ≤ enough) :
    ∃ runs, runs? (precedes order) eager enough items = some runs ∧ StandFor order runs items := by
  induction hlength : items.length using Nat.strong_induction_on generalizing items with
  | _ length ih =>
      subst hlength
      cases items with
      | nil => exact ⟨[], by simp [runs?], .nil⟩
      | cons first rest =>
          obtain ⟨run, hrun, hstands, hpos⟩ :=
            exists_firstRun hpreorder eager henough (List.cons_ne_nil first rest)
          have hdrop : rest.drop (run.items.length - 1) =
              (first :: rest).drop run.items.length := by
            rw [← List.drop_succ_cons (a := first), Nat.sub_add_cancel hpos]
          obtain ⟨runs, hruns, hothers⟩ := ih _ (by rw [List.length_drop, List.length_cons]; omega)
            (hpreorder.mono (List.drop_subset run.items.length _)) rfl
          refine ⟨run :: runs, ?_, ?_⟩
          · rw [runs?, hrun, Option.bind_eq_bind, Option.bind_some, hdrop, hruns]
            rfl
          · rw [← List.take_append_drop run.items.length (first :: rest)]
            exact .cons hstands hothers

/-! ### Joining -/

/-- Runs before a place, last one first, that stand for stretches which make up the list before
it. -/
inductive StandBefore (order : α → α → Ordering) : List (Run α × Nat) → List α → Prop
  | nil : StandBefore order [] []
  | cons {run : Run α} {depth : Nat} {before : List (Run α × Nat)} {items others : List α} :
      StandBefore order before others → run.StandsFor order items →
        StandBefore order ((run, depth) :: before) (others ++ items)

section Joining

variable {sort? : List α → Option (List α)}

theorem Run.StandsFor.exists_finish {run : Run α} (h : run.StandsFor order items)
    (hsort : SortsStably order sort? items) :
    ∃ sorted, run.finish? sort? = some sorted ∧ IsStableSort order items sorted := by
  unfold StandsFor at h
  rw [finish?]
  split at h
  · rename_i hsorted
    exact ⟨run.items, if_pos hsorted, h⟩
  · rename_i hsorted
    rw [if_neg hsorted, h]
    exact hsort

/-- Two neighbouring runs are joined to one that stands for what they stand for. -/
theorem Run.StandsFor.exists_join (room : Nat) {left right : Run α} {items items' : List α}
    (hpreorder : IsPreorderOn order (items ++ items'))
    (hsort : ∀ part ⊆ items ++ items', SortsStably order sort? part)
    (hleft : left.StandsFor order items) (hright : right.StandsFor order items') :
    ∃ run, left.join? (precedes order) sort? room right = some run ∧
      run.StandsFor order (items ++ items') := by
  unfold join?
  split
  · obtain ⟨first, hfirst, hstable⟩ := hleft.exists_finish (hsort _ (List.subset_append_left _ _))
    obtain ⟨second, hsecond, hstable'⟩ :=
      hright.exists_finish (hsort _ (List.subset_append_right _ _))
    have hboth := IsStableSort.isPreorderOn_append hpreorder hstable hstable'
    refine ⟨_, by rw [hfirst, hsecond]; rfl, ?_⟩
    exact .of_append hpreorder hstable hstable'
      (isStableSort_merge hboth hstable.pairwise hstable'.pairwise)
  · rename_i hnot
    simp only [not_or, Bool.not_eq_true] at hnot
    refine ⟨_, rfl, ?_⟩
    simp only [StandsFor, hnot, Bool.false_eq_true, if_false] at hleft hright ⊢
    rw [hleft, hright]

theorem exists_joinBefore (room depth : Nat) {before : List (Run α × Nat)} {front : List α}
    {run : Run α}
    (hpreorder : IsPreorderOn order (front ++ items))
    (hsort : ∀ part ⊆ front ++ items, SortsStably order sort? part)
    (hbefore : StandBefore order before front) (hrun : run.StandsFor order items) :
    ∃ before' run' front' items',
      joinBefore? (precedes order) sort? room depth before run = some (before', run') ∧
        StandBefore order before' front' ∧ run'.StandsFor order items' ∧
          front' ++ items' = front ++ items ∧ (depth = 0 → front' = []) := by
  induction hbefore generalizing run items with
  | nil => exact ⟨[], run, [], items, rfl, .nil, hrun, rfl, fun _ => rfl⟩
  | @cons left leftDepth before leftItems others hbefore hleft ih =>
      rw [List.append_assoc] at hpreorder hsort
      rw [joinBefore?]
      by_cases hdeep : depth ≤ leftDepth
      · rw [if_pos hdeep]
        obtain ⟨joined, hjoined, hstands⟩ := hleft.exists_join room
          (hpreorder.mono (List.subset_append_right _ _))
          (fun part hpart => hsort part (List.Subset.trans hpart (List.subset_append_right _ _)))
          hrun
        rw [hjoined, Option.bind_eq_bind, Option.bind_some, List.append_assoc]
        exact ih hpreorder hsort hstands
      · rw [if_neg hdeep]
        exact ⟨_, run, _, items, rfl, .cons hbefore hleft, hrun, rfl, fun hzero => by omega⟩

theorem exists_joinAll (room length middle : Nat) {before : List (Run α × Nat)}
    {front rest : List α} {run : Run α} {behind : List (Run α)} (hpreorder : IsPreorderOn order all)
    (hsort : ∀ part ⊆ all, SortsStably order sort? part) (hbefore : StandBefore order before front)
    (hrun : run.StandsFor order items) (hbehind : StandFor order behind rest)
    (hall : front ++ items ++ rest = all) :
    ∃ whole, joinAll? (precedes order) sort? room length before run middle behind = some whole ∧
      whole.StandsFor order all := by
  induction hbehind generalizing before front run items middle with
  | nil =>
      rw [List.append_nil] at hall
      subst hall
      obtain ⟨before', whole, front', items', hjoin, -, hwhole, hitems, hfront⟩ :=
        exists_joinBefore room 0 hpreorder hsort hbefore hrun
      rw [hfront rfl, List.nil_append] at hitems
      exact ⟨whole, by rw [joinAll?, hjoin]; rfl, hitems ▸ hwhole⟩
  | @cons next behind nextItems others hnext hbehind ih =>
      have hsubset : front ++ items ⊆ all := by
        rw [← hall]
        exact List.subset_append_left _ _
      obtain ⟨before', run', front', items', hjoin, hbefore', hrun', hitems, -⟩ :=
        exists_joinBefore room
          (joinDepth length (middle - run.items.length) middle (middle + next.items.length))
          (hpreorder.mono hsubset) (fun part hpart => hsort part (List.Subset.trans hpart hsubset))
          hbefore hrun
      rw [joinAll?, hjoin, Option.bind_eq_bind, Option.bind_some]
      refine ih _ (.cons hbefore' hrun') hnext ?_
      rw [← hall, hitems, List.append_assoc (front ++ items)]

theorem sortsStably_sortRuns (room : Nat) (eager : Bool) (hpreorder : IsPreorderOn order items)
    (hsort : ∀ part ⊆ items, SortsStably order sort? part) :
    SortsStably order (sortRuns? (precedes order) sort? room eager) items := by
  unfold SortsStably sortRuns?
  cases items with
  | nil => exact ⟨[], by simp [runs?], .refl .nil⟩
  | cons first rest =>
      have henough : 1 ≤ enoughFor (first :: rest).length := enoughFor_pos (by simp)
      obtain ⟨runs, hruns, hstand⟩ := exists_runs hpreorder eager henough
      rw [hruns, Option.bind_eq_bind, Option.bind_some]
      generalize hall : first :: rest = all at *
      cases hstand with
      | nil => cases hall
      | @cons run runs items others hrun hothers =>
          obtain ⟨whole, hwhole, hstands⟩ := exists_joinAll room (items ++ others).length
            run.items.length hpreorder hsort .nil hrun hothers rfl
          obtain ⟨sorted, hsorted, hstable⟩ :=
            hstands.exists_finish (hsort _ (List.Subset.refl _))
          exact ⟨sorted, by simp only [hwhole]; exact hsorted, hstable⟩

end Joining

end SqlGateway.Sorting
