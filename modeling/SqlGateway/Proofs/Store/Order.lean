import SqlGateway.Proofs.Decimal.Nearest
import SqlGateway.Proofs.Preorder
import SqlGateway.Store.Order

/-!
# Whether rows can be sorted

Sorting asks for a total preorder of the rows.  Rows compare by one key after the other, cells by
the places of their types and then within a type, and each time a preorder is refined by another
(`IsPreorderOn.lex`).  What remains are the numbers.  Integers of 64 bits with a sign compare
exactly, but a larger one compares through doubles, and the double nearest to each of the last 512
integers below `2 ^ 63` is `2 ^ 63`.  So two of them, though different, are both equal to an integer
that is just large enough:

    2 ^ 63 - 512 ≤ m < n < 2 ^ 63 ≤ u ≤ 2 ^ 63 + 1024

Three such numbers in one column make it unsortable, and nothing else does
(`isPreorderOn_compareRows_iff`).
-/

namespace SqlGateway

open Decimal

namespace Store

/-! ### The order of integers -/

/-- Integers of 64 bits, with a sign or without. -/
def IsWord (n : Int) : Prop :=
  minInt64 ≤ n ∧ n ≤ maxUInt64

instance : DecidablePred IsWord := fun n =>
  inferInstanceAs (Decidable (minInt64 ≤ n ∧ n ≤ maxUInt64))

theorem lt_iff_compare (x y : Float) :
    x < y ↔ x.toModel.unpack.compare y.toModel.unpack = some .lt := by
  change decide ((x.toModel.unpack.compare y.toModel.unpack == some .lt) = true) = true ↔ _
  rw [decide_eq_true_iff, beq_iff_eq]

theorem compareFloats?_of_denotes {x y : Float} {a b : Int} (hx : Denotes x.toModel.unpack a)
    (hy : Denotes y.toModel.unpack b) : compareFloats? x y = some (compare a b) := by
  have hxy := hx.compare_eq hy
  have hyx := hy.compare_eq hx
  have hbeq : (x == y) = (x.toModel.unpack.compare y.toModel.unpack == some .eq) := rfl
  unfold compareFloats?
  simp only [GT.gt, lt_iff_compare, hbeq, hxy, hyx, Option.some.injEq, Int.compare_eq_lt]
  rcases Int.lt_trichotomy a b with hab | rfl | hba
  · rw [if_pos hab, Int.compare_eq_lt.mpr hab]
  · simp
  · rw [if_neg (by omega), if_pos hba, Int.compare_eq_gt.mpr hba]

section Numbers

variable {l m n : Int}

theorem denotes_double (hn : IsWord n) :
    Denotes (double (.int n)).toModel.unpack (roundedInt n) := by
  obtain ⟨hleast, hgreatest⟩ := hn
  unfold minInt64 at hleast
  unfold maxUInt64 at hgreatest
  norm_num at hleast hgreatest
  exact denotes_floatOfInt (by omega)

theorem int64?_of_isWord (hn : IsWord n) :
    int64? (.int n) = if n < 2 ^ 63 then some n else none := by
  have hleast := hn.1
  have hfits : isInt64 n = true ↔ n < 2 ^ 63 := by
    unfold isInt64 maxInt64
    simp only [Bool.and_eq_true, decide_eq_true_eq, hleast, true_and]
    norm_num
    omega
  simp only [int64?, hfits]

/-- Two integers compare exactly if both have 64 bits with a sign, and as doubles otherwise. -/
theorem compareNumbers_int (hm : IsWord m) (hn : IsWord n) :
    compareNumbers (.int m) (.int n) =
      if m < 2 ^ 63 ∧ n < 2 ^ 63 then compare m n else compare (roundedInt m) (roundedInt n) := by
  have hfloats := compareFloats?_of_denotes (denotes_double hm) (denotes_double hn)
  unfold compareNumbers
  rw [int64?_of_isWord hm, int64?_of_isWord hn, hfloats]
  by_cases hms : m < 2 ^ 63
  · by_cases hns : n < 2 ^ 63
    · rw [if_pos hms, if_pos hns, if_pos ⟨hms, hns⟩]
    · rw [if_pos hms, if_neg hns, if_neg (not_and_of_not_right _ hns), Option.getD_some]
  · rw [if_neg hms, if_neg (not_and_of_not_left _ hms)]
    rfl

theorem compareNumbers_self (hn : IsWord n) : compareNumbers (.int n) (.int n) = .eq := by
  rw [compareNumbers_int hn hn]
  split <;> exact Int.compare_eq_eq.mpr rfl

theorem compareNumbers_swap (hm : IsWord m) (hn : IsWord n) :
    compareNumbers (.int n) (.int m) = (compareNumbers (.int m) (.int n)).swap := by
  rw [compareNumbers_int hm hn, compareNumbers_int hn hm]
  simp only [and_comm]
  split <;> exact Std.OrientedOrd.eq_swap

theorem compareNumbers_ne_gt_iff (hm : IsWord m) (hn : IsWord n) :
    compareNumbers (.int m) (.int n) ≠ .gt ↔
      if m < 2 ^ 63 ∧ n < 2 ^ 63 then m ≤ n else roundedInt m ≤ roundedInt n := by
  rw [compareNumbers_int hm hn]
  split <;> rw [ne_eq, Int.compare_eq_gt, not_lt]

/-- Two different integers below `2 ^ 63`, and one that is equal to both as a double. -/
def Blurred (m n u : Int) : Prop :=
  2 ^ 63 - 512 ≤ m ∧ m < n ∧ n < 2 ^ 63 ∧ 2 ^ 63 ≤ u ∧ u ≤ 2 ^ 63 + 1024

/-- Of three integers, the order is transitive unless the second one blurs the two others. -/
theorem compareNumbers_trans_iff (hl : IsWord l) (hm : IsWord m) (hn : IsWord n) :
    (compareNumbers (.int l) (.int m) ≠ .gt → compareNumbers (.int m) (.int n) ≠ .gt →
      compareNumbers (.int l) (.int n) ≠ .gt) ↔ ¬Blurred n l m := by
  have hnear : ∀ {n : Int}, IsWord n →
      n < 2 ^ 63 ∧ roundedInt n ≤ 2 ^ 63 ∧ (roundedInt n = 2 ^ 63 ↔ 2 ^ 63 - 512 ≤ n) ∨
      2 ^ 63 ≤ n ∧ 2 ^ 63 ≤ roundedInt n ∧ (roundedInt n = 2 ^ 63 ↔ n ≤ 2 ^ 63 + 1024) := by
    intro n hn
    have hgreatest : n < 2 ^ 64 := Int.lt_of_le_of_lt hn.2 (by decide)
    rcases lt_or_ge n (2 ^ 63) with hsmall | hlarge
    · exact .inl ⟨hsmall, roundedInt_le hsmall⟩
    · exact .inr ⟨hlarge, le_roundedInt hlarge hgreatest⟩
  rw [compareNumbers_ne_gt_iff hl hm, compareNumbers_ne_gt_iff hm hn,
    compareNumbers_ne_gt_iff hl hn, Blurred]
  have hl := hnear hl
  have hm := hnear hm
  have hn := hnear hn
  norm_num at hl hm hn ⊢
  split_ifs <;> omega

end Numbers

/-! ### The order of cells -/

/-- Cells without a fraction: an integer has 64 bits, and everything else may be any. -/
def IsWhole : Json → Prop
  | .number (.int n) => IsWord n
  | .number (.float _) => False
  | _ => True

instance : DecidablePred IsWhole
  | .number (.int n) => inferInstanceAs (Decidable (IsWord n))
  | .number (.float _) => .isFalse id
  | .null | .bool _ | .string _ | .array _ | .object _ => .isTrue trivial

/-- The place of a type among the types, with null behind all others. -/
def place : Json → Nat
  | .null => 6
  | value => typeRank value

/-- The order of two cells of one type. -/
def compareAlike : Json → Json → Ordering
  | .number m, .number n => compareNumbers m n
  | .string s, .string t => compare s t
  | .bool a, .bool b => compare a.toNat b.toNat
  | _, _ => .eq

/-- Cells compare by their types, and within a type. -/
theorem compareCells_eq_then (a b : Json) :
    compareCells a b = (compare (place a) (place b)).then (compareAlike a b) := by
  cases a <;> cases b <;> rfl

theorem exists_number_of_place {a : Json} (hplace : place a = 2) : ∃ n, a = .number n := by
  cases a <;> simp [place, typeRank] at hplace ⊢

theorem exists_string_of_place {a : Json} (hplace : place a = 3) : ∃ s, a = .string s := by
  cases a <;> simp [place, typeRank] at hplace ⊢

theorem exists_bool_of_place {a : Json} (hplace : place a = 1) : ∃ b, a = .bool b := by
  cases a <;> simp [place, typeRank] at hplace ⊢

/-- Some number of a column blurs two others. -/
def Blurs (cells : List Json) : Prop :=
  ∃ m n u : Int, .number (.int m) ∈ cells ∧ .number (.int n) ∈ cells ∧ .number (.int u) ∈ cells ∧
    Blurred m n u

section Cells

variable {cells : List Json}

theorem isOrientedOn_compareAlike (hwhole : ∀ a ∈ cells, IsWhole a) :
    IsOrientedOn compareAlike cells where
  refl a ha := by
    match a, hwhole a ha with
    | .number (.int n), hn => exact compareNumbers_self hn
    | .string s, _ => exact Std.ReflOrd.compare_self
    | .bool b, _ => exact Std.ReflOrd.compare_self
    | .null, _ | .array _, _ | .object _, _ => rfl
  swap a ha b hb := by
    cases a with
    | number m =>
        cases b with
        | number n =>
            match m, n, hwhole _ ha, hwhole _ hb with
            | .int m, .int n, hm, hn => exact compareNumbers_swap hm hn
        | _ => rfl
    | string s =>
        cases b with
        | string t => exact Std.OrientedOrd.eq_swap
        | _ => rfl
    | bool s =>
        cases b with
        | bool t => exact Std.OrientedOrd.eq_swap
        | _ => rfl
    | null | array _ | object _ => cases b <;> rfl

theorem compareAlike_trans (hwhole : ∀ a ∈ cells, IsWhole a) (hclear : ¬Blurs cells) {a b c : Json}
    (ha : a ∈ cells) (hb : b ∈ cells) (hc : c ∈ cells) (hplace : place a = place b)
    (hplace' : place b = place c) (hab : compareAlike a b ≠ .gt) (hbc : compareAlike b c ≠ .gt) :
    compareAlike a c ≠ .gt := by
  cases a with
  | number l =>
      obtain ⟨m, rfl⟩ := exists_number_of_place hplace.symm
      obtain ⟨n, rfl⟩ := exists_number_of_place hplace'.symm
      match l, m, n, hwhole _ ha, hwhole _ hb, hwhole _ hc with
      | .int l, .int m, .int n, hl, hm, hn =>
          have hsharp : ¬Blurred n l m := fun hblurred => hclear ⟨n, l, m, hc, ha, hb, hblurred⟩
          exact (compareNumbers_trans_iff hl hm hn).mpr hsharp hab hbc
  | string s =>
      obtain ⟨t, rfl⟩ := exists_string_of_place hplace.symm
      obtain ⟨u, rfl⟩ := exists_string_of_place hplace'.symm
      exact (IsPreorderOn.of_ord [s, t, u]).trans s (by simp) t (by simp) u (by simp) hab hbc
  | bool s =>
      obtain ⟨t, rfl⟩ := exists_bool_of_place hplace.symm
      obtain ⟨u, rfl⟩ := exists_bool_of_place hplace'.symm
      revert hab hbc
      cases s <;> cases t <;> cases u <;> decide
  | null | array _ | object _ => cases c <;> exact Ordering.noConfusion

theorem isPreorderOn_place (cells : List Json) :
    IsPreorderOn (fun a b => compare (place a) (place b)) cells :=
  (IsPreorderOn.of_ord (cells.map place)).comap

theorem isOrientedOn_compareCells (hwhole : ∀ a ∈ cells, IsWhole a) :
    IsOrientedOn compareCells cells := by
  have hcells := (isPreorderOn_place cells).toIsOrientedOn.lex (isOrientedOn_compareAlike hwhole)
  simpa only [← compareCells_eq_then] using hcells

/-- Cells compare by a total preorder unless a number blurs two others. -/
theorem isPreorderOn_compareCells (hwhole : ∀ a ∈ cells, IsWhole a) (hclear : ¬Blurs cells) :
    IsPreorderOn compareCells cells := by
  have hcells := (isPreorderOn_place cells).lex (isOrientedOn_compareAlike hwhole)
    fun a ha b hb c hc hab hbc => compareAlike_trans hwhole hclear ha hb hc
      (Nat.compare_eq_eq.mp hab) (Nat.compare_eq_eq.mp hbc)
  simpa only [← compareCells_eq_then] using hcells

end Cells

/-! ### The order of rows -/

section Rows

variable {columns : List String} {rows : List Row} {keys : List OrderKey}

theorem isOrientedOn_compareRows
    (hkeys : ∀ key ∈ keys, IsOrientedOn compareCells (rows.map (cell · key.column))) :
    IsOrientedOn (compareRows keys) rows := by
  induction keys with
  | nil => exact ⟨fun _ _ => rfl, fun _ _ _ _ => rfl⟩
  | cons key keys ih =>
      rw [List.forall_mem_cons] at hkeys
      refine IsOrientedOn.lex ?_ (ih hkeys.2)
      unfold compareByKey
      cases key.direction with
      | ascending => exact hkeys.1.comap
      | descending => exact hkeys.1.comap.swapped

theorem isPreorderOn_compareRows
    (hkeys : ∀ key ∈ keys, IsPreorderOn compareCells (rows.map (cell · key.column))) :
    IsPreorderOn (compareRows keys) rows := by
  induction keys with
  | nil => exact ⟨⟨fun _ _ => rfl, fun _ _ _ _ => rfl⟩, fun _ _ _ _ _ _ _ _ => nofun⟩
  | cons key keys ih =>
      rw [List.forall_mem_cons] at hkeys
      have hlater := ih hkeys.2
      refine IsPreorderOn.lex ?_ hlater.toIsOrientedOn fun a ha b hb c hc _ _ =>
        hlater.trans a ha b hb c hc
      unfold compareByKey
      cases key.direction with
      | ascending => exact hkeys.1.comap
      | descending => exact hkeys.1.comap.swapped

theorem compareRows_ascending (column : String) (row row' : Row) :
    compareRows [{ column, direction := .ascending }] row row' =
      compareCells (cell row column) (cell row' column) :=
  Ordering.then_eq

/-- A column in which a number blurs two others is not even sorted by itself. -/
theorem not_isPreorderOn_compareRows {column : String}
    (hwhole : ∀ row ∈ rows, IsWhole (cell row column))
    (hblurs : Blurs (rows.map (cell · column))) :
    ¬IsPreorderOn (compareRows [{ column, direction := .ascending }]) rows := by
  obtain ⟨m, n, u, hm, hn, hu, hblurred⟩ := hblurs
  obtain ⟨least, hleast, hm⟩ := List.mem_map.mp hm
  obtain ⟨next, hnext, hn⟩ := List.mem_map.mp hn
  obtain ⟨large, hlarge, hu⟩ := List.mem_map.mp hu
  have hmword := hwhole least hleast
  have hnword := hwhole next hnext
  have huword := hwhole large hlarge
  rw [hm] at hmword
  rw [hn] at hnword
  rw [hu] at huword
  intro hpreorder
  have htrans := hpreorder.trans next hnext large hlarge least hleast
  simp only [compareRows_ascending, hm, hn, hu] at htrans
  exact (compareNumbers_trans_iff hnword huword hmword).mp htrans hblurred

/-- Rows whose cells in some columns have no fraction: whatever the keys on these columns, a row is
equal to itself and rows compare the other way round as they should; and all keys on these columns
can be sorted by exactly if in none of the columns a number blurs two others. -/
theorem isPreorderOn_compareRows_iff
    (hwhole : ∀ row ∈ rows, ∀ column ∈ columns, IsWhole (cell row column)) :
    (∀ keys : List OrderKey, (∀ key ∈ keys, key.column ∈ columns) →
      IsOrientedOn (compareRows keys) rows) ∧
    ((∀ keys : List OrderKey, (∀ key ∈ keys, key.column ∈ columns) →
        IsPreorderOn (compareRows keys) rows) ↔
      ∀ column ∈ columns, ¬Blurs (rows.map (cell · column))) := by
  have hcells : ∀ column ∈ columns, ∀ a ∈ rows.map (cell · column), IsWhole a := by
    intro column hcolumn a ha
    obtain ⟨row, hrow, rfl⟩ := List.mem_map.mp ha
    exact hwhole row hrow column hcolumn
  refine ⟨fun keys hkeys => ?_, fun hsorts column hcolumn hblurs => ?_, fun hclear keys hkeys => ?_⟩
  · exact isOrientedOn_compareRows fun key hkey =>
      isOrientedOn_compareCells (hcells _ (hkeys key hkey))
  · refine not_isPreorderOn_compareRows (fun row hrow => hwhole row hrow column hcolumn) hblurs ?_
    exact hsorts _ (by simpa using hcolumn)
  · exact isPreorderOn_compareRows fun key hkey =>
      isPreorderOn_compareCells (hcells _ (hkeys key hkey)) (hclear _ (hkeys key hkey))

/-- A column may hold the greatest integer of 64 bits with a sign, the next one and null. -/
theorem isPreorderOn_compareRows_sparse :
    IsPreorderOn (compareRows [{ column := "n", direction := .descending }])
      [[("n", .number (.int 9223372036854775807))], [("n", .number (.int 9223372036854775808))],
        [("n", .number (.int 9007199254740993))], [("n", .null)]] := by
  have hwhole : ∀ row ∈ [[("n", Json.number (.int 9223372036854775807))],
      [("n", .number (.int 9223372036854775808))], [("n", .number (.int 9007199254740993))],
      [("n", .null)]], ∀ column ∈ ["n"], IsWhole (cell row column) := by decide
  refine (isPreorderOn_compareRows_iff hwhole).2.mpr ?_ _ (by simp)
  -- only one of the integers is among the last 512 below `2 ^ 63`
  rintro column hcolumn ⟨m, n, u, hm, hn, -, hlow, hlt, hhigh, -⟩
  rw [List.mem_singleton] at hcolumn
  subst hcolumn
  simp only [List.map_cons, List.map_nil, cell, Json.getField?, List.lookup_cons_self,
    Option.getD_some, List.mem_cons, Json.number.injEq, Json.Number.int.injEq, reduceCtorEq,
    List.not_mem_nil, or_false] at hm hn
  omega

/-- The two greatest integers of 64 bits with a sign are both equal to the next one. -/
theorem not_forall_isPreorderOn_compareRows :
    ¬∀ (keys : List OrderKey) (rows : List Row),
      (∀ row ∈ rows, ∀ entry ∈ row, IsWhole entry.2) → IsPreorderOn (compareRows keys) rows := by
  intro hsorts
  let rows : List Row := [[("n", .number (.int 9223372036854775806))],
    [("n", .number (.int 9223372036854775807))], [("n", .number (.int 9223372036854775808))]]
  have hblurs : Blurs (rows.map (cell · "n")) :=
    ⟨9223372036854775806, 9223372036854775807, 9223372036854775808, List.mem_cons_self,
      List.mem_cons_of_mem _ List.mem_cons_self,
      List.mem_cons_of_mem _ (List.mem_cons_of_mem _ List.mem_cons_self), by norm_num [Blurred]⟩
  exact not_isPreorderOn_compareRows (by decide) hblurs (hsorts _ rows (by decide))

end Rows

end Store

end SqlGateway
