import Mathlib
import SqlGateway.Decimal.Float

/-!
# The double nearest to a whole number

A double keeps the 53 leading bits of a whole number; what it drops is rounded to the nearest, and
to the even one of two that are equally near.  `rounded` states this on whole numbers, and
`isPositive_nearestFloat` says that it is the value of the double that is computed: the logical
model of `Float` shifts the number until 53 bits are left, rounds, and shifts once more if the
rounding has carried into a bit in front.  Doubles of whole numbers are then compared by comparing
the rounded numbers, whatever their exponents (`Denotes.compare_eq`).

A number below `2 ^ 53` takes a way of its own through the conversion, as a machine word times one.
Both ways end in `roundWithAccuracy`, so one lemma about it, `isPositive_roundWithAccuracy`, serves
both.
-/

namespace SqlGateway.Decimal

open Float.Model Float.Model.UnpackedFloat

/-! ### Rounding whole numbers -/

/-- The number `n / 2 ^ places`, rounded to the nearest whole number, and to the even one of two. -/
def halfEven (n places : Nat) : Nat :=
  let quotient := n / 2 ^ places
  let dropped := n % 2 ^ places
  if 2 * dropped < 2 ^ places then quotient
  else if 2 ^ places < 2 * dropped then quotient + 1
  else quotient + quotient % 2

/-- A whole number with all but its 53 leading bits rounded away. -/
def rounded (n : Nat) : Nat :=
  halfEven n (n.log2 - 52) * 2 ^ (n.log2 - 52)

/-- An integer with all but the 53 leading bits of its magnitude rounded away. -/
def roundedInt (n : Int) : Int :=
  if n < 0 then -(rounded n.natAbs : Int) else rounded n.natAbs

theorem halfEven_zero (n : Nat) : halfEven n 0 = n := by
  simp [halfEven, Nat.mod_one]

theorem le_halfEven (n places : Nat) : n / 2 ^ places ≤ halfEven n places := by
  unfold halfEven
  dsimp only
  split
  · omega
  · split <;> omega

theorem halfEven_le (n places : Nat) : halfEven n places ≤ n / 2 ^ places + 1 := by
  unfold halfEven
  dsimp only
  split
  · omega
  · split <;> omega

/-- Zeros behind a number do not change what it is rounded to. -/
theorem halfEven_mul (n places more : Nat) :
    halfEven (n * 2 ^ more) (places + more) = halfEven n places := by
  have hpos := Nat.two_pow_pos more
  have hquotient : n * 2 ^ more / 2 ^ (places + more) = n / 2 ^ places := by
    rw [Nat.pow_add, Nat.mul_div_mul_right _ _ hpos]
  have hdropped : n * 2 ^ more % 2 ^ (places + more) = n % 2 ^ places * 2 ^ more := by
    rw [Nat.pow_add, Nat.mul_mod_mul_right]
  have hbelow : 2 * (n % 2 ^ places * 2 ^ more) < 2 ^ places * 2 ^ more ↔
      2 * (n % 2 ^ places) < 2 ^ places := by
    rw [← Nat.mul_assoc, Nat.mul_lt_mul_right hpos]
  have habove : 2 ^ places * 2 ^ more < 2 * (n % 2 ^ places * 2 ^ more) ↔
      2 ^ places < 2 * (n % 2 ^ places) := by
    rw [← Nat.mul_assoc, Nat.mul_lt_mul_right hpos]
  unfold halfEven
  simp only [hquotient, hdropped]
  simp only [Nat.pow_add, hbelow, habove]

theorem log2_mul_two_pow {n : Nat} (hn : n ≠ 0) (more : Nat) :
    (n * 2 ^ more).log2 = n.log2 + more := by
  obtain ⟨hlow, hhigh⟩ := (Nat.log2_eq_iff hn).mp rfl
  have hpos := Nat.two_pow_pos more
  refine (Nat.log2_eq_iff (Nat.mul_ne_zero hn hpos.ne')).mpr ⟨?_, ?_⟩
  · rw [Nat.pow_add]
    exact Nat.mul_le_mul_right _ hlow
  · rw [Nat.add_right_comm, Nat.pow_add]
    exact Nat.mul_lt_mul_of_pos_right hhigh hpos

theorem rounded_of_lt {n : Nat} (hn : n < 2 ^ 53) : rounded n = n := by
  have hplaces : n.log2 - 52 = 0 := by
    rcases Nat.eq_zero_or_pos n with rfl | hpos
    · rfl
    · have hbits := (Nat.log2_lt hpos.ne').mpr hn
      omega
  rw [rounded, hplaces, halfEven_zero, Nat.pow_zero, Nat.mul_one]

/-! ### Rounding as the format does it -/

/-- The bits that a shift drops are kept as two: the first one, and whether any other is set. -/
theorem shiftRight_succ (n places : Nat) :
    (⟨n, false, false⟩ : ExtendedMantissa) >>> (places + 1) =
      ⟨n / 2 ^ (places + 1), n / 2 ^ places % 2 != 0, n % 2 ^ places != 0⟩ := by
  induction places with
  | zero => simp [HShiftRight.hShiftRight, Nat.repeat, ExtendedMantissa.shiftRightOne, Nat.mod_one]
  | succ places ih =>
      have hquotient : n / 2 ^ (places + 1) / 2 = n / 2 ^ (places + 1 + 1) := by
        rw [Nat.div_div_eq_div_mul, ← Nat.pow_succ]
      have hdropped : (n / 2 ^ places % 2 != 0 || n % 2 ^ places != 0) =
          (n % 2 ^ (places + 1) != 0) := by
        have hpos : 2 ^ places ≠ 0 := (Nat.two_pow_pos places).ne'
        rw [Nat.mod_pow_succ, Bool.eq_iff_iff]
        simp only [Bool.or_eq_true, bne_iff_ne, ne_eq, Nat.add_eq_zero_iff, Nat.mul_eq_zero, hpos,
          false_or]
        tauto
      change ((⟨n, false, false⟩ : ExtendedMantissa) >>> (places + 1)).shiftRightOne = _
      rw [ih, ExtendedMantissa.shiftRightOne]
      simp only [hquotient, hdropped]

theorem mantissa_shiftRight (n places : Nat) :
    ((⟨n, false, false⟩ : ExtendedMantissa) >>> places).mantissa = n / 2 ^ places := by
  cases places with
  | zero => exact (Nat.div_one n).symm
  | succ places => rw [shiftRight_succ]

/-- The two bits kept of those that were dropped suffice to round. -/
theorem roundedMantissa_shiftRight (n places : Nat) :
    ((⟨n, false, false⟩ : ExtendedMantissa) >>> places).roundedMantissa = halfEven n places := by
  cases places with
  | zero =>
      rw [halfEven_zero]
      rfl
  | succ places =>
      have hsplit : n % 2 ^ (places + 1) = n % 2 ^ places + 2 ^ places * (n / 2 ^ places % 2) :=
        Nat.mod_pow_succ
      have hlow : n % 2 ^ places < 2 ^ places := Nat.mod_lt _ (Nat.two_pow_pos places)
      have hpower : 2 ^ (places + 1) = 2 * 2 ^ places := by omega
      rw [shiftRight_succ, halfEven, hsplit, hpower]
      rcases Nat.mod_two_eq_zero_or_one (n / 2 ^ places) with hbit | hbit <;>
        rcases Nat.eq_zero_or_pos (n % 2 ^ places) with hrest | hrest
      · simp [hbit, hrest, ExtendedMantissa.roundedMantissa, ExtendedMantissa.accuracy,
          Accuracy.roundToNearestEven]
      · have hset : (n % 2 ^ places != 0) = true := bne_iff_ne.mpr hrest.ne'
        simp [hbit, hset, hlow, ExtendedMantissa.roundedMantissa, ExtendedMantissa.accuracy,
          Accuracy.roundToNearestEven]
      · simp [hbit, hrest, ExtendedMantissa.roundedMantissa, ExtendedMantissa.accuracy,
          Accuracy.roundToNearestEven]
      · have hset : (n % 2 ^ places != 0) = true := bne_iff_ne.mpr hrest.ne'
        simp [hbit, hset, hrest, ExtendedMantissa.roundedMantissa, ExtendedMantissa.accuracy,
          Accuracy.roundToNearestEven]

/-- A number is shifted until 53 bits are left. -/
theorem shiftToTargetExponent_exact {n places : Nat} (exponent : Int)
    (hbits : n.log2 = 52 + places) (hleast : -1074 ≤ exponent + places) :
    shiftToTargetExponent Format.binary64 n exponent .exact =
      ((⟨n, false, false⟩ : ExtendedMantissa) >>> places, exponent + places) := by
  have htarget : Format.binary64.targetExponent (totalExponent n exponent) = exponent + places := by
    simp only [Format.targetExponent, totalExponent, Format.mantissaBits, Format.minExponent, hbits]
    norm_num
    omega
  have hshift : (exponent + (places : Int) - exponent).toNat = places := by omega
  simp only [shiftToTargetExponent, htarget, shiftToExponent, hshift,
    ExtendedMantissa.ofMantissaAndAccuracy]

/-- Rounding takes a second shift, by `again` places: the rounded number may have one bit more. -/
theorem roundWithAccuracy_eq_finite (sign : Sign) {n places again : Nat} (exponent : Int)
    (hbits : n.log2 = 52 + places) (hagain : (halfEven n places).log2 = 52 + again)
    (hleast : -1074 ≤ exponent) (hpos : 0 < halfEven n places / 2 ^ again) :
    roundWithAccuracy Format.binary64 sign n exponent .exact =
      .finite sign (halfEven n places / 2 ^ again) (exponent + places + again) hpos := by
  have hfirst := shiftToTargetExponent_exact exponent hbits (by omega)
  have hsecond := shiftToTargetExponent_exact (exponent + places) hagain (by omega)
  unfold roundWithAccuracy
  simp only [hfirst, roundedMantissa_shiftRight, hsecond, mantissa_shiftRight]
  exact dif_neg hpos.ne'

/-! ### Doubles that use all their bits -/

/-- The significand has 53 bits, and the exponent is one that a double can have. -/
structure IsNormal (significand : Nat) (exponent : Int) : Prop where
  low : 2 ^ 52 ≤ significand
  high : significand < 2 ^ 53
  least : -1074 ≤ exponent
  greatest : exponent ≤ 971

section IsNormal

variable {m : Nat} {e : Int}

theorem IsNormal.pos (hnormal : IsNormal m e) : 0 < m :=
  Nat.lt_of_lt_of_le (by decide) hnormal.low

theorem IsNormal.log2 (hnormal : IsNormal m e) : m.log2 = 52 :=
  (Nat.log2_eq_iff hnormal.pos.ne').mpr ⟨hnormal.low, hnormal.high⟩

/-- A normal double survives being stored in 64 bits. -/
theorem IsNormal.unpack_pack (hnormal : IsNormal m e) (sign : Sign) :
    (Float.Model.pack (.finite sign m e hnormal.pos)).unpack = .finite sign m e hnormal.pos := by
  have ⟨hlow, hhigh, hleast, hgreatest⟩ := hnormal
  have hbiased : (BitVec.ofNat 11 (e + 1023 + 52).toNat).toNat = (e + 1075).toNat := by
    rw [BitVec.toNat_ofNat]
    omega
  -- neither of the exponents that mark zeros, infinities and the like
  have hmost : BitVec.ofNat 11 (e + 1023 + 52).toNat ≠ -1#11 := by
    intro heq
    have hvalue := congrArg BitVec.toNat heq
    rw [hbiased, show (-1#11).toNat = 2047 from rfl] at hvalue
    omega
  have hzero : BitVec.ofNat 11 (e + 1023 + 52).toNat ≠ 0#11 := by
    intro heq
    have hvalue := congrArg BitVec.toNat heq
    rw [hbiased, show (0#11).toNat = 0 from rfl] at hvalue
    omega
  have hmantissa : (1#1 ++ BitVec.ofNat 52 m).toNat = m := by
    rw [BitVec.toNat_append, ← Nat.shiftLeft_add_eq_or_of_lt (BitVec.isLt _), BitVec.toNat_ofNat,
      Nat.shiftLeft_eq, BitVec.toNat_ofNat]
    omega
  have hpacked : UnpackedFloat.pack Format.binary64 (.finite sign m e hnormal.pos) =
      packComponents Format.binary64 sign (BitVec.ofNat 11 (e + 1023 + 52).toNat)
        (BitVec.ofNat 52 m) := by
    have hfits : ¬2 ^ 11 ≤ (e + 1023 + 52).toNat + 1 := by omega
    have hfull : m.log2 + 1 = Format.binary64.mantissaBits := by
      rw [hnormal.log2]
      rfl
    exact (if_neg hfits).trans (if_pos hfull)
  change UnpackedFloat.unpack Format.binary64
    (UnpackedFloat.pack Format.binary64 (.finite sign m e hnormal.pos)) = _
  rw [hpacked, UnpackedFloat.unpack]
  simp only [unpackExponent_packComponents, unpackMantissa_packComponents,
    unpackSign_packComponents, Sign.ofBitVec_toBitVec, hmost, hzero, if_false, hmantissa, hbiased,
    Format.exponentBias]
  norm_num
  omega

end IsNormal

/-- A positive normal double whose value is a whole number.  Its unit is `2 ^ (p - 52)`, so both
sides of the equation are whole even where the unit is a fraction. -/
def IsPositive (x : UnpackedFloat) (value : Nat) : Prop :=
  ∃ m p : Nat, ∃ hnormal : IsNormal m (p - 52), x = .finite .positive m (p - 52) hnormal.pos ∧
    m * 2 ^ p = value * 2 ^ 52

section IsPositive

variable {x y : UnpackedFloat} {value a b : Nat}

theorem IsPositive.pos (hx : IsPositive x value) : 0 < value := by
  obtain ⟨m, p, hnormal, -, hvalue⟩ := hx
  have hleft := Nat.mul_pos hnormal.pos (Nat.two_pow_pos p)
  exact Nat.pos_of_mul_pos_right (hvalue ▸ hleft)

theorem IsPositive.unpack_pack (hx : IsPositive x value) : (Float.Model.pack x).unpack = x := by
  obtain ⟨m, p, hnormal, rfl, -⟩ := hx
  exact hnormal.unpack_pack .positive

/-- Multiplying by one changes nothing. -/
theorem IsPositive.mul_one (hx : IsPositive x value) :
    UnpackedFloat.mul Format.binary64 x (.finite .positive (2 ^ 52) (-52) (by decide)) = x := by
  obtain ⟨m, p, hnormal, rfl, -⟩ := hx
  have hbits : (m * 2 ^ 52).log2 = 52 + 52 := by
    rw [log2_mul_two_pow hnormal.pos.ne', hnormal.log2]
  have hkept : halfEven (m * 2 ^ 52) 52 = m := by
    have hmul := halfEven_mul m 0 52
    rwa [halfEven_zero] at hmul
  have hagain : (halfEven (m * 2 ^ 52) 52).log2 = 52 + 0 := by rw [hkept, hnormal.log2]
  have hround := roundWithAccuracy_eq_finite .positive (p - 52 + -52) hbits hagain
    (by omega) (by rw [hkept]; simpa using hnormal.pos)
  have hexponent : (p : Int) - 52 + -52 + (52 : Nat) + (0 : Nat) = p - 52 := by omega
  simp only [hkept, hexponent, Nat.pow_zero, Nat.div_one] at hround
  exact hround

/-- Rounding gives the double of the value that the rounded number stands for. -/
theorem isPositive_roundWithAccuracy {n places p : Nat} {exponent : Int}
    (hbits : n.log2 = 52 + places) (hp : exponent + places = p - 52) (hleast : -1074 ≤ exponent)
    (hgreatest : p ≤ 1000) (hvalue : halfEven n places * 2 ^ p = value * 2 ^ 52) :
    IsPositive (roundWithAccuracy Format.binary64 .positive n exponent .exact) value := by
  have hne : n ≠ 0 := by
    rintro rfl
    rw [Nat.log2_zero] at hbits
    omega
  obtain ⟨hlow, hhigh⟩ := (Nat.log2_eq_iff hne).mp hbits
  have hquotient : 2 ^ 52 ≤ n / 2 ^ places ∧ n / 2 ^ places < 2 ^ 53 := by
    rw [Nat.le_div_iff_mul_le (Nat.two_pow_pos places),
      Nat.div_lt_iff_lt_mul (Nat.two_pow_pos places), ← Nat.pow_add, ← Nat.pow_add]
    refine ⟨hlow, ?_⟩
    rwa [Nat.add_right_comm] at hhigh
  have hfloor := le_halfEven n places
  have hceiling := halfEven_le n places
  rcases Nat.lt_or_ge (halfEven n places) (2 ^ 53) with hfits | hcarry
  · have hagain : (halfEven n places).log2 = 52 + 0 :=
      (Nat.log2_eq_iff (by omega)).mpr ⟨by omega, by omega⟩
    have hnormal : IsNormal (halfEven n places) (p - 52) :=
      ⟨by omega, by omega, by omega, by omega⟩
    have hround := roundWithAccuracy_eq_finite .positive exponent hbits hagain hleast
      (by simpa using hnormal.pos)
    exact ⟨_, p, hnormal, by simpa [hp] using hround, hvalue⟩
  · have hrounded : halfEven n places = 2 ^ 53 := by omega
    have hagain : (halfEven n places).log2 = 52 + 1 := by rw [hrounded, Nat.log2_two_pow]
    have hhalf : halfEven n places / 2 ^ 1 = 2 ^ 52 := by
      rw [hrounded]
      decide
    have hexponent : exponent + (places : Int) + (1 : Nat) = ((p + 1 : Nat) : Int) - 52 := by omega
    have hnormal : IsNormal (2 ^ 52) ((p + 1 : Nat) - 52) :=
      ⟨by omega, by omega, by omega, by omega⟩
    have hround := roundWithAccuracy_eq_finite .positive exponent hbits hagain hleast (by omega)
    refine ⟨_, p + 1, hnormal, by simpa only [hhalf, hexponent] using hround, ?_⟩
    rw [← hvalue, hrounded]
    ring

/-! ### Whole numbers as doubles -/

/-- A whole number below `2 ^ 53` is a double itself. -/
theorem isPositive_ofNat {n : Nat} (hpos : 0 < n) (hn : n < 2 ^ 53) :
    IsPositive (UnpackedFloat.ofNat Format.binary64 n) n := by
  have hbits : n.log2 < 53 := (Nat.log2_lt hpos.ne').mpr hn
  have hshifted : (n * 2 ^ (52 - n.log2)).log2 = 52 + 0 := by
    rw [log2_mul_two_pow hpos.ne']
    omega
  have hround : UnpackedFloat.ofNat Format.binary64 n =
      roundWithAccuracy Format.binary64 .positive (n * 2 ^ (52 - n.log2)) (-(52 - n.log2 : Nat))
        .exact := by
    have hcompare : compare (n : Int) 0 = .gt := Int.compare_eq_gt.mpr (by omega)
    have htarget : Format.binary64.targetExponent (totalExponent n 0) = -(52 - n.log2 : Nat) := by
      simp only [Format.targetExponent, totalExponent, Format.mantissaBits, Format.minExponent]
      norm_num
      omega
    have hshift : (0 - -((52 - n.log2 : Nat) : Int)).toNat = 52 - n.log2 := by omega
    unfold UnpackedFloat.ofNat UnpackedFloat.ofInt UnpackedFloat.normalize
    simp only [hcompare, UnpackedFloat.round, Int.toNat_natCast, htarget, decreaseExponent, hshift,
      Nat.shiftLeft_eq]
    congr 1
    omega
  rw [hround]
  refine isPositive_roundWithAccuracy (p := n.log2) hshifted (by omega) (by omega) (by omega) ?_
  rw [halfEven_zero, Nat.mul_assoc, ← Nat.pow_add, Nat.sub_add_cancel (by omega)]

theorem isPositive_ofScientific_of_lt {n : Nat} (hpos : 0 < n) (hn : n < 2 ^ 53) :
    IsPositive (Float.ofScientific n false 0).toModel.unpack n := by
  have hx := isPositive_ofNat hpos hn
  have hfast : n < 2 ^ 53 ∧ 0 ≤ 22 := ⟨hn, by decide⟩
  have hproduct : Float.ofScientific n false 0 =
      n.toUInt64.toFloat * Float.ofBits 0x3FF0000000000000 := dif_pos hfast
  have hword : n.toUInt64.toNat = n := by
    rw [Nat.toUInt64, UInt64.toNat_ofNat']
    omega
  have hleft : n.toUInt64.toFloat.toModel.unpack = UnpackedFloat.ofNat Format.binary64 n := by
    change (Float.Model.pack (UnpackedFloat.ofNat Format.binary64 n.toUInt64.toNat)).unpack = _
    rw [hword, hx.unpack_pack]
  have hone : (Float.ofBits 0x3FF0000000000000).toModel.unpack =
      .finite .positive (2 ^ 52) (-52) (by decide) := rfl
  rw [hproduct]
  change IsPositive (Float.Model.pack (UnpackedFloat.mul Format.binary64
    n.toUInt64.toFloat.toModel.unpack (Float.ofBits 0x3FF0000000000000).toModel.unpack)).unpack n
  rw [hleft, hone, hx.mul_one, hx.unpack_pack]
  exact hx

theorem isPositive_ofScientific_of_le {n : Nat} (hn : 2 ^ 53 ≤ n) (hlt : n < 2 ^ 64) :
    IsPositive (Float.ofScientific n false 0).toModel.unpack (rounded n) := by
  have hne : n ≠ 0 := by omega
  have hlow : 53 ≤ n.log2 := (Nat.le_log2 hne).mpr hn
  have hhigh : n.log2 < 64 := (Nat.log2_lt hne).mpr hlt
  have hbits : (n * 2 ^ 53).log2 = 52 + (n.log2 + 1) := by
    rw [log2_mul_two_pow hne]
    omega
  have hx : IsPositive (roundWithAccuracy Format.binary64 .positive (n * 2 ^ 53) (-53) .exact)
      (rounded n) := by
    refine isPositive_roundWithAccuracy (p := n.log2 - 52 + 52) hbits (by omega) (by omega)
      (by omega) ?_
    have hplaces : n.log2 + 1 = n.log2 - 52 + 53 := by omega
    rw [hplaces, halfEven_mul, rounded, Nat.pow_add, Nat.mul_assoc]
  have hround : UnpackedFloat.ofScientific Format.binary64 n 0 =
      roundWithAccuracy Format.binary64 .positive (n * 2 ^ 53) (-53) .exact := by
    have hleast : ¬(0 : Int) < -((2 ^ 11 : Int) + n.log2) := by omega
    unfold UnpackedFloat.ofScientific
    rw [dif_neg hne, if_neg (by decide), if_neg hleast, if_pos (by decide)]
    change roundWithAccuracy Format.binary64 .positive (n <<< 53 * 1) (-53 + 0) .exact = _
    rw [Nat.shiftLeft_eq, Nat.mul_one]
    rfl
  have hslow : ¬(n < 2 ^ 53 ∧ 0 ≤ 22) := by omega
  have hmodel : (Float.ofScientific n false 0).toModel =
      Float.Model.pack (UnpackedFloat.ofScientific Format.binary64 n 0) :=
    congrArg Float.toModel (dif_neg hslow)
  rw [hmodel, hround, hx.unpack_pack]
  exact hx

/-- The double nearest to a positive whole number of 64 bits has the value of the rounded number. -/
theorem isPositive_nearestFloat {n : Nat} (hpos : 0 < n) (hn : n < 2 ^ 64) :
    IsPositive (nearestFloat n 0).toModel.unpack (rounded n) := by
  have hlength : (Nat.toDigits 10 n).length ≤ 20 :=
    (Nat.length_toDigits_le_iff (by decide) (by decide)).mpr (by omega)
  have hplain : nearestFloat n 0 = Float.ofScientific n false 0 := by
    unfold nearestFloat
    rw [if_neg hpos.ne']
    simp only
    rw [if_neg (by omega), if_neg (by omega)]
    rfl
  rw [hplain]
  rcases Nat.lt_or_ge n (2 ^ 53) with hsmall | hlarge
  · rw [rounded_of_lt hsmall]
    exact isPositive_ofScientific_of_lt hpos hsmall
  · exact isPositive_ofScientific_of_le hlarge hn

/-! ### The order of positive doubles -/

/-- Significands of 53 bits with units that are powers of two compare by the units first. -/
theorem compare_mul_two_pow {m n p q : Nat} (hm : 2 ^ 52 ≤ m ∧ m < 2 ^ 53)
    (hn : 2 ^ 52 ≤ n ∧ n < 2 ^ 53) :
    (compare p q).then (compare m n) = compare (m * 2 ^ p) (n * 2 ^ q) := by
  have hless : ∀ {m n p q : Nat}, m < 2 ^ 53 → 2 ^ 52 ≤ n → p < q → m * 2 ^ p < n * 2 ^ q := by
    intro m n p q hm hn hpq
    calc m * 2 ^ p < 2 ^ 53 * 2 ^ p := Nat.mul_lt_mul_of_pos_right hm (Nat.two_pow_pos p)
      _ = 2 ^ 52 * 2 ^ (p + 1) := by ring
      _ ≤ n * 2 ^ q := Nat.mul_le_mul hn (Nat.pow_le_pow_right (by decide) hpq)
  rcases Nat.lt_trichotomy p q with hpq | rfl | hqp
  · rw [Nat.compare_eq_lt.mpr hpq, Nat.compare_eq_lt.mpr (hless hm.2 hn.1 hpq)]
    rfl
  · rw [Nat.compare_eq_eq.mpr rfl, Ordering.eq_then, ← cmp_eq_compare, ← cmp_eq_compare]
    exact (cmp_mul_pos_right (Nat.two_pow_pos p) m n).symm
  · rw [Nat.compare_eq_gt.mpr hqp, Nat.compare_eq_gt.mpr (hless hn.2 hm.1 hqp)]
    rfl

theorem IsPositive.compare_eq (hx : IsPositive x a) (hy : IsPositive y b) :
    x.compare y = some (compare a b) := by
  obtain ⟨m, p, hm, rfl, ha⟩ := hx
  obtain ⟨n, q, hn, rfl, hb⟩ := hy
  have hexponents : compare ((p : Int) - 52) (q - 52) = compare p q := by
    have hmono : StrictMono fun p : Nat => (p : Int) - 52 := fun p q hpq => by simpa using hpq
    rw [← cmp_eq_compare, ← cmp_eq_compare]
    exact hmono.cmp_map_eq p q
  have hvalues : compare (a * 2 ^ 52) (b * 2 ^ 52) = compare a b := by
    rw [← cmp_eq_compare, ← cmp_eq_compare]
    exact cmp_mul_pos_right (by decide) a b
  change some ((compare ((p : Int) - 52) (q - 52)).then (compare m n)) = _
  rw [hexponents, compare_mul_two_pow ⟨hm.low, hm.high⟩ ⟨hn.low, hn.high⟩, ha, hb, hvalues]

end IsPositive

/-! ### Integers as doubles -/

/-- A double whose value is an integer. -/
inductive Denotes : UnpackedFloat → Int → Prop
  | zero : Denotes (.zero .positive) 0
  | positive {x : UnpackedFloat} {value : Nat} : IsPositive x value → Denotes x value
  | negative {x : UnpackedFloat} {value : Nat} : IsPositive x value → Denotes x.neg (-value)

/-- The double nearest to an integer of 64 bits has the value of the rounded integer. -/
theorem denotes_floatOfInt {n : Int} (hn : n.natAbs < 2 ^ 64) :
    Denotes (floatOfInt n).toModel.unpack (roundedInt n) := by
  rcases Int.lt_trichotomy n 0 with hneg | rfl | hpos
  · have hx := isPositive_nearestFloat (n := n.natAbs) (by omega) hn
    have hunpack : (floatOfInt n).toModel.unpack =
        (nearestFloat n.natAbs 0).toModel.unpack.neg := by
      rw [floatOfInt, if_pos hneg]
      change (Float.Model.pack (nearestFloat n.natAbs 0).toModel.unpack.neg).unpack = _
      obtain ⟨m, p, hnormal, heq, -⟩ := hx
      rw [heq]
      exact hnormal.unpack_pack .negative
    rw [hunpack, roundedInt, if_pos hneg]
    exact .negative hx
  · exact .zero
  · have hx := isPositive_nearestFloat (n := n.natAbs) (by omega) hn
    rw [floatOfInt, roundedInt, if_neg (by omega), if_neg (by omega)]
    exact .positive hx

theorem compare_natCast (a b : Nat) : compare (a : Int) b = compare a b := by
  rw [← cmp_eq_compare, ← cmp_eq_compare]
  exact Nat.strictMono_cast.cmp_map_eq a b

theorem compare_neg_neg (a b : Int) : compare (-a) (-b) = (compare a b).swap := by
  rcases Int.lt_trichotomy a b with hab | rfl | hba
  · rw [Int.compare_eq_lt.mpr hab, Int.compare_eq_gt.mpr (Int.neg_lt_neg hab)]
    rfl
  · rw [Int.compare_eq_eq.mpr rfl, Int.compare_eq_eq.mpr rfl]
    rfl
  · rw [Int.compare_eq_gt.mpr hba, Int.compare_eq_lt.mpr (Int.neg_lt_neg hba)]
    rfl

/-- Doubles of integers compare as the integers do. -/
theorem Denotes.compare_eq {x y : UnpackedFloat} {a b : Int} (hx : Denotes x a)
    (hy : Denotes y b) : x.compare y = some (compare a b) := by
  cases hx with
  | zero =>
      cases hy with
      | zero => rfl
      | positive hy =>
          have hpos := hy.pos
          obtain ⟨n, q, hn, rfl, -⟩ := hy
          rw [Int.compare_eq_lt.mpr (by omega)]
          rfl
      | negative hy =>
          have hpos := hy.pos
          obtain ⟨n, q, hn, rfl, -⟩ := hy
          rw [Int.compare_eq_gt.mpr (by omega)]
          rfl
  | positive hx =>
      have hpos := hx.pos
      cases hy with
      | zero =>
          obtain ⟨m, p, hm, rfl, -⟩ := hx
          rw [Int.compare_eq_gt.mpr (by omega)]
          rfl
      | positive hy => rw [hx.compare_eq hy, compare_natCast]
      | negative hy =>
          obtain ⟨m, p, hm, rfl, -⟩ := hx
          obtain ⟨n, q, hn, rfl, -⟩ := hy
          rw [Int.compare_eq_gt.mpr (by omega)]
          rfl
  | negative hx =>
      have hpos := hx.pos
      cases hy with
      | zero =>
          obtain ⟨m, p, hm, rfl, -⟩ := hx
          rw [Int.compare_eq_lt.mpr (by omega)]
          rfl
      | positive hy =>
          obtain ⟨m, p, hm, rfl, -⟩ := hx
          obtain ⟨n, q, hn, rfl, -⟩ := hy
          rw [Int.compare_eq_lt.mpr (by omega)]
          rfl
      | negative hy =>
          have horder := hx.compare_eq hy
          obtain ⟨m, p, hm, rfl, -⟩ := hx
          obtain ⟨n, q, hn, rfl, -⟩ := hy
          rw [compare_neg_neg, compare_natCast, ← Option.some.inj horder]
          rfl

/-! ### Around the greatest signed integer -/

/-- Below `2 ^ 63` the doubles are `1024` apart, so the last `512` numbers are rounded up to it. -/
theorem rounded_le {n : Nat} (hn : n < 2 ^ 63) :
    rounded n ≤ 2 ^ 63 ∧ (rounded n = 2 ^ 63 ↔ 2 ^ 63 - 512 ≤ n) := by
  rcases Nat.lt_or_ge n (2 ^ 62) with hsmall | hlarge
  · have hplaces : n.log2 - 52 ≤ 9 := by
      rcases Nat.eq_zero_or_pos n with rfl | hpos
      · decide
      · have hbits := (Nat.log2_lt hpos.ne').mpr hsmall
        omega
    have hunit : 2 ^ (n.log2 - 52) ≤ 2 ^ 9 := Nat.pow_le_pow_right (by decide) hplaces
    have hnear : rounded n ≤ n + 2 ^ (n.log2 - 52) := by
      calc rounded n ≤ (n / 2 ^ (n.log2 - 52) + 1) * 2 ^ (n.log2 - 52) :=
            Nat.mul_le_mul_right _ (halfEven_le _ _)
        _ = n / 2 ^ (n.log2 - 52) * 2 ^ (n.log2 - 52) + 2 ^ (n.log2 - 52) := by ring
        _ ≤ n + 2 ^ (n.log2 - 52) := Nat.add_le_add_right (Nat.div_mul_le_self _ _) _
    omega
  · have hbits : n.log2 = 62 := (Nat.log2_eq_iff (by omega)).mpr ⟨hlarge, hn⟩
    rw [rounded, hbits, halfEven]
    norm_num
    split
    · omega
    · split <;> omega

/-- Above `2 ^ 63` the doubles are `2048` apart, so the first `1024` numbers behind it are rounded
down to it. -/
theorem le_rounded {n : Nat} (hn : 2 ^ 63 ≤ n) (hlt : n < 2 ^ 64) :
    2 ^ 63 ≤ rounded n ∧ (rounded n = 2 ^ 63 ↔ n ≤ 2 ^ 63 + 1024) := by
  have hbits : n.log2 = 63 := (Nat.log2_eq_iff (by omega)).mpr ⟨hn, hlt⟩
  rw [rounded, hbits, halfEven]
  norm_num
  split
  · omega
  · split <;> omega

theorem roundedInt_le {n : Int} (hn : n < 2 ^ 63) :
    roundedInt n ≤ 2 ^ 63 ∧ (roundedInt n = 2 ^ 63 ↔ 2 ^ 63 - 512 ≤ n) := by
  unfold roundedInt
  split
  · omega
  · have hrounded := rounded_le (n := n.natAbs) (by omega)
    omega

theorem le_roundedInt {n : Int} (hn : 2 ^ 63 ≤ n) (hlt : n < 2 ^ 64) :
    2 ^ 63 ≤ roundedInt n ∧ (roundedInt n = 2 ^ 63 ↔ n ≤ 2 ^ 63 + 1024) := by
  have hrounded := le_rounded (n := n.natAbs) (by omega) (by omega)
  rw [roundedInt, if_neg (by omega)]
  omega

end SqlGateway.Decimal
