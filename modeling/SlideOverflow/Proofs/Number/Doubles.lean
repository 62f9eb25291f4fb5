import Mathlib
import SlideOverflow.Number.Arithmetic

/-! How large doubles get. A finite double is less than `2 ^ 53` times its unit, and each operation
makes the unit larger by so much at most. The bounds are far from sharp, but tell for numbers of a
known length that the arithmetic on them stays finite. -/
namespace SlideOverflow.Number

open Float.Model Float.Model.UnpackedFloat

/-! ### Packing -/

def storedExponent (x : Float) : Nat := x.toBits.toNat / Nat.pow 2 52 % 2048

private theorem storedExponent_eq (x : Float) : storedExponent x =
    (@unpackExponent .binary64 x.toModel.toBits.toBitVec).toNat := by
  have hbits : x.toBits.toNat = x.toModel.toBits.toBitVec.toNat := rfl
  rw [storedExponent, hbits, unpackExponent]
  simp [BitVec.extractLsb, BitVec.extractLsb', Nat.shiftRight_eq_div_pow]

inductive HasUnit (e : Int) : UnpackedFloat → Prop where
  | zero (s : UnpackedFloat.Sign) : HasUnit e (.zero s)
  | finite {s : UnpackedFloat.Sign} {m : Nat} {e' : Int} {h : 0 < m} : e' ≤ e →
      HasUnit e (.finite s m e' h)

private theorem bias_eq : Format.binary64.exponentBias = 1023 := by decide

private theorem mantissaBits_eq : Format.binary64.mantissaBits = 53 := by decide

private theorem minExponent_eq : Format.binary64.minExponent = -1074 := by decide

/-- A unit that doubles have is stored as it is. -/
private theorem storedExponent_pack {e : Int} {u : UnpackedFloat} (h : HasUnit e u)
    (hlo : -1074 ≤ e) (hhi : e ≤ 971) : (storedExponent (.ofModel (.pack u)) : Int) ≤ e + 1075 := by
  have hpack : storedExponent (.ofModel (.pack u)) =
      (unpackExponent (UnpackedFloat.pack .binary64 u)).toNat := storedExponent_eq _
  rw [hpack]
  cases h with
  | zero s =>
    have hzero : unpackExponent (UnpackedFloat.pack .binary64 (.zero s)) = 0#_ :=
      unpackExponent_packComponents
    rw [hzero, BitVec.toNat_ofNat, Nat.zero_mod]
    omega
  | @finite s m e' hm he =>
    have hbias : e' + (Format.binary64.exponentBias : Nat) + (52 : Nat) = e' + 1075 := by
      rw [bias_eq]
      omega
    have hfits : ¬2 ^ 11 ≤ (e' + 1075).toNat + 1 := by omega
    rw [UnpackedFloat.pack, hbias]
    simp only [if_neg hfits]
    split
    · rw [unpackExponent_packComponents, BitVec.toNat_ofNat]
      have hmod := Nat.mod_le (e' + 1075).toNat (2 ^ 11)
      omega
    · rw [unpackExponent_packComponents, BitVec.toNat_ofNat, Nat.zero_mod]
      omega

/-- What is stored with an exponent other than the last one is finite, and has less than `2 ^ 53`
units. -/
private theorem unpack_cases {b : BitVec Format.binary64.numBits}
    (h : (unpackExponent b).toNat < 2047) :
    (∃ s, UnpackedFloat.unpack .binary64 b = .zero s) ∨
      ∃ s m e hm, UnpackedFloat.unpack .binary64 b = .finite s m e hm ∧ m < 2 ^ 53 ∧
        e ≤ max ((unpackExponent b).toNat : Int) 1 - 1075 := by
  have hbias := bias_eq
  have hwidth : Format.binary64.mantissaBitsWithoutImplicit = 52 := rfl
  have hlast : unpackExponent b ≠ -1#_ := by
    intro hlast
    rw [hlast] at h
    revert h
    decide
  fun_cases UnpackedFloat.unpack with
  | case1 mantissa exponent sign s hall hzero => exact absurd hall hlast
  | case2 mantissa exponent hall hzero => exact absurd hall hlast
  | case3 mantissa exponent sign s hall hleast hzero => exact .inl ⟨s, rfl⟩
  | case4 mantissa exponent e sign s hall hleast hzero =>
    have hfield : exponent.toNat = (unpackExponent b).toNat := rfl
    have hnone : exponent.toNat = 0 := by rw [hleast, BitVec.toNat_ofNat, Nat.zero_mod]
    exact .inr ⟨s, _, _, _, rfl, Nat.lt_trans mantissa.isLt (by decide), by omega⟩
  | case5 mantissa exponent e sign s hall hleast =>
    have hfield : exponent.toNat = (unpackExponent b).toNat := rfl
    exact .inr ⟨s, _, _, _, rfl, (1#1 ++ mantissa).isLt, by omega⟩

/-! ### Rounding -/

private theorem mantissa_shiftRight_le (em : ExtendedMantissa) (n : Nat) :
    (em >>> n).mantissa ≤ em.mantissa := by
  change (n.repeat ExtendedMantissa.shiftRightOne em).mantissa ≤ em.mantissa
  induction n with
  | zero => exact Nat.le_refl _
  | succ n ih => exact Nat.le_trans (Nat.div_le_self _ _) ih

private theorem roundedMantissa_le (em : ExtendedMantissa) :
    em.roundedMantissa ≤ em.mantissa + 1 := by
  obtain ⟨m, round, sticky⟩ := em
  cases round <;> cases sticky <;>
    simp only [ExtendedMantissa.roundedMantissa, ExtendedMantissa.accuracy,
      Accuracy.roundToNearestEven] <;> omega

/-- The unit that a mantissa of so many bits is brought to. -/
private theorem targetExponent_le {m k : Nat} {e : Int} (hm : m < 2 ^ k) (hk : 1 ≤ k) :
    Format.binary64.targetExponent (totalExponent m e) ≤ max (k + e - 53) (-1074) := by
  have hlog : m.log2 < k := by
    by_cases hzero : m = 0
    · rw [hzero, Nat.log2_zero]
      exact hk
    · exact (Nat.log2_lt hzero).mpr hm
  rw [Format.targetExponent, totalExponent, mantissaBits_eq, minExponent_eq]
  omega

/-- Rounding a mantissa of so many bits makes the unit larger by twice those that are too many. The
first shift takes them off, and the second one would take as many again. -/
private theorem hasUnit_round {s : UnpackedFloat.Sign} {m k : Nat} {e a : Int} (hm : m < 2 ^ k)
    (hk : 53 ≤ k) (he : e ≤ a) (ha : -1074 ≤ a + k - 53) :
    HasUnit (a + 2 * (k - 52)) (roundWithAccuracy .binary64 s m e .exact) := by
  rw [roundWithAccuracy]
  dsimp only
  split
  · exact .zero s
  · apply HasUnit.finite
    simp only [shiftToTargetExponent, shiftToExponent]
    have hfirst := @targetExponent_le m k e hm (by omega)
    generalize Format.binary64.targetExponent (totalExponent m e) = t at hfirst ⊢
    generalize hem : ExtendedMantissa.ofMantissaAndAccuracy m .exact = em
    have hmantissa : em.mantissa = m := by rw [← hem]; rfl
    have hrounded : (em >>> (t - e).toNat).roundedMantissa < 2 ^ (k + 1) := by
      have hone := roundedMantissa_le (em >>> (t - e).toNat)
      have hshift := mantissa_shiftRight_le em (t - e).toNat
      rw [Nat.pow_succ]
      omega
    have hsecond := @targetExponent_le _ (k + 1) (e + (t - e).toNat) hrounded (by omega)
    omega

/-! ### Operations -/

structure InUnits (e : Int) (x : Float) : Prop where
  least : -1074 ≤ e
  stored : (storedExponent x : Int) ≤ e + 1075

theorem InUnits.mono {x : Float} {a b : Int} (h : InUnits a x) (hab : a ≤ b) : InUnits b x :=
  ⟨Int.le_trans h.least hab, Int.le_trans h.stored (by omega)⟩

/-- Such a double is finite if there are units of the size. -/
theorem InUnits.unpack_cases {x : Float} {a : Int} (h : InUnits a x) (ha : a ≤ 971) :
    (∃ s, x.toModel.unpack = .zero s) ∨
      ∃ s m e hm, x.toModel.unpack = .finite s m e hm ∧ m < 2 ^ 53 ∧ e ≤ a := by
  have hleast := h.least
  have hstored := h.stored
  rw [storedExponent_eq] at hstored
  rcases Number.unpack_cases (b := x.toModel.toBits.toBitVec) (by omega) with
    hzero | ⟨s, m, e, hm, hx, hlt, he⟩
  · exact .inl hzero
  · exact .inr ⟨s, m, e, hm, hx, hlt, by omega⟩

theorem inUnits_mul {x y : Float} {a b : Int} (hx : InUnits a x) (hy : InUnits b y)
    (ha : a ≤ 971) (hb : b ≤ 971) (hlo : -1127 ≤ a + b) (hhi : a + b + 108 ≤ 971) :
    InUnits (a + b + 108) (x * y) := by
  refine ⟨by omega, storedExponent_pack ?_ (by omega) hhi⟩
  rcases hx.unpack_cases ha with ⟨s, hs⟩ | ⟨s, m, e, hm, hs, hlt, he⟩
  · rcases hy.unpack_cases hb with ⟨s', hs'⟩ | ⟨s', m', e', hm', hs', -⟩
    · rw [hs, hs']
      exact .zero _
    · rw [hs, hs']
      exact .zero _
  · rcases hy.unpack_cases hb with ⟨s', hs'⟩ | ⟨s', m', e', hm', hs', hlt', he'⟩
    · rw [hs, hs']
      exact .zero _
    · rw [hs, hs']
      have hproduct : m * m' < 2 ^ 106 := by
        calc
          m * m' < 2 ^ 53 * 2 ^ 53 := Nat.mul_lt_mul'' hlt hlt'
          _ = 2 ^ 106 := (Nat.pow_add ..).symm
      exact hasUnit_round hproduct (by omega) (by omega) (by omega)

/-- A whole number becomes longer by at most as many bits as a mantissa has, and is rounded then. -/
private theorem hasUnit_ofNat {n k : Nat} (hn : n < 2 ^ k) (hk : 1 ≤ k) :
    HasUnit (2 * k) (UnpackedFloat.ofNat .binary64 n) := by
  rw [UnpackedFloat.ofNat, UnpackedFloat.ofInt, UnpackedFloat.normalize]
  split
  · next hneg => exact absurd (Int.compare_eq_lt.mp hneg) (by omega)
  · exact .zero _
  · rw [UnpackedFloat.round, decreaseExponent]
    dsimp only
    generalize ht : Format.binary64.targetExponent _ = t
    have hlo : -52 ≤ t := by
      rw [Format.targetExponent, totalExponent, mantissaBits_eq, minExponent_eq] at ht
      omega
    have hshift : n <<< (0 - t).toNat < 2 ^ (k + 52) := by
      have hpow : 2 ^ (0 - t).toNat ≤ 2 ^ 52 := Nat.pow_le_pow_right (by decide) (by omega)
      calc
        n <<< (0 - t).toNat = n * 2 ^ (0 - t).toNat := Nat.shiftLeft_eq _ _
        _ < 2 ^ k * 2 ^ 52 := Nat.mul_lt_mul_of_lt_of_le hn hpow (by decide)
        _ = 2 ^ (k + 52) := (Nat.pow_add ..).symm
    have hround := @hasUnit_round .positive _ _ (0 - ((0 - t).toNat : Int)) 0 hshift (by omega)
      (by omega) (by omega)
    have hunit : (0 : Int) + 2 * ((k + 52 : Nat) - 52) = 2 * k := by omega
    rwa [hunit] at hround

private theorem hasUnit_ofScientific {n k : Nat} (hn : n < 2 ^ k) :
    HasUnit (2 * k) (UnpackedFloat.ofScientific .binary64 n 0) := by
  have hbits := mantissaBits_eq
  have hrange : (0 : Int) ≤ 2 ^ Format.binary64.exponentBits := by decide
  rw [UnpackedFloat.ofScientific]
  split
  · exact .zero _
  · rw [if_neg (by omega), if_neg (by omega), if_pos (Int.le_refl 0)]
    have hmantissa : n <<< Format.binary64.mantissaBits * 10 ^ (0 : Int).toNat < 2 ^ (k + 53) := by
      calc
        n <<< Format.binary64.mantissaBits * 10 ^ (0 : Int).toNat = n * 2 ^ 53 := by
          rw [hbits, Nat.shiftLeft_eq, Int.toNat_zero, Nat.pow_zero, Nat.mul_one]
        _ < 2 ^ k * 2 ^ 53 := Nat.mul_lt_mul_of_pos_right hn (by decide)
        _ = 2 ^ (k + 53) := (Nat.pow_add ..).symm
    have hround := @hasUnit_round (.positive * .positive) _ _
      (-(Format.binary64.mantissaBits : Int) + 0) (-2) hmantissa (by omega) (by omega) (by omega)
    have hunit : (-2 : Int) + 2 * ((k + 53 : Nat) - 52) = 2 * k := by omega
    rwa [hunit] at hround

/-- A whole number of so many bits. Short ones are multiplied by one, which costs them the lower
bound on the bits. -/
private theorem inUnits_ofScientific {n k : Nat} (hn : n < 2 ^ k) (hlo : 81 ≤ k) (hhi : k ≤ 485) :
    InUnits (2 * k) (Float.ofScientific n false 0) := by
  rw [Float.ofScientific]
  split
  · next hshort =>
    have hsmall : n.toUInt64.toNat < 2 ^ 53 := by
      rw [Nat.toUInt64, UInt64.toNat_ofNat']
      omega
    have hnumber : InUnits 106 n.toUInt64.toFloat :=
      ⟨by omega, storedExponent_pack (hasUnit_ofNat hsmall (by omega)) (by omega) (by omega)⟩
    have hone : InUnits (-52) (Float.ofBits 0x3FF0000000000000) := ⟨by omega, by decide +kernel⟩
    have hproduct := inUnits_mul hnumber hone (by omega) (by omega) (by omega) (by omega)
    exact hproduct.mono (by omega)
  · exact ⟨by omega, storedExponent_pack (hasUnit_ofScientific hn) (by omega) (by omega)⟩

/-! ### Values -/

theorem InUnits.isInf {x : Float} {e : Int} (h : InUnits e x) (he : e ≤ 971) :
    x.isInf = false := by
  change x.toModel.unpack.isInf = false
  rcases h.unpack_cases he with ⟨s, hs⟩ | ⟨s, m, e', hm, hs, -⟩
  · rw [hs]
    rfl
  · rw [hs]
    rfl

theorem InUnits.exists_scaled {x : Float} {e : Int} (h : InUnits e x) (he : e ≤ 971) :
    ∃ s, Scaled.ofFloat? x = some s ∧ s.magnitude < 2 ^ 53 ∧ s.exponent ≤ e := by
  have hstored := h.stored
  have hleast := h.least
  have hfraction : x.toBits.toNat % Nat.pow 2 52 < 2 ^ 52 := Nat.mod_lt _ (by decide)
  have hbit : Nat.pow 2 52 = 2 ^ 52 := rfl
  simp only [Scaled.ofFloat?, beq_iff_eq]
  change ∃ s, (if storedExponent x = 2047 then none else if storedExponent x = 0 then some _
    else some _) = some s ∧ _
  rw [if_neg (by omega)]
  split
  · exact ⟨_, rfl, by dsimp only; omega, hleast⟩
  · refine ⟨_, rfl, by dsimp only; omega, ?_⟩
    change (storedExponent x : Int) - 1075 ≤ e
    omega

/-- A whole number below a double has no more bits than it. -/
theorem InUnits.lt_of_less {x : Float} {e : Nat} {n : Int} (h : InUnits e x) (he : e ≤ 971)
    (hn : (Quantity.int n).less (.real x) = true) : n < 2 ^ (53 + e) := by
  obtain ⟨s, hs, hmagnitude, hexponent⟩ := h.exists_scaled (by omega)
  rw [Quantity.less, Quantity.compare?, hs, beq_iff_eq, Option.some.injEq, Scaled.compareInt,
    Int.compare_eq_lt] at hn
  have hvalue : s.signedNumerator ≤ s.numerator := by
    rw [Scaled.signedNumerator]
    split <;> omega
  have hnumerator : s.numerator < 2 ^ (53 + e) := by
    have hpow : 2 ^ s.exponent.toNat ≤ 2 ^ e := Nat.pow_le_pow_right (by decide) (by omega)
    calc
      s.magnitude * 2 ^ s.exponent.toNat < 2 ^ 53 * 2 ^ s.exponent.toNat :=
        Nat.mul_lt_mul_of_pos_right hmagnitude (Nat.pow_pos (by decide))
      _ ≤ 2 ^ 53 * 2 ^ e := Nat.mul_le_mul_left _ hpow
      _ = 2 ^ (53 + e) := (Nat.pow_add ..).symm
  have hcast : (s.numerator : Int) < 2 ^ (53 + e) := by exact_mod_cast hnumerator
  have hdenominator : (1 : Int) ≤ s.denominator := by
    have hpos : 0 < s.denominator := Nat.pow_pos (by decide)
    omega
  rcases Int.lt_or_le n 0 with hneg | hpos
  · omega
  · have hscaled : n * 1 ≤ n * s.denominator := Int.mul_le_mul_of_nonneg_left hdenominator hpos
    omega

/-- A whole number of so many bits is a double. -/
theorem exists_intToFloat {n k : Nat} (hn : n < 2 ^ k) (hlo : 81 ≤ k) (hhi : k ≤ 485) :
    ∃ x, Quantity.intToFloat? n = some x ∧ InUnits (2 * k) x := by
  have hunits := inUnits_ofScientific hn hlo hhi
  refine ⟨Float.ofScientific n false 0, ?_, hunits⟩
  have hfinite := hunits.isInf (by omega)
  simp only [Quantity.intToFloat?, Int.natAbs_natCast, hfinite, Bool.false_eq_true, if_false]
  rw [if_neg (by omega)]

/-- So it is with a sign. -/
theorem intToFloat_isSome {n : Int} {k : Nat} (hn : n.natAbs < 2 ^ k) (hlo : 81 ≤ k)
    (hhi : k ≤ 485) : (Quantity.intToFloat? n).isSome = true := by
  have hfinite := (inUnits_ofScientific hn hlo hhi).isInf (by omega)
  simp only [Quantity.intToFloat?, hfinite]
  rfl

end SlideOverflow.Number
