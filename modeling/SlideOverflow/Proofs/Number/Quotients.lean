import Mathlib
import SlideOverflow.Number.Scaled

/-! Quotients as doubles. A quotient is rounded once, so it is the nearest double; what is lost by
that is seen behind rounding up only where the quotient is next to nothing, or where its numerator
has more bits than a double. -/
namespace SlideOverflow.Number

/-! ### Whole numbers -/

/-- What it is to be the whole number nearest to `n / d`, and the even one where two are as near. -/
structure IsNearest (n d m : Nat) : Prop where
  le : 2 * (d * m) ≤ 2 * n + d
  ge : 2 * n ≤ 2 * (d * m) + d
  even : 2 * (d * m) = 2 * n + d ∨ 2 * n = 2 * (d * m) + d → m % 2 = 0

private theorem nearest_isNearest (n : Nat) {d : Nat} (hd : 0 < d) :
    IsNearest n d (nearest n d) := by
  have hsplit : d * (n / d) + n % d = n := Nat.div_add_mod n d
  have hrest : n % d < d := Nat.mod_lt n hd
  have hnext : d * (n / d + 1) = d * (n / d) + d := Nat.mul_succ d (n / d)
  rw [nearest]
  split
  · exact ⟨by omega, by omega, by omega⟩
  · split
    · rcases Nat.mod_two_eq_zero_or_one (n / d) with heven | hodd
      · rw [heven, Nat.add_zero]
        exact ⟨by omega, by omega, fun _ => heven⟩
      · rw [hodd]
        exact ⟨by omega, by omega, fun _ => by omega⟩
    · exact ⟨by omega, by omega, by omega⟩

namespace IsNearest

variable {n d m : Nat}

private theorem eq_zero_iff (h : IsNearest n d m) (hd : 0 < d) : m = 0 ↔ 2 * n ≤ d := by
  constructor
  · intro hzero
    have hge := h.ge
    rw [hzero, Nat.mul_zero] at hge
    omega
  · intro hle
    by_contra hpos
    have hlow := h.le
    have hone : d * 1 ≤ d * m := Nat.mul_le_mul_left d (Nat.pos_of_ne_zero hpos)
    have heven := h.even (.inl (by omega))
    have htwo : d * 2 ≤ d * m := Nat.mul_le_mul_left d (by omega)
    omega

/-- Rounding does not pass a whole number. -/
private theorem le_of_le (h : IsNearest n d m) (hd : 0 < d) {c : Nat} (hle : n ≤ d * c) :
    m ≤ c := by
  by_contra hlt
  have hlow := h.le
  have hmore : d * (c + 1) ≤ d * m := Nat.mul_le_mul_left d (not_le.mp hlt)
  rw [Nat.mul_succ] at hmore
  omega

/-- With `q` units to one, it takes long units to bring a quotient down to a whole number that it is
above. -/
private theorem two_mul_le {q c : Nat} (h : IsNearest (n * q) d m) (hle : m ≤ q * c)
    (hlt : d * c < n) :
    2 * q ≤ d := by
  have hhigh := h.ge
  have hscaled : d * m ≤ d * (q * c) := Nat.mul_le_mul_left d hle
  have hmore : (d * c + 1) * q ≤ n * q := Nat.mul_le_mul_right q hlt
  have hsame : (d * c + 1) * q = d * (q * c) + q := by ring
  omega

end IsNearest

/-! ### Units -/

/-- Numerators and denominators take the place of powers of two with a sign. -/
private theorem mul_pow_le_iff (a b : Nat) (e : Int) :
    a * 2 ^ e.toNat ≤ b * 2 ^ (-e).toNat ↔ (a : ℚ) * 2 ^ e ≤ b := by
  obtain ⟨k, rfl | rfl⟩ := e.eq_nat_or_neg
  · rw [Int.toNat_natCast, Int.toNat_of_nonpos (by omega), pow_zero, mul_one, zpow_natCast]
    exact_mod_cast Iff.rfl
  · rw [neg_neg, Int.toNat_natCast, Int.toNat_of_nonpos (by omega), pow_zero, mul_one, zpow_neg,
      zpow_natCast, ← div_eq_mul_inv, div_le_iff₀ (by positivity)]
    exact_mod_cast Iff.rfl

/-- The exponent is the greatest one of a power of two that is not above the quotient. -/
private theorem quotientExponent_spec {n d : Nat} (hn : 0 < n) (hd : 0 < d) :
    (d : ℚ) * 2 ^ quotientExponent n d ≤ n ∧ (n : ℚ) < d * 2 ^ (quotientExponent n d + 1) := by
  have hbelow (m : Nat) (hm : 0 < m) : (2 : ℚ) ^ (m.log2 : Int) ≤ m := by
    rw [zpow_natCast]
    exact_mod_cast Nat.log2_self_le (by omega)
  have habove (m : Nat) : (m : ℚ) < 2 ^ ((m.log2 : Int) + 1) := by
    exact_mod_cast (Nat.lt_log2_self : m < 2 ^ (m.log2 + 1))
  have hlow : (d : ℚ) * 2 ^ ((n.log2 : Int) - d.log2 - 1) ≤ n := by
    calc
      (d : ℚ) * 2 ^ ((n.log2 : Int) - d.log2 - 1)
        ≤ 2 ^ ((d.log2 : Int) + 1) * 2 ^ ((n.log2 : Int) - d.log2 - 1) := by
          gcongr
          exact (habove d).le
      _ = 2 ^ (n.log2 : Int) := by
          rw [← zpow_add₀ two_ne_zero]
          congr 1
          omega
      _ ≤ n := hbelow n hn
  have hhigh : (n : ℚ) < d * 2 ^ ((n.log2 : Int) - d.log2 + 1) := by
    calc
      (n : ℚ) < 2 ^ ((n.log2 : Int) + 1) := habove n
      _ = 2 ^ (d.log2 : Int) * 2 ^ ((n.log2 : Int) - d.log2 + 1) := by
          rw [← zpow_add₀ two_ne_zero]
          congr 1
          omega
      _ ≤ d * 2 ^ ((n.log2 : Int) - d.log2 + 1) := by
          gcongr
          exact hbelow d hd
  have htest := mul_pow_le_iff d n ((n.log2 : Int) - d.log2)
  rw [quotientExponent]
  split
  · next h => exact ⟨htest.mp h, hhigh⟩
  · next h =>
    refine ⟨hlow, ?_⟩
    rw [sub_add_cancel]
    exact not_le.mp fun hle => h (htest.mpr hle)

/-! ### Doubles -/

/-- What it is to be the double nearest to `n / d`. In units of it the quotient has 53 bits in front
of the point, or fewer if there are no smaller units, and it is brought to the nearest whole
number. -/
structure Scaled.IsRounded (n d : Nat) (s : Scaled) : Prop where
  positive : s.negative = false
  least : -1074 ≤ s.exponent
  full : -1074 < s.exponent → 2 ^ 52 * d * 2 ^ s.exponent.toNat ≤ n * 2 ^ (-s.exponent).toNat
  short : n * 2 ^ (-s.exponent).toNat < 2 ^ 53 * d * 2 ^ s.exponent.toNat
  nearest : IsNearest (n * 2 ^ (-s.exponent).toNat) (d * 2 ^ s.exponent.toNat) s.magnitude

private theorem Scaled.quotient_isRounded {n d : Nat} (hn : 0 < n) (hd : 0 < d) :
    (quotient n d).IsRounded n d := by
  obtain ⟨hlow, hhigh⟩ := quotientExponent_spec hn hd
  have hunit : (quotient n d).exponent = max (quotientExponent n d - 52) (-1074) := rfl
  refine ⟨rfl, by omega, fun hlarge => ?_, ?_, ?_⟩
  · rw [mul_pow_le_iff, hunit, max_eq_left (by omega), Nat.cast_mul]
    calc
      ((2 ^ 52 : Nat) : ℚ) * d * 2 ^ (quotientExponent n d - 52)
        = d * (2 ^ (52 : Int) * 2 ^ (quotientExponent n d - 52)) := by
          push_cast
          ring
      _ = d * 2 ^ quotientExponent n d := by
          rw [← zpow_add₀ two_ne_zero]
          congr 2
          omega
      _ ≤ n := hlow
  · rw [← not_le, mul_pow_le_iff, not_le, hunit, Nat.cast_mul]
    calc
      (n : ℚ) < d * 2 ^ (quotientExponent n d + 1) := hhigh
      _ ≤ d * 2 ^ (53 + max (quotientExponent n d - 52) (-1074)) := by
          have hexponent : quotientExponent n d + 1 ≤
              53 + max (quotientExponent n d - 52) (-1074) := by omega
          have hpow := zpow_le_zpow_right₀ (one_le_two (α := ℚ)) hexponent
          exact mul_le_mul_of_nonneg_left hpow (Nat.cast_nonneg d)
      _ = ((2 ^ 53 : Nat) : ℚ) * d * 2 ^ max (quotientExponent n d - 52) (-1074) := by
          rw [zpow_add₀ two_ne_zero]
          push_cast
          ring
  · exact nearest_isNearest _ (Nat.mul_pos hd (Nat.pow_pos two_pos))

namespace Scaled.IsRounded

variable {n d : Nat} {s : Scaled}

private theorem full_units (h : s.IsRounded n d) (hlarge : -1074 < s.exponent) :
    2 ^ 52 * (d * 2 ^ s.exponent.toNat) ≤ n * 2 ^ (-s.exponent).toNat := by
  rw [← mul_assoc]
  exact h.full hlarge

/-- A quotient that is next to nothing becomes zero, and no other one does. -/
private theorem magnitude_eq_zero_iff (h : s.IsRounded n d) (hd : 0 < d) :
    s.magnitude = 0 ↔ n * 2 ^ 1075 ≤ d := by
  have hleast := h.least
  have hscale : d ≤ d * 2 ^ s.exponent.toNat :=
    Nat.le_mul_of_pos_right d (Nat.pow_pos two_pos)
  have hdouble : n * 2 ^ 1075 = 2 * (n * 2 ^ 1074) := by
    rw [pow_succ' 2 1074, Nat.mul_left_comm]
  rw [h.nearest.eq_zero_iff (hd.trans_le hscale), hdouble]
  constructor
  · intro hzero
    -- Larger units would leave fewer bits than they take.
    have heq : s.exponent = -1074 := by
      by_contra hne
      have hfull := h.full_units (by omega)
      omega
    have hunits : s.exponent.toNat = 0 := by omega
    have hparts : (-s.exponent).toNat = 1074 := by omega
    rwa [hunits, hparts, pow_zero, mul_one] at hzero
  · intro hle
    have hshare : n * 2 ^ (-s.exponent).toNat ≤ n * 2 ^ 1074 :=
      Nat.mul_le_mul_left n (pow_le_pow_right₀ one_le_two (by omega))
    omega

/-- Units above one are those of quotients that have more bits than a double. -/
private theorem eq_of_coarse (h : s.IsRounded n d) (hd : 0 < d) (hn : n ≤ 2 ^ 53)
    (hcoarse : 0 < s.exponent) : d = 1 ∧ s.denominator = 1 ∧ s.numerator = n := by
  have hparts : (-s.exponent).toNat = 0 := by omega
  have hfull := h.full_units (by omega)
  have hnearest := h.nearest
  rw [hparts, pow_zero, mul_one] at hfull hnearest
  have htwo : 2 ≤ 2 ^ s.exponent.toNat := Nat.le_self_pow (by omega) 2
  have hunits : d * 2 ≤ d * 2 ^ s.exponent.toNat := Nat.mul_le_mul_left d htwo
  have hd : d = 1 := by omega
  rw [hd, one_mul] at hfull hnearest
  have hpow : 2 ^ s.exponent.toNat = 2 := by omega
  have hvalue : s.magnitude * 2 = n := by
    have hlow := hnearest.le
    have hhigh := hnearest.ge
    rw [hpow] at hfull hlow hhigh
    omega
  refine ⟨hd, ?_, ?_⟩
  · change 2 ^ (-s.exponent).toNat = 1
    rw [hparts, pow_zero]
  · change s.magnitude * 2 ^ s.exponent.toNat = n
    rw [hpow, hvalue]

/-- Units that are not above one are parts of it, and the double is a number of such parts. -/
private theorem of_fine (h : s.IsRounded n d) (hfine : s.exponent ≤ 0) :
    s.numerator = s.magnitude ∧ IsNearest (n * s.denominator) d s.magnitude ∧
      (-1074 < s.exponent → 2 ^ 52 * d ≤ n * s.denominator) := by
  have hunits : s.exponent.toNat = 0 := by omega
  have hdenominator : s.denominator = 2 ^ (-s.exponent).toNat := rfl
  have hfull := h.full_units
  have hnearest := h.nearest
  rw [hunits, pow_zero, mul_one, ← hdenominator] at hfull hnearest
  refine ⟨?_, hnearest, hfull⟩
  rw [numerator, hunits]
  exact Nat.mul_one _

/-- A quotient that is above a whole number stays above it. It would have to be a tie of parts to be
brought down to it, and such a quotient of numbers of 53 bits is a whole number itself. -/
private theorem lt_magnitude (h : s.IsRounded n d) (hd : 0 < d) (hn : n ≤ 2 ^ 53)
    (hshare : d < n * 2 ^ 1075) (hfine : s.exponent ≤ 0) {c : Nat} (hlt : d * c < n) :
    s.denominator * c < s.magnitude := by
  obtain ⟨-, hnearest, hfull⟩ := h.of_fine hfine
  by_contra hle
  rw [not_lt] at hle
  have hlong : 2 * s.denominator ≤ d := hnearest.two_mul_le hle hlt
  have hcount : 0 < c := by
    rw [Nat.pos_iff_ne_zero]
    rintro rfl
    exact hshare.not_ge ((h.magnitude_eq_zero_iff hd).mp (Nat.le_zero.mp hle))
  have hwhole : d * 1 ≤ d * c := Nat.mul_le_mul_left d hcount
  have hlarge : -1074 < s.exponent := by
    by_contra hleast
    have hbits : 2 ^ 53 ≤ s.denominator := pow_le_pow_right₀ one_le_two (by omega)
    omega
  have hbits := hfull hlarge
  have hmost : n * s.denominator ≤ 2 ^ 53 * s.denominator := Nat.mul_le_mul_right _ hn
  have htie : d = 2 * s.denominator := by omega
  have hall : n = 2 ^ 53 := by
    have hpos : 0 < s.denominator := by omega
    have hfills : 2 ^ 53 * s.denominator ≤ n * s.denominator := by omega
    exact Nat.le_antisymm hn (Nat.le_of_mul_le_mul_right hfills hpos)
  have heven : (2 * s.magnitude + 2) * s.denominator ≤ n * s.denominator := by
    rw [htie, Nat.mul_assoc] at hlt
    exact Nat.mul_le_mul_right _ (by omega)
  have hparts : (2 * s.magnitude + 2) * s.denominator = d * s.magnitude + d := by
    rw [htie]
    ring
  have hhigh := hnearest.ge
  omega

/-- The double nearest to a quotient of numbers of 53 bits is not above a whole number exactly where
the quotient is not. -/
private theorem numerator_le_iff (h : s.IsRounded n d) (hd : 0 < d) (hn : n ≤ 2 ^ 53)
    (hshare : d < n * 2 ^ 1075) (c : Nat) :
    s.numerator ≤ s.denominator * c ↔ n ≤ d * c := by
  rcases lt_or_ge 0 s.exponent with hcoarse | hfine
  · obtain ⟨rfl, hone, hvalue⟩ := h.eq_of_coarse hd hn hcoarse
    rw [hone, hvalue]
  · obtain ⟨hnumerator, hnearest, -⟩ := h.of_fine hfine
    rw [hnumerator]
    constructor
    · intro hle
      by_contra hlt
      exact hle.not_gt (h.lt_magnitude hd hn hshare hfine (not_le.mp hlt))
    · intro hle
      refine hnearest.le_of_le hd ?_
      calc
        n * s.denominator ≤ d * c * s.denominator := Nat.mul_le_mul_right _ hle
        _ = d * (s.denominator * c) := by ring

end Scaled.IsRounded

/-! ### Rounding up -/

private theorem Scaled.ceil_le_iff (s : Scaled) (c : Int) :
    s.ceil ≤ c ↔ s.signedNumerator ≤ c * s.denominator := by
  have hpos : 0 < (s.denominator : Int) := Int.natCast_pos.mpr (Nat.pow_pos two_pos)
  rw [ceil, Int.fdiv_eq_ediv_of_nonneg _ hpos.le, neg_le,
    Int.le_ediv_iff_mul_le hpos, neg_mul, neg_le_neg_iff]

private theorem Scaled.IsRounded.ceil_le_iff {n d : Nat} {s : Scaled} (h : s.IsRounded n d)
    (c : Nat) :
    s.ceil.toNat ≤ c ↔ s.numerator ≤ s.denominator * c := by
  rw [Int.toNat_le, Scaled.ceil_le_iff, signedNumerator, h.positive, if_neg Bool.false_ne_true,
    Nat.mul_comm]
  exact_mod_cast Iff.rfl

namespace Scaled

variable {n d : Nat}

/-- Rounding up gives nothing exactly where the quotient is next to nothing. -/
theorem ceil_quotient_eq_zero_iff (hn : 0 < n) (hd : 0 < d) :
    (quotient n d).ceil.toNat = 0 ↔ n * 2 ^ 1075 ≤ d := by
  have h := quotient_isRounded hn hd
  have hunits : 0 < 2 ^ (quotient n d).exponent.toNat := Nat.pow_pos two_pos
  rw [← Nat.le_zero, h.ceil_le_iff, Nat.mul_zero, Nat.le_zero, ← h.magnitude_eq_zero_iff hd]
  exact Nat.mul_eq_zero.trans (or_iff_left hunits.ne')

/-- Otherwise a quotient of numbers of 53 bits is rounded up as if it were exact. -/
theorem ceil_quotient_le_iff (hd : 0 < d) (hn : n ≤ 2 ^ 53) (hshare : d < n * 2 ^ 1075)
    (c : Nat) : (quotient n d).ceil.toNat ≤ c ↔ n ≤ d * c := by
  have hpos : 0 < n := Nat.pos_of_mul_pos_right (hd.trans hshare)
  have h := quotient_isRounded hpos hd
  rw [h.ceil_le_iff, h.numerator_le_iff hd hn hshare]

end Scaled

end SlideOverflow.Number
