import Mathlib.Data.Int.Log
import Mathlib.Data.Rat.Floor
import ServiceProbe.Proofs.Rounding
/-!
The double nearest to a quotient. It depends on the value of the quotient alone, differs from it by less than
a share of `2 ^ 53` where it is normal, and has one form.
-/
namespace ServiceProbe

namespace Power

theorem cast_ten (exponent : Nat) : (ten exponent : ℚ) = 10 ^ exponent := by
  simp [ten]

/-- A quotient with the parts of a power on either side of it. -/
theorem quotient_scaled {base : Nat} (some : base ≠ 0) (n d : Nat) (exponent : Int) :
    ((n * base ^ (-exponent).toNat : Nat) : ℚ) / (d * base ^ exponent.toNat : Nat) =
      (n : ℚ) / d / (base : ℚ) ^ exponent := by
  have base_ne : (base : ℚ) ≠ 0 := Nat.cast_ne_zero.mpr some
  rw [zpow_parts base_ne]
  push_cast
  field_simp

end Power

namespace Double

/-- A natural number is no further from a value than half, and even where it is as far as that. -/
structure Nearest (value : ℚ) (n : Nat) : Prop where
  near : |value - n| ≤ 1 / 2
  even : |value - n| = 1 / 2 → n % 2 = 0

namespace Nearest

variable {value : ℚ} {n m : Nat}

theorem of_near (close : |value - n| < 1 / 2) : Nearest value n :=
  ⟨close.le, fun tie => absurd tie close.ne⟩

theorem le_of_le (nearest : Nearest value n) (reached : (m : ℚ) ≤ value) : m ≤ n := by
  by_contra below
  have next : (n : ℚ) + 1 ≤ m := by exact_mod_cast not_le.mp below
  have near := (abs_le.mp nearest.near).2
  linarith

theorem ge_of_ge (nearest : Nearest value n) (reached : value ≤ m) : n ≤ m := by
  by_contra above
  have next : (m : ℚ) + 1 ≤ n := by exact_mod_cast not_le.mp above
  have near := (abs_le.mp nearest.near).1
  linarith

/-- Two that are nearest would be a tie between neighbours, of which one is odd. -/
theorem le_of_nearest (first : Nearest value n) (second : Nearest value m) : m ≤ n := by
  by_contra below
  have next : (n : ℚ) + 1 ≤ m := by exact_mod_cast not_le.mp below
  have low := abs_le.mp first.near
  have high := abs_le.mp second.near
  have neighbours : (m : ℚ) = n + 1 := by linarith
  have tie : value - n = 1 / 2 := by linarith
  have tie' : value - m = -(1 / 2) := by linarith
  have even := first.even (by rw [tie]; norm_num)
  have even' := second.even (by rw [tie']; norm_num)
  have same : m = n + 1 := by exact_mod_cast neighbours
  omega

theorem unique (first : Nearest value n) (second : Nearest value m) : n = m :=
  le_antisymm (second.le_of_nearest first) (first.le_of_nearest second)

end Nearest

theorem quotient_parts (n : Nat) {d : Nat} (some : 0 < d) :
    (n : ℚ) / d = (n / d : Nat) + (n % d : Nat) / d := by
  have positive : (0 : ℚ) < d := Nat.cast_pos.mpr some
  have whole : (n : ℚ) = (n / d : Nat) * d + (n % d : Nat) := by
    exact_mod_cast (Nat.div_add_mod' n d).symm
  calc (n : ℚ) / d = ((n / d : Nat) * d + (n % d : Nat)) / d := congrArg (· / (d : ℚ)) whole
    _ = _ := by rw [add_div, mul_div_cancel_right₀ _ positive.ne']

theorem roundHalfEven_nearest (n : Nat) {d : Nat} (some : 0 < d) :
    Nearest ((n : ℚ) / d) (roundHalfEven n d) := by
  have positive : (0 : ℚ) < d := Nat.cast_pos.mpr some
  have twice : 2 * (n % d : Nat) / (d : ℚ) = 2 * ((n % d : Nat) / d) := mul_div_assoc _ _ _
  rw [quotient_parts n some]
  unfold roundHalfEven
  dsimp only
  -- Less than half of a unit is left, more than that, or just half of it, where the even neighbour is
  -- taken.
  split
  · next less =>
    have small : 2 * ((n % d : Nat) / d : ℚ) < 1 := by
      rw [← twice, div_lt_one positive]
      exact_mod_cast less
    refine .of_near ?_
    rw [add_sub_cancel_left, abs_of_nonneg (by positivity)]
    linarith
  split
  · next more =>
    have large : 1 < 2 * ((n % d : Nat) / d : ℚ) := by
      rw [← twice, one_lt_div positive]
      exact_mod_cast more
    have fraction : ((n % d : Nat) / d : ℚ) < 1 := by
      rw [div_lt_one positive]
      exact_mod_cast Nat.mod_lt n some
    refine .of_near ?_
    push_cast
    rw [abs_lt]
    constructor <;> linarith
  · next less more =>
    have half : ((n % d : Nat) / d : ℚ) = 1 / 2 := by
      rw [div_eq_iff positive.ne']
      have same : (2 * (n % d) : Nat) = d := by omega
      have cast : (2 * (n % d : Nat) : ℚ) = d := by exact_mod_cast same
      linarith
    rw [half]
    generalize n / d = quotient
    refine ⟨?_, fun _ => by omega⟩
    rcases Nat.mod_two_eq_zero_or_one quotient with even | odd
    · simp [even]
    · rw [odd]
      push_cast
      rw [abs_le]
      constructor <;> linarith

theorem quotient_pos {n d : Nat} (some : n ≠ 0) (some' : d ≠ 0) : (0 : ℚ) < (n : ℚ) / d :=
  div_pos (Nat.cast_pos.mpr (Nat.pos_of_ne_zero some)) (Nat.cast_pos.mpr (Nat.pos_of_ne_zero some'))

/-- A logarithm is told by the powers around a value. -/
theorem log_eq_of_between {base : Nat} (big : 1 < base) {value : ℚ} {exponent : Int}
    (low : (base : ℚ) ^ exponent ≤ value) (high : value < (base : ℚ) ^ (exponent + 1)) :
    Int.log base value = exponent := by
  have base_pos : (0 : ℚ) < base := by exact_mod_cast (by omega : 0 < base)
  have positive : 0 < value := (zpow_pos base_pos exponent).trans_le low
  have lower := (Int.zpow_le_iff_le_log big positive).mp low
  have upper := (Int.lt_zpow_iff_log_lt big positive).mp high
  omega

/-- The leading digits of two numbers leave two choices for that of their quotient. -/
theorem log_quotient {base n d a b : Nat} (big : 1 < base) (low : base ^ a ≤ n) (high : n < base ^ (a + 1))
    (low' : base ^ b ≤ d) (high' : d < base ^ (b + 1)) {guess : Int} (parts : (a : Int) - b = guess) :
    (if n * base ^ (-guess).toNat < d * base ^ guess.toNat then guess - 1 else guess) =
      Int.log base ((n : ℚ) / d) := by
  have powers (exponent : Nat) : 0 < base ^ exponent := Nat.pow_pos (by omega)
  have some : n ≠ 0 := (Nat.lt_of_lt_of_le (powers a) low).ne'
  have some' : d ≠ 0 := (Nat.lt_of_lt_of_le (powers b) low').ne'
  have positive := quotient_pos some some'
  have base_pos : (0 : ℚ) < base := by exact_mod_cast (by omega : 0 < base)
  have cast (exponent : Nat) : ((base ^ exponent : Nat) : ℚ) = (base : ℚ) ^ (exponent : Int) := by
    push_cast
    rw [zpow_natCast]
  have d_pos : (0 : ℚ) < d := Nat.cast_pos.mpr (Nat.pos_of_ne_zero some')
  -- The quotient lies within one power on either side of the guess, and `check` tells on which.
  have above : (base : ℚ) ^ (guess - 1) ≤ (n : ℚ) / d := by
    have split : guess - 1 = (a : Int) - ((b + 1 : Nat) : Int) := by omega
    rw [split, zpow_sub₀ base_pos.ne', ← cast, ← cast]
    exact div_le_div₀ (by positivity) (by exact_mod_cast low) d_pos (by exact_mod_cast high'.le)
  have below : (n : ℚ) / d < (base : ℚ) ^ (guess + 1) := by
    have split : guess + 1 = ((a + 1 : Nat) : Int) - (b : Int) := by omega
    rw [split, zpow_sub₀ base_pos.ne', ← cast, ← cast]
    exact div_lt_div₀ (by exact_mod_cast high) (by exact_mod_cast low') (by positivity)
      (by exact_mod_cast powers b)
  have check : n * base ^ (-guess).toNat < d * base ^ guess.toNat ↔
      (n : ℚ) / d < (base : ℚ) ^ guess := by
    have scaled := Power.quotient_scaled (by omega : base ≠ 0) n d guess
    have under : (0 : ℚ) < ((d * base ^ guess.toNat : Nat) : ℚ) :=
      Nat.cast_pos.mpr (Nat.mul_pos (Nat.pos_of_ne_zero some') (powers _))
    rw [← div_lt_one (zpow_pos base_pos guess), ← scaled, div_lt_one under, Nat.cast_lt]
  split
  · next less =>
    refine (log_eq_of_between big above ?_).symm
    rw [sub_add_cancel]
    exact check.mp less
  · next more => exact (log_eq_of_between big (not_lt.mp (mt check.mpr more)) below).symm

theorem floorLog2_eq {n d : Nat} (some : n ≠ 0) (some' : d ≠ 0) :
    floorLog2 n d = Int.log 2 ((n : ℚ) / d) :=
  log_quotient (by decide) (Nat.log2_self_le some) Nat.lt_log2_self (Nat.log2_self_le some')
    Nat.lt_log2_self rfl

/-- The exponent of the unit to which a value is rounded. -/
def unitOf (value : ℚ) : Int := max (Int.log 2 value - 52) leastExponent

/-- The double nearest to a quotient depends on its value alone. -/
theorem ofRatio_packs (negative : Bool) {n d : Nat} (some : n ≠ 0) (some' : d ≠ 0) :
    ∃ mantissa, Nearest ((n : ℚ) / d / 2 ^ unitOf ((n : ℚ) / d)) mantissa ∧
      ofRatio negative n d = pack negative mantissa (unitOf ((n : ℚ) / d)) := by
  have unit : max (floorLog2 n d - 52) leastExponent = unitOf ((n : ℚ) / d) := by
    rw [floorLog2_eq some some', unitOf]
  have scaled := Power.quotient_scaled (by decide : 2 ≠ 0) n d (unitOf ((n : ℚ) / d))
  have under : 0 < d * Power.two (unitOf ((n : ℚ) / d)).toNat :=
    Nat.mul_pos (Nat.pos_of_ne_zero some') (Power.two_pos _)
  have nearest := roundHalfEven_nearest (n * Power.two (-unitOf ((n : ℚ) / d)).toNat) under
  refine ⟨_, scaled ▸ nearest, ?_⟩
  rw [ofRatio, if_neg some]
  dsimp only
  rw [unit]

theorem ofRatio_congr {n d n' d' : Nat} (some : d ≠ 0) (some' : d' ≠ 0)
    (same : (n : ℚ) / d = n' / d') (negative : Bool) : ofRatio negative n d = ofRatio negative n' d' := by
  have zero_iff {n d : Nat} (some : d ≠ 0) : (n : ℚ) / d = 0 ↔ n = 0 := by
    rw [div_eq_zero_iff, or_iff_left (Nat.cast_ne_zero.mpr some), Nat.cast_eq_zero]
  by_cases void : n = 0
  · have void' : n' = 0 := (zero_iff some').mp (same ▸ (zero_iff some).mpr void)
    rw [ofRatio, ofRatio, if_pos void, if_pos void']
  · have solid : n' ≠ 0 := fun void' => void ((zero_iff some).mp (same.trans ((zero_iff some').mpr void')))
    obtain ⟨mantissa, nearest, packed⟩ := ofRatio_packs negative void some
    obtain ⟨mantissa', nearest', packed'⟩ := ofRatio_packs negative solid some'
    rw [same] at nearest
    rw [packed, packed', same, nearest.unique nearest']

/-- Where it is normal, rounding changes a value by less than its share of `2 ^ 53`. -/
theorem ofRatio_near (negative : Bool) {n d : Nat} (some : n ≠ 0) (some' : d ≠ 0)
    (low : (2 : ℚ) ^ (-1022 : Int) ≤ (n : ℚ) / d) (high : (n : ℚ) / d < 2 ^ (1022 : Int)) :
    ∃ m e, ofRatio negative n d = .finite negative m e ∧
      |(m : ℚ) * 2 ^ e - n / d| ≤ (n : ℚ) / d / 2 ^ 53 := by
  have positive := quotient_pos some some'
  obtain ⟨mantissa, nearest, packed⟩ := ofRatio_packs negative some some'
  generalize (n : ℚ) / d = value at *
  have least : -1022 ≤ Int.log 2 value := (Int.zpow_le_iff_le_log Nat.one_lt_two positive).mp low
  have greatest : Int.log 2 value < 1022 := (Int.lt_zpow_iff_log_lt Nat.one_lt_two positive).mp high
  have unit : unitOf value = Int.log 2 value - 52 := by
    unfold unitOf leastExponent
    omega
  -- The error is half a unit, and a unit has 52 bits below the leading one of the value.
  have fine : |(mantissa : ℚ) * 2 ^ unitOf value - value| ≤ value / 2 ^ 53 := by
    have power : (0 : ℚ) < 2 ^ unitOf value := by positivity
    have leading : (2 : ℚ) ^ Int.log 2 value ≤ value := Int.zpow_log_le_self Nat.one_lt_two positive
    have half : (2 : ℚ) ^ unitOf value / 2 = 2 ^ Int.log 2 value / 2 ^ 53 := by
      rw [unit, zpow_sub₀ two_ne_zero]
      norm_num
      ring
    have error : (mantissa : ℚ) * 2 ^ unitOf value - value =
        -(value / 2 ^ unitOf value - mantissa) * 2 ^ unitOf value := by
      field_simp
      ring
    rw [error, abs_mul, abs_neg, abs_of_pos power]
    calc |value / 2 ^ unitOf value - mantissa| * 2 ^ unitOf value ≤ 1 / 2 * 2 ^ unitOf value :=
          mul_le_mul_of_nonneg_right nearest.near power.le
      _ = 2 ^ Int.log 2 value / 2 ^ 53 := by rw [← half]; ring
      _ ≤ value / 2 ^ 53 := div_le_div_of_nonneg_right leading (by positivity)
  rcases pack_cases negative mantissa (unitOf value) with infinite | ⟨m, e, finite, same⟩
  · have beyond := pack_infinite.mp (by rw [infinite]; trivial :
      (pack negative mantissa (unitOf value)).IsInfinite)
    unfold greatestExponent at beyond
    split at beyond <;> omega
  · exact ⟨m, e, packed.trans finite, same ▸ fine⟩

/-- A double is regular, and a zero has one form. -/
theorem regular_ofRatio (negative : Bool) (n : Nat) {d : Nat} (some' : d ≠ 0) :
    (ofRatio negative n d).Regular := by
  have least : leastExponent ≤ greatestExponent := by decide
  by_cases some : n = 0
  · rw [ofRatio, if_pos some]
    exact ⟨Power.two_pos 53, le_rfl, least, Or.inr rfl⟩
  have positive := quotient_pos some some'
  have fits := ofRatio_fits negative n some'
  obtain ⟨mantissa, nearest, packed⟩ := ofRatio_packs negative some some'
  rw [packed] at fits ⊢
  clear packed
  generalize (n : ℚ) / d = value at *
  have unit_least : leastExponent ≤ unitOf value := le_max_right _ _
  -- Rounding does not go below a power of two, so that a normal mantissa keeps its leading bit.
  have leading : Power.two 52 ≤ mantissa ∨ unitOf value = leastExponent := by
    by_cases subnormal : unitOf value = leastExponent
    · exact Or.inr subnormal
    · have unit : unitOf value = Int.log 2 value - 52 := by
        unfold unitOf at subnormal ⊢
        omega
      refine Or.inl (nearest.le_of_le ?_)
      rw [Power.cast_two, le_div_iff₀ (by positivity), unit, ← zpow_natCast, ← zpow_add₀ two_ne_zero]
      have whole : ((52 : Nat) : Int) + (Int.log 2 value - 52) = Int.log 2 value := by omega
      rw [whole]
      exact Int.zpow_log_le_self Nat.one_lt_two positive
  unfold pack at fits ⊢
  by_cases full : mantissa = Power.two 53
  · simp only [if_pos full] at fits ⊢
    split
    · trivial
    · next within => exact ⟨by decide, by omega, not_lt.mp within, Or.inl le_rfl⟩
  · simp only [if_neg full] at fits ⊢
    split
    · trivial
    · next within =>
      rw [if_neg within] at fits
      exact ⟨fits.1, unit_least, not_lt.mp within, leading⟩

theorem ofDecimal_places (negative : Bool) (digits : Nat) {places : Nat} (few : places ≤ 360) :
    ofDecimal negative digits (-places) = ofRatio negative digits (Power.ten places) := by
  have up : (-(places : Int)).toNat = 0 := by omega
  have down : (-(-(places : Int))).toNat = places := by omega
  have one : Power.ten 0 = 1 := rfl
  by_cases void : digits = 0
  · rw [ofDecimal, if_pos void, ofRatio, if_pos void]
  · rw [ofDecimal, if_neg void, if_neg (by omega), if_neg (by omega), up, down, one, Nat.mul_one]

/-- Zeros behind the last place change nothing. -/
theorem ofDecimal_shift (negative : Bool) (digits : Nat) {places more : Nat} (few : places + more ≤ 360) :
    ofDecimal negative (digits * 10 ^ more) (-(places + more : Nat)) = ofDecimal negative digits (-places) := by
  rw [ofDecimal_places _ _ few, ofDecimal_places _ _ (Nat.le_trans (Nat.le_add_right _ _) few)]
  refine ofRatio_congr (Power.ten_pos _).ne' (Power.ten_pos _).ne' ?_ negative
  rw [Power.cast_ten, Power.cast_ten, pow_add]
  push_cast
  field_simp

theorem regular_ofDecimal (negative : Bool) (digits : Nat) (exponent : Int) :
    (ofDecimal negative digits exponent).Regular := by
  have regular_zero : (zero negative).Regular := regular_ofRatio negative 0 Nat.one_ne_zero
  unfold ofDecimal
  split
  · exact regular_zero
  split
  · trivial
  split
  · exact regular_zero
  · exact regular_ofRatio negative _ (Power.ten_pos _).ne'

end Double
end ServiceProbe
