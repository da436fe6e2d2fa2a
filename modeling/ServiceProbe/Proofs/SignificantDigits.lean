import ServiceProbe.Number.Decimal
import ServiceProbe.Proofs.Digits
import ServiceProbe.Proofs.NearestDouble
/-!
The leading digits of a value. They are those of the value rounded to as many digits, and a value close enough
to a number of so many digits has the digits of that number.
-/
namespace ServiceProbe.Decimal

open Double (Nearest quotient_pos)

/-- A written number has as many digits as it takes to exceed it. -/
theorem ofNat_between {n : Nat} (some : n ≠ 0) :
    10 ^ ((Text.ofNat n).length - 1) ≤ n ∧ n < 10 ^ ((Text.ofNat n).length - 1 + 1) := by
  have some_digits : 0 < (Text.ofNat n).length := List.length_pos_of_ne_nil (Text.ofNat_ne_nil n)
  have whole : (Text.ofNat n).length - 1 + 1 = (Text.ofNat n).length := by omega
  have high : n < 10 ^ (Text.ofNat n).length :=
    (Nat.length_toDigits_le_iff (by decide) some_digits).mp le_rfl
  refine ⟨?_, by rwa [whole]⟩
  by_cases one : (Text.ofNat n).length - 1 = 0
  · rw [one, pow_zero]
    exact Nat.pos_of_ne_zero some
  · by_contra below
    have fewer := (Nat.length_toDigits_le_iff (by decide) (Nat.pos_of_ne_zero one)).mpr (not_le.mp below)
    have same : (Nat.toDigits 10 n).length = (Text.ofNat n).length := rfl
    omega

theorem leadingExponent_eq {n d : Nat} (some : n ≠ 0) (some' : d ≠ 0) :
    leadingExponent n d = Int.log 10 ((n : ℚ) / d) := by
  obtain ⟨low, high⟩ := ofNat_between some
  obtain ⟨low', high'⟩ := ofNat_between some'
  have digits : 0 < (Text.ofNat n).length := List.length_pos_of_ne_nil (Text.ofNat_ne_nil n)
  have digits' : 0 < (Text.ofNat d).length := List.length_pos_of_ne_nil (Text.ofNat_ne_nil d)
  exact Double.log_quotient (by decide) low high low' high' (by omega)

theorem scaledDigits_nearest (n : Nat) {d : Nat} (some : d ≠ 0) (places : Int) :
    Nearest ((n : ℚ) / d * 10 ^ places) (scaledDigits n d places) := by
  have scaled := Power.quotient_scaled (by decide : 10 ≠ 0) n d (-places)
  rw [neg_neg, Nat.cast_ofNat, zpow_neg, div_inv_eq_mul] at scaled
  rw [← scaled]
  exact Double.roundHalfEven_nearest _ (Nat.mul_pos (Nat.pos_of_ne_zero some) (Power.ten_pos _))

/-- The first `count + 1` digits of a value, rounded, and the exponent of the first one. From half a unit
below the next power of ten on, the digits are those of that power. -/
structure Significant (count : Nat) (value : ℚ) (digits : Nat) (leading : Int) : Prop where
  nearest : Nearest (value * 10 ^ ((count : Int) - leading)) digits
  least : 10 ^ count ≤ digits
  most : digits < 10 ^ (count + 1)
  low : (10 ^ (count + 1) - 1 / 2) * 10 ^ (leading - (count + 1)) ≤ value
  high : value < (10 ^ (count + 1) - 1 / 2) * 10 ^ (leading - count)

namespace Significant

variable {count digits digits' : Nat} {value : ℚ} {leading leading' : Int}

theorem leading_iff (significant : Significant count value digits leading) (exponent : Int) :
    exponent ≤ leading ↔ (10 ^ (count + 1) - 1 / 2) * 10 ^ (exponent - (count + 1)) ≤ value := by
  have size : (0 : ℚ) ≤ 10 ^ (count + 1) - 1 / 2 := by
    have one : (1 : ℚ) ≤ 10 ^ (count + 1) := one_le_pow₀ (by norm_num)
    linarith
  have grows {a b : Int} (below : a ≤ b) : (10 ^ (count + 1) - 1 / 2) * (10 : ℚ) ^ a ≤
      (10 ^ (count + 1) - 1 / 2) * 10 ^ b :=
    mul_le_mul_of_nonneg_left (zpow_le_zpow_right₀ (by norm_num) below) size
  constructor
  · intro below
    exact (grows (by omega)).trans significant.low
  · intro reached
    by_contra above
    have beyond := grows (show leading - count ≤ exponent - (count + 1) by omega)
    exact absurd (beyond.trans reached) (not_le.mpr significant.high)

theorem unique (first : Significant count value digits leading)
    (second : Significant count value digits' leading') : digits = digits' ∧ leading = leading' := by
  have same : leading = leading' := le_antisymm
    ((second.leading_iff leading).mpr ((first.leading_iff leading).mp le_rfl))
    ((first.leading_iff leading').mpr ((second.leading_iff leading').mp le_rfl))
  subst same
  exact ⟨first.nearest.unique second.nearest, rfl⟩

/-- A value close to a number of `count + 1` digits has its digits. -/
theorem of_near (least : 10 ^ count ≤ digits) (most : digits < 10 ^ (count + 1))
    (close : |value * 10 ^ ((count : Int) - leading) - digits| ≤ 1 / 20) :
    Significant count value digits leading := by
  have unit : (0 : ℚ) < 10 ^ (leading - count) := by positivity
  have back : value = value * 10 ^ ((count : Int) - leading) * 10 ^ (leading - count) := by
    rw [mul_assoc, ← zpow_add₀ (by norm_num)]
    simp
  obtain ⟨above, below⟩ := abs_le.mp close
  have least' : (10 : ℚ) ^ count ≤ digits := by exact_mod_cast least
  have most' : (digits : ℚ) + 1 ≤ 10 ^ (count + 1) := by exact_mod_cast most
  refine ⟨.of_near (close.trans_lt (by norm_num)), least, most, ?_, ?_⟩
  · have coarser : (10 : ℚ) ^ (leading - (count + 1)) = 10 ^ (leading - count) / 10 := by
      rw [show leading - (count + 1 : Int) = leading - count - 1 by ring, zpow_sub_one₀ (by norm_num)]
      ring
    rw [coarser, back, pow_succ]
    have scaled : (10 : ℚ) ^ count - 1 / 20 ≤ value * 10 ^ ((count : Int) - leading) := by linarith
    calc ((10 : ℚ) ^ count * 10 - 1 / 2) * (10 ^ (leading - count) / 10) =
          (10 ^ count - 1 / 20) * 10 ^ (leading - count) := by ring
      _ ≤ _ := mul_le_mul_of_nonneg_right scaled unit.le
  · rw [back]
    exact mul_lt_mul_of_pos_right (by linarith) unit

theorem scaled_between (low : (10 : ℚ) ^ leading ≤ value) (high : value < 10 ^ (leading + 1)) :
    10 ^ count ≤ value * 10 ^ ((count : Int) - leading) ∧
      value * 10 ^ ((count : Int) - leading) < 10 ^ (count + 1) := by
  have unit : (0 : ℚ) < 10 ^ ((count : Int) - leading) := by positivity
  constructor
  · calc (10 : ℚ) ^ count = 10 ^ leading * 10 ^ ((count : Int) - leading) := by
          rw [← zpow_natCast, ← zpow_add₀ (by norm_num)]
          congr 1
          omega
      _ ≤ _ := mul_le_mul_of_nonneg_right low unit.le
  · calc value * 10 ^ ((count : Int) - leading) < 10 ^ (leading + 1) * 10 ^ ((count : Int) - leading) :=
          mul_lt_mul_of_pos_right high unit
      _ = 10 ^ (count + 1) := by
          rw [← zpow_natCast, ← zpow_add₀ (by norm_num)]
          congr 1
          omega

/-- Rounding that carries gives the digits of the next power of ten. -/
theorem of_carried (nearest : Nearest (value * 10 ^ ((count : Int) - leading)) (10 ^ (count + 1))) :
    Significant count value (10 ^ count) (leading + 1) := by
  refine .of_near le_rfl (Nat.pow_lt_pow_right (by decide) (Nat.lt_succ_self count)) ?_
  have near := nearest.near
  have coarser : value * 10 ^ ((count : Int) - (leading + 1)) - (10 ^ count : Nat) =
      (value * 10 ^ ((count : Int) - leading) - (10 ^ (count + 1) : Nat)) / 10 := by
    rw [show (count : Int) - (leading + 1) = count - leading - 1 by ring, zpow_sub_one₀ (by norm_num)]
    push_cast
    ring
  rw [coarser, abs_div, abs_of_pos (by norm_num : (0 : ℚ) < 10)]
  linarith

/-- From half a unit below the power of ten on, rounding carries, as the power is even. -/
theorem nearest_power (reached : (10 ^ (count + 1) - 1 / 2) * 10 ^ (leading - count) ≤ value)
    (high : value * 10 ^ ((count : Int) - leading) < 10 ^ (count + 1)) :
    Nearest (value * 10 ^ ((count : Int) - leading)) (10 ^ (count + 1)) := by
  have low : (10 : ℚ) ^ (count + 1) - 1 / 2 ≤ value * 10 ^ ((count : Int) - leading) := by
    calc (10 : ℚ) ^ (count + 1) - 1 / 2 = (10 ^ (count + 1) - 1 / 2) * 10 ^ (leading - count) *
          10 ^ ((count : Int) - leading) := by
          rw [mul_assoc, ← zpow_add₀ (by norm_num)]
          simp
      _ ≤ _ := mul_le_mul_of_nonneg_right reached (by positivity)
  refine ⟨?_, fun _ => by omega⟩
  push_cast
  rw [abs_le]
  constructor <;> linarith

/-- Rounding either stays below the next power of ten or carries to it. -/
theorem of_nearest {full : Nat} (nearest : Nearest (value * 10 ^ ((count : Int) - leading)) full)
    (low : (10 : ℚ) ^ leading ≤ value) (high : value < 10 ^ (leading + 1)) :
    if full = Power.ten (count + 1) then Significant count value (Power.ten count) (leading + 1)
    else Significant count value full leading := by
  obtain ⟨low', high'⟩ := scaled_between low high
  split
  · next carried =>
    subst carried
    exact of_carried nearest
  · next stays =>
    have least : 10 ^ count ≤ full := nearest.le_of_le (by exact_mod_cast low')
    have most : full ≤ 10 ^ (count + 1) := nearest.ge_of_ge (by exact_mod_cast high'.le)
    refine ⟨nearest, least, lt_of_le_of_ne most stays, ?_, ?_⟩
    · calc ((10 : ℚ) ^ (count + 1) - 1 / 2) * 10 ^ (leading - (count + 1)) ≤
            10 ^ (count + 1) * 10 ^ (leading - (count + 1)) :=
            mul_le_mul_of_nonneg_right (by linarith) (by positivity)
        _ = 10 ^ leading := by
            rw [← zpow_natCast, ← zpow_add₀ (by norm_num)]
            congr 1
            omega
        _ ≤ value := low
    · by_contra reached
      exact stays (nearest.unique (nearest_power (not_lt.mp reached) high'))

end Significant

theorem significantDigits_significant (count : Nat) {n d : Nat} (some : n ≠ 0) (some' : d ≠ 0) :
    Significant count ((n : ℚ) / d) (significantDigits (count + 1) n d).1
      (significantDigits (count + 1) n d).2 := by
  have nearest := scaledDigits_nearest n some' ((count : Int) - leadingExponent n d)
  have low := Int.zpow_log_le_self (by decide : 1 < 10) (quotient_pos some some')
  have high := Int.lt_zpow_succ_log_self (by decide : 1 < 10) ((n : ℚ) / d)
  rw [← leadingExponent_eq some some', Nat.cast_ofNat] at low high
  have significant := Significant.of_nearest nearest low high
  have places : ((count + 1 : Nat) : Int) - 1 - leadingExponent n d = count - leadingExponent n d := by
    omega
  rw [significantDigits, places, Nat.add_sub_cancel]
  by_cases carried : scaledDigits n d (count - leadingExponent n d) = Power.ten (count + 1)
  · rw [if_pos carried] at significant ⊢
    exact significant
  · rw [if_neg carried] at significant ⊢
    exact significant

end ServiceProbe.Decimal
