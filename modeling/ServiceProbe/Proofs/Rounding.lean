import Mathlib.Algebra.Order.Field.Power
import Mathlib.Data.Rat.Cast.Order
import Mathlib.Tactic.FieldSimp
import Mathlib.Tactic.Linarith
import Mathlib.Tactic.Positivity
import Mathlib.Tactic.Ring
import ServiceProbe.Proofs.Range
/-!
What rounding leaves in its order. A difference that is positive once it is rounded was positive before,
so that whoever waits for a deadline has not reached it, and adding nothing leaves a double as it is.
-/
namespace ServiceProbe

namespace Power

theorem cast_two (exponent : Nat) : (two exponent : ℚ) = 2 ^ exponent := by
  simp [two]

/-- A power with a negative exponent is below the line. -/
theorem zpow_parts {base : ℚ} (some : base ≠ 0) (exponent : Int) :
    base ^ exponent = base ^ exponent.toNat / base ^ (-exponent).toNat := by
  have parts : exponent = (exponent.toNat : Int) - ((-exponent).toNat : Int) := by omega
  calc base ^ exponent = base ^ ((exponent.toNat : Int) - ((-exponent).toNat : Int)) := by rw [← parts]
    _ = base ^ exponent.toNat / base ^ (-exponent).toNat := by
      rw [zpow_sub₀ some, zpow_natCast, zpow_natCast]

end Power

namespace Double

/-- An exact value with a sign. -/
def signed (negative : Bool) (size : ℚ) : ℚ := if negative then -size else size

@[simp] theorem signed_false (size : ℚ) : signed false size = size := rfl

@[simp] theorem signed_true (size : ℚ) : signed true size = -size := rfl

/-- Sizes that keep their order to a third keep it under any sign. -/
theorem signed_keeps {x y a : ℚ} (size : 0 ≤ x) (size' : 0 ≤ y) (natural : 0 ≤ a)
    (above : x < y → x < a) (below : y < x → a < x) (negative sign : Bool) :
    (signed negative x < signed sign y → signed negative x < signed sign a) ∧
      (signed sign y < signed negative x → signed sign a < signed negative x) := by
  -- With signs that differ the order is that of the signs, unless one of the two is zero.
  have apart : 0 < x + y → 0 < x + a := by
    intro some
    rcases size.eq_or_lt with zero | positive
    · have next : x < a := above (by linarith)
      linarith
    · linarith
  cases negative <;> cases sign <;> simp only [signed_true, signed_false]
  · exact ⟨above, below⟩
  · exact ⟨fun order => by linarith, fun order => by linarith [apart (by linarith)]⟩
  · exact ⟨fun order => by linarith [apart (by linarith)], fun order => by linarith⟩
  · exact ⟨fun order => by linarith [below (by linarith)], fun order => by linarith [above (by linarith)]⟩

theorem signed_not (negative : Bool) (size : ℚ) : signed (!negative) size = -signed negative size := by
  cases negative <;> simp

/-- A mantissa that is carried into the exponent stands for the same value. -/
theorem pack_cases (negative : Bool) (mantissa : Nat) (exponent : Int) :
    pack negative mantissa exponent = .infinite negative ∨
      ∃ m e, pack negative mantissa exponent = .finite negative m e ∧
        (m : ℚ) * 2 ^ e = mantissa * 2 ^ exponent := by
  unfold pack
  by_cases full : mantissa = Power.two 53
  · simp only [if_pos full]
    split
    · exact Or.inl rfl
    · refine Or.inr ⟨_, _, rfl, ?_⟩
      rw [full, Power.cast_two, Power.cast_two, zpow_add₀ (by norm_num)]
      ring
  · simp only [if_neg full]
    split
    · exact Or.inl rfl
    · exact Or.inr ⟨_, _, rfl, rfl⟩

/-- A quotient keeps its sign. -/
theorem ofRatio_cases (negative : Bool) (numerator denominator : Nat) :
    ofRatio negative numerator denominator = .infinite negative ∨
      ∃ m e, ofRatio negative numerator denominator = .finite negative m e := by
  unfold ofRatio
  split
  · exact Or.inr ⟨_, _, rfl⟩
  · dsimp only
    generalize max (floorLog2 numerator denominator - 52) leastExponent = exponent
    rcases pack_cases negative (roundHalfEven (numerator * Power.two (-exponent).toNat)
      (denominator * Power.two exponent.toNat)) exponent with packed | ⟨m, e, packed, _⟩
    · exact Or.inl packed
    · exact Or.inr ⟨m, e, packed⟩

theorem isPositive_ofRatio {negative : Bool} {numerator denominator : Nat}
    (positive : (ofRatio negative numerator denominator).isPositive = true) : negative = false := by
  rcases ofRatio_cases negative numerator denominator with rounded | ⟨m, e, rounded⟩
  · simpa [rounded, isPositive] using positive
  · rw [rounded] at positive
    simpa using ((Bool.and_eq_true _ _).mp positive).1

theorem cast_scaledTo {scale exponent : Int} (below : scale ≤ exponent) (negative : Bool)
    (mantissa : Nat) :
    (scaledTo scale negative mantissa exponent : ℚ) * 2 ^ scale =
      signed negative (mantissa * 2 ^ exponent) := by
  have power : (2 : ℚ) ^ (exponent - scale).toNat * 2 ^ scale = 2 ^ exponent := by
    rw [← zpow_natCast, ← zpow_add₀ (by norm_num)]
    congr 1
    omega
  cases negative with
  | false => simp [scaledTo, Power.cast_two, mul_assoc, power]
  | true => simp [scaledTo, Power.cast_two, mul_assoc, power]

/-- What is positive as a rounded sum is positive as an exact one. -/
theorem add_positive {n₁ n₂ : Bool} {m₁ m₂ : Nat} {e₁ e₂ : Int}
    (positive : (add (.finite n₁ m₁ e₁) (.finite n₂ m₂ e₂)).isPositive = true) :
    0 < signed n₁ (m₁ * 2 ^ e₁) + signed n₂ (m₂ * 2 ^ e₂) := by
  -- In units of the smaller exponent both are whole numbers, and so is their sum before it is rounded.
  have first := cast_scaledTo (min_le_left e₁ e₂) n₁ m₁
  have second := cast_scaledTo (min_le_right e₁ e₂) n₂ m₂
  rw [add] at positive
  rw [← first, ← second, ← add_mul, ← Int.cast_add]
  generalize scaledTo (min e₁ e₂) n₁ m₁ e₁ + scaledTo (min e₁ e₂) n₂ m₂ e₂ = sum at positive ⊢
  split at positive
  · simp [zero, isPositive] at positive
  · next some =>
    have sign : ¬sum < 0 := by simpa using isPositive_ofRatio positive
    have above : 0 < sum := by omega
    positivity

/-! Rounding does not carry a whole number past a double. -/

theorem roundHalfEven_exact (bound : Nat) {denominator : Nat} (some : 0 < denominator) :
    roundHalfEven (bound * denominator) denominator = bound := by
  unfold roundHalfEven
  simp [some]

theorem roundHalfEven_above {numerator denominator bound : Nat} (some : 0 < denominator)
    (reached : numerator ≤ bound * denominator) : roundHalfEven numerator denominator ≤ bound := by
  rcases Nat.lt_or_eq_of_le reached with below | rfl
  · exact roundHalfEven_le below
  · exact (roundHalfEven_exact bound some).le

theorem roundHalfEven_below {numerator denominator bound : Nat} (some : 0 < denominator)
    (reached : bound * denominator ≤ numerator) : bound ≤ roundHalfEven numerator denominator := by
  have quotient : bound ≤ numerator / denominator := (Nat.le_div_iff_mul_le some).mpr reached
  unfold roundHalfEven
  dsimp only
  split
  · exact quotient
  · split <;> omega

section Unit

variable {n count mantissa : Nat} {unit exponent : Int}

/-- A whole number is compared with some units by two whole numbers. -/
theorem units_compare (n count : Nat) (unit : Int) :
    let numerator := n * Power.two (-unit).toNat
    let denominator := 1 * Power.two unit.toNat
    ((n : ℚ) ≤ count * 2 ^ unit ↔ numerator ≤ count * denominator) ∧
      (count * 2 ^ unit ≤ (n : ℚ) ↔ count * denominator ≤ numerator) := by
  intro numerator denominator
  have scaled : (n : ℚ) = numerator / denominator * 2 ^ unit := by
    rw [Power.zpow_parts two_ne_zero]
    push_cast [numerator, denominator, Power.cast_two]
    field_simp
  have some : (0 : ℚ) < denominator := Nat.cast_pos.mpr (Nat.mul_pos Nat.one_pos (Power.two_pos _))
  have power : (0 : ℚ) < 2 ^ unit := by positivity
  rw [scaled, mul_le_mul_iff_left₀ power, mul_le_mul_iff_left₀ power, div_le_iff₀ some,
    le_div_iff₀ some]
  exact ⟨by exact_mod_cast Iff.rfl, by exact_mod_cast Iff.rfl⟩

/-- A double is some whole number of smaller units. -/
theorem double_in_units (coarser : unit ≤ exponent) :
    (mantissa : ℚ) * 2 ^ exponent = (mantissa * Power.two (exponent - unit).toNat : Nat) * 2 ^ unit := by
  have power : (2 : ℚ) ^ (exponent - unit).toNat * 2 ^ unit = 2 ^ exponent := by
    rw [← zpow_natCast, ← zpow_add₀ (by norm_num)]
    congr 1
    omega
  push_cast [Power.cast_two]
  rw [mul_assoc, power]

/-- Rounding to some unit passes no multiple of it. -/
theorem rounded_between (n count : Nat) (unit : Int) :
    let rounded := roundHalfEven (n * Power.two (-unit).toNat) (1 * Power.two unit.toNat)
    ((n : ℚ) ≤ count * 2 ^ unit → (rounded : ℚ) * 2 ^ unit ≤ count * 2 ^ unit) ∧
      (count * 2 ^ unit ≤ (n : ℚ) → (count : ℚ) * 2 ^ unit ≤ rounded * 2 ^ unit) := by
  intro rounded
  obtain ⟨above, below⟩ := units_compare n count unit
  have some : 0 < 1 * Power.two unit.toNat := Nat.mul_pos Nat.one_pos (Power.two_pos _)
  have power : (0 : ℚ) < 2 ^ unit := by positivity
  rw [mul_le_mul_iff_left₀ power, mul_le_mul_iff_left₀ power, above, below, Nat.cast_le, Nat.cast_le]
  exact ⟨roundHalfEven_above some, roundHalfEven_below some⟩

end Unit

/-- A whole number that is rounded to a double stays on its side of every double. -/
theorem ofRatio_one_between {negative sign : Bool} {n m mantissa : Nat} {e : Int}
    (rounded : ofRatio negative n 1 = .finite sign m e) (short : mantissa < Power.two 53)
    (exponent : Int) :
    ((n : ℚ) ≤ mantissa * 2 ^ exponent → (m : ℚ) * 2 ^ e ≤ mantissa * 2 ^ exponent) ∧
      ((mantissa : ℚ) * 2 ^ exponent ≤ n → mantissa * 2 ^ exponent ≤ (m : ℚ) * 2 ^ e) := by
  by_cases void : n = 0
  · subst void
    obtain ⟨rfl, rfl, rfl⟩ : negative = sign ∧ 0 = m ∧ leastExponent = e := by
      simpa [ofRatio, zero] using rounded
    simp
  rw [ofRatio_one_eq negative void] at rounded
  have leading : (Power.two 52 : Nat) * (2 : ℚ) ^ ((n.log2 : Int) - 52) ≤ n := by
    have power : (2 : ℚ) ^ 52 * 2 ^ ((n.log2 : Int) - 52) = (2 ^ n.log2 : Nat) := by
      rw [← zpow_natCast, ← zpow_add₀ (by norm_num)]
      push_cast
      rw [← zpow_natCast]
      congr 1
      omega
    rw [Power.cast_two, power]
    exact Nat.cast_le.mpr (Nat.log2_self_le void)
  generalize (n.log2 : Int) - 52 = unit at rounded leading
  have between (count : Nat) := rounded_between n count unit
  dsimp only at between
  generalize roundHalfEven (n * Power.two (-unit).toNat) (1 * Power.two unit.toNat) = full
    at rounded between
  have value : (m : ℚ) * 2 ^ e = full * 2 ^ unit := by
    rcases pack_cases negative full unit with packed | ⟨_, _, packed, same⟩
    · rw [packed] at rounded
      cases rounded
    · rw [packed] at rounded
      cases rounded
      exact same
  rw [value]
  by_cases coarser : unit ≤ exponent
  · rw [double_in_units coarser]
    exact between _
  · -- A double with smaller units than the rounded number is below its leading bit.
    have small : (mantissa : ℚ) * 2 ^ exponent < (Power.two 52 : Nat) * 2 ^ unit := by
      have digits : (mantissa : ℚ) < 2 ^ 53 := by exact_mod_cast short
      have next : (2 : ℚ) ^ (exponent + 1) ≤ 2 ^ unit := zpow_le_zpow_right₀ (by norm_num) (by omega)
      have power : (0 : ℚ) < 2 ^ exponent := by positivity
      calc (mantissa : ℚ) * 2 ^ exponent < 2 ^ 53 * 2 ^ exponent := mul_lt_mul_of_pos_right digits power
        _ = 2 ^ 52 * 2 ^ (exponent + 1) := by
          rw [zpow_add₀ (by norm_num)]
          ring
        _ ≤ (Power.two 52 : Nat) * 2 ^ unit := by
          rw [Power.cast_two]
          exact mul_le_mul_of_nonneg_left next (by positivity)
    constructor
    · intro above
      exact absurd (above.trans_lt small) (not_lt.mpr leading)
    · exact fun _ => small.le.trans ((between (Power.two 52)).2 leading)

theorem add_fits (a b : Double) : (add a b).Fits := by
  unfold add
  split
  · dsimp only
    split
    · exact zero_fits _
    · exact ofRatio_fits _ _ (Nat.ne_of_gt (Power.two_pos _))
  · trivial
  · trivial
  · split <;> trivial
  · trivial
  · trivial

/-! Adding nothing. -/

/-- The finite doubles of 64 bits have a leading bit where their exponent is not the least. -/
def Regular : Double → Prop
  | .finite _ mantissa exponent =>
    mantissa < Power.two 53 ∧ leastExponent ≤ exponent ∧ exponent ≤ greatestExponent ∧
      (Power.two 52 ≤ mantissa ∨ exponent = leastExponent)
  | _ => True

theorem log2_scaled {mantissa : Nat} (some : mantissa ≠ 0) (up : Nat) :
    (mantissa * Power.two up).log2 = mantissa.log2 + up := by
  have power := Power.two_pos up
  rw [Nat.log2_eq_iff (Nat.mul_ne_zero some power.ne')]
  have next : mantissa.log2 + up + 1 = mantissa.log2 + 1 + up := by omega
  rw [next, Nat.pow_add, Nat.pow_add _ (mantissa.log2 + 1)]
  exact ⟨Nat.mul_le_mul_right _ (Nat.log2_self_le some),
    Nat.mul_lt_mul_of_pos_right Nat.lt_log2_self power⟩

theorem floorLog2_scaled {mantissa : Nat} (some : mantissa ≠ 0) (up down : Nat) :
    floorLog2 (mantissa * Power.two up) (Power.two down) = mantissa.log2 + up - down := by
  have leading : (Power.two down).log2 = down := Nat.log2_two_pow
  unfold floorLog2
  rw [log2_scaled some, leading]
  dsimp only
  generalize guess : ((mantissa.log2 + up : Nat) : Int) - down = exponent
  have reached : Power.two down * Power.two exponent.toNat ≤
      mantissa * Power.two up * Power.two (-exponent).toNat := by
    have parts : down + exponent.toNat = mantissa.log2 + (up + (-exponent).toNat) := by omega
    rw [← Power.two_add, parts, Power.two_add, mul_assoc, ← Power.two_add up]
    exact Nat.mul_le_mul_right _ (Nat.log2_self_le some)
  rw [if_neg (Nat.not_lt.mpr reached)]
  omega

/-- A regular double is rounded to itself. -/
theorem ofRatio_regular {negative : Bool} {mantissa : Nat} {exponent : Int}
    (regular : (finite negative mantissa exponent).Regular) (some : mantissa ≠ 0) :
    ofRatio negative (mantissa * Power.two (exponent - leastExponent).toNat)
      (Power.two (-leastExponent).toNat) = .finite negative mantissa exponent := by
  obtain ⟨short, least, greatest, leading⟩ := regular
  -- The quotient is rounded to the unit that the double has already.
  have unit : max (floorLog2 (mantissa * Power.two (exponent - leastExponent).toNat)
      (Power.two (-leastExponent).toNat) - 52) leastExponent = exponent := by
    have low : leastExponent = -1074 := rfl
    have bits : mantissa.log2 < 53 := (Nat.log2_lt some).mpr short
    rw [floorLog2_scaled some]
    rcases leading with leading | rfl
    · have high : 52 ≤ mantissa.log2 := (Nat.le_log2 some).mpr leading
      omega
    · omega
  have whole : mantissa * Power.two (exponent - leastExponent).toNat * Power.two (-exponent).toNat =
      mantissa * (Power.two (-leastExponent).toNat * Power.two exponent.toNat) := by
    have parts : (exponent - leastExponent).toNat + (-exponent).toNat =
        (-leastExponent).toNat + exponent.toNat := by
      have low : leastExponent = -1074 := rfl
      omega
    rw [mul_assoc, ← Power.two_add, ← Power.two_add, parts]
  rw [ofRatio, if_neg (Nat.mul_ne_zero some (Power.two_pos _).ne')]
  dsimp only
  rw [unit, whole, roundHalfEven_exact _ (Nat.mul_pos (Power.two_pos _) (Power.two_pos _)), pack,
    if_neg (Nat.ne_of_lt short)]
  dsimp only
  rw [if_neg (Int.not_lt.mpr greatest)]

theorem scaledTo_sign (scale : Int) (negative : Bool) {mantissa : Nat} (some : mantissa ≠ 0)
    (exponent : Int) :
    scaledTo scale negative mantissa exponent ≠ 0 ∧
      decide (scaledTo scale negative mantissa exponent < 0) = negative ∧
      (scaledTo scale negative mantissa exponent).natAbs =
        mantissa * Power.two (exponent - scale).toNat := by
  have size : 0 < mantissa * Power.two (exponent - scale).toNat :=
    Nat.mul_pos (Nat.pos_of_ne_zero some) (Power.two_pos _)
  have above : (0 : Int) < (mantissa * Power.two (exponent - scale).toNat : Nat) :=
    Int.natCast_pos.mpr size
  unfold scaledTo
  rw [← Int.natCast_mul]
  cases negative with
  | false => exact ⟨above.ne', decide_eq_false (Int.not_lt.mpr above.le), Int.natAbs_natCast _⟩
  | true =>
    refine ⟨Int.neg_ne_zero.mpr above.ne', decide_eq_true (Int.neg_neg_of_pos above), ?_⟩
    rw [if_pos rfl, Int.natAbs_neg, Int.natAbs_natCast]

/-- Nothing but the sign of zero changes where nothing is added. -/
theorem add_zero_regular {double : Double} (regular : double.Regular) (other : double ≠ zero true) :
    add double (zero false) = double := by
  match double with
  | .nan => rfl
  | .infinite negative => rfl
  | .finite negative mantissa exponent =>
    have scale : min exponent leastExponent = leastExponent := min_eq_right regular.2.1
    have nothing : scaledTo leastExponent false 0 leastExponent = 0 := by decide
    rw [zero, add, scale, nothing, add_zero]
    by_cases void : mantissa = 0
    · subst void
      -- A zero has the least exponent, and a negative one is excluded.
      have least : exponent = leastExponent :=
        regular.2.2.2.resolve_left (Nat.not_le.mpr (Power.two_pos 52))
      subst least
      cases negative with
      | false => rfl
      | true => exact absurd rfl other
    · obtain ⟨some, sign, size⟩ := scaledTo_sign leastExponent negative void exponent
      rw [if_neg some, sign, size, ofScaled]
      have unscaled : Power.two leastExponent.toNat = 1 := rfl
      rw [unscaled, mul_one]
      exact ofRatio_regular regular void

/-- From either zero the same is left, if anything is. -/
theorem sub_zero_positive {double : Double} (positive : (double.sub (zero true)).isPositive = true) :
    double.sub (zero true) = double.sub (zero false) := by
  match double with
  | .nan => rfl
  | .infinite negative => rfl
  | .finite negative mantissa exponent =>
    have nothing (sign : Bool) (scale : Int) : scaledTo scale sign 0 leastExponent = 0 := by
      cases sign <;> simp [scaledTo]
    simp only [sub, negate, zero, add, nothing] at positive ⊢
    split at positive
    · simp [isPositive] at positive
    · next some => rw [if_neg some, if_neg some]

end Double

namespace Number

/-- The exact value of a number that is neither infinite nor undefined. -/
def value? : Number → Option ℚ
  | .int n => some n
  | .real (.finite negative mantissa exponent) =>
    some (Double.signed negative (mantissa * 2 ^ exponent))
  | .real _ => none

theorem fraction_of_value {a : Number} {value : ℚ} (finite : a.value? = some value) :
    ∃ numerator scale, a.position? = some (.fraction numerator scale) ∧
      value = numerator / 2 ^ scale := by
  match a with
  | .int n =>
    cases finite
    exact ⟨n, 0, rfl, by simp⟩
  | .real (.finite negative mantissa exponent) =>
    cases finite
    refine ⟨_, _, rfl, ?_⟩
    rw [Power.zpow_parts two_ne_zero]
    cases negative <;> simp [Power.cast_two, mul_div_assoc, neg_div]

theorem Position.lt_fraction (n n' : Int) (s s' : Nat) :
    (Position.fraction n s).lt (.fraction n' s') = true ↔ (n : ℚ) / 2 ^ s < n' / 2 ^ s' := by
  have exact : (Position.fraction n s).lt (.fraction n' s') =
      decide (n * Power.two s' < n' * Power.two s) := rfl
  rw [exact, decide_eq_true_eq, div_lt_div_iff₀ (by positivity) (by positivity)]
  constructor
  · intro below
    have cast : ((n * Power.two s' : Int) : ℚ) < (n' * Power.two s : Int) := Int.cast_lt.mpr below
    simpa [Power.cast_two] using cast
  · intro below
    have cast : ((n * Power.two s' : Int) : ℚ) < (n' * Power.two s : Int) := by
      simpa [Power.cast_two] using below
    exact Int.cast_lt.mp cast

/-- Numbers are compared by their exact values. -/
theorem lt_of_values {a b : Number} {x y : ℚ} (first : a.value? = some x) (second : b.value? = some y) :
    a.lt b = true ↔ x < y := by
  obtain ⟨n, s, place, rfl⟩ := fraction_of_value first
  obtain ⟨n', s', place', rfl⟩ := fraction_of_value second
  rw [lt, place, place']
  exact Position.lt_fraction n n' s s'

/-- Numbers of one value are compared alike with any other. -/
theorem compare_congr {a b : Number} {x : ℚ} (first : a.value? = some x) (second : b.value? = some x)
    (other : Number) : a.lt other = b.lt other ∧ a.ge other = b.ge other := by
  obtain ⟨n, s, place, value⟩ := fraction_of_value first
  obtain ⟨n', s', place', value'⟩ := fraction_of_value second
  simp only [lt, ge, place, place']
  cases other.position? with
  | none => exact ⟨rfl, rfl⟩
  | some position =>
    have same : (Position.fraction n s).lt position = (Position.fraction n' s').lt position := by
      cases position with
      | lowest | highest => rfl
      | fraction m t =>
        rw [Bool.eq_iff_iff, Position.lt_fraction, Position.lt_fraction, ← value, ← value']
    exact ⟨same, congrArg (!·) same⟩

theorem lt_of_sub_double {a b : Double} (positive : (a.sub b).isPositive = true) :
    Number.lt (.real b) (.real a) = true := by
  match a, b with
  | .finite n₁ m₁ e₁, .finite n₂ m₂ e₂ =>
    have difference := Double.add_positive positive
    rw [Double.signed_not] at difference
    exact (lt_of_values rfl rfl).mpr (by linarith)
  | .nan, _ => cases positive
  | .finite .., .nan => cases positive
  | .infinite _, .nan => cases positive
  | .infinite false, .finite .. => rfl
  | .infinite true, .finite .. => cases positive
  | .finite .., .infinite true => rfl
  | .finite .., .infinite false => cases positive
  | .infinite false, .infinite true => rfl
  | .infinite false, .infinite false => cases positive
  | .infinite true, .infinite true => cases positive
  | .infinite true, .infinite false => cases positive

theorem toDouble_int {n : Int} {rounded : Double} (fits : (int n).toDouble = .ok rounded) :
    ∃ m e, rounded = .finite (n < 0) m e ∧
      Double.ofRatio (n < 0) n.natAbs 1 = .finite (n < 0) m e := by
  rcases Double.ofRatio_cases (n < 0) n.natAbs 1 with infinite | ⟨m, e, finite⟩
  · rw [toDouble, infinite] at fits
    cases fits
  · rw [toDouble, finite] at fits
    cases fits
    exact ⟨m, e, rfl, finite⟩

theorem isAtMostZero_of_isPositive {a : Number} (positive : a.isPositive = true) :
    a.isAtMostZero = false := by
  match a with
  | .int n => simpa [isPositive, isAtMostZero] using positive
  | .real (.finite negative mantissa exponent) =>
    simpa [isPositive, isAtMostZero, Double.isPositive, Double.isAtMostZero] using positive
  | .real (.infinite negative) =>
    simpa [isPositive, isAtMostZero, Double.isPositive, Double.isAtMostZero] using positive
  | .real .nan => cases positive

/-- What is positive is so as a double. -/
theorem toDouble_isPositive {a : Number} {rounded : Double} (positive : a.isPositive = true)
    (fits : a.toDouble = .ok rounded) : rounded.isPositive = true := by
  rcases toDouble_positive (isAtMostZero_of_isPositive positive) fits with rfl | above
  · cases positive
  · exact above

/-- A whole number that becomes a double stays on its side of every double. -/
theorem toDouble_keeps {n : Int} {rounded double : Double} (fits : (int n).toDouble = .ok rounded)
    (short : double.Fits) :
    (lt (.real double) (.real rounded) = true → lt (.real double) (.int n) = true) ∧
      (lt (.real rounded) (.real double) = true → lt (.int n) (.real double) = true) := by
  obtain ⟨m, e, rfl, found⟩ := toDouble_int fits
  match double with
  | .nan => exact ⟨nofun, nofun⟩
  | .infinite false => exact ⟨nofun, fun _ => rfl⟩
  | .infinite true => exact ⟨fun _ => rfl, nofun⟩
  | .finite negative mantissa exponent =>
    obtain ⟨above, below⟩ := Double.ofRatio_one_between found short.1 exponent
    rw [lt_of_values rfl rfl, lt_of_values rfl rfl, lt_of_values rfl rfl, lt_of_values rfl rfl]
    have whole : (n : ℚ) = Double.signed (n < 0) n.natAbs := by
      by_cases sign : n < 0
      · simp [sign, Double.signed, abs_of_neg]
      · simp [sign, Double.signed, abs_of_nonneg (not_lt.mp sign)]
    rw [whole]
    exact Double.signed_keeps (by positivity) (by positivity) (by positivity)
      (lt_imp_lt_of_le_imp_le above) (lt_imp_lt_of_le_imp_le below) negative _

/-- Where a whole number is combined with a double, the double is one of 64 bits. -/
def Matched : Number → Number → Prop
  | .int _, .real double => double.Fits
  | .real double, .int _ => double.Fits
  | _, _ => True

/-- A deadline from which something positive is left is later than the clock. -/
theorem lt_of_sub {a b difference : Number} (matched : Matched a b)
    (found : a.sub b = .ok difference) (positive : difference.isPositive = true) :
    b.lt a = true := by
  match a, b with
  | .int n, .int m =>
    cases found
    have order : 0 < n - m := by simpa [isPositive] using positive
    exact (lt_of_values rfl rfl).mpr (by exact_mod_cast (by omega : m < n))
  | .int n, .real double =>
    obtain ⟨rounded, fits, found⟩ := Outcome.bind_ok found
    obtain ⟨same, fits', found⟩ := Outcome.bind_ok found
    cases fits'
    cases found
    exact (toDouble_keeps fits matched).1 (lt_of_sub_double positive)
  | .real double, .int n =>
    obtain ⟨same, fits, found⟩ := Outcome.bind_ok found
    obtain ⟨rounded, fits', found⟩ := Outcome.bind_ok found
    cases fits
    cases found
    exact (toDouble_keeps fits' matched).2 (lt_of_sub_double positive)
  | .real _, .real _ =>
    cases found
    exact lt_of_sub_double positive

theorem add_cases {a b sum : Number} (found : a.add b = .ok sum) :
    (∃ n m, a = .int n ∧ b = .int m ∧ sum = .int (n + m)) ∨
      ∃ first second, sum = .real (Double.add first second) := by
  have combined (found : (do return .real (Double.add (← a.toDouble) (← b.toDouble))) =
      (Except.ok sum : Except OutOfRange Number)) :
      ∃ first second, sum = .real (Double.add first second) := by
    obtain ⟨first, _, found⟩ := Outcome.bind_ok found
    obtain ⟨second, _, found⟩ := Outcome.bind_ok found
    cases found
    exact ⟨first, second, rfl⟩
  match a, b with
  | .int n, .int m =>
    cases found
    exact Or.inl ⟨n, m, rfl, rfl, rfl⟩
  | .int _, .real _ => exact Or.inr (combined found)
  | .real _, .int _ => exact Or.inr (combined found)
  | .real _, .real _ => exact Or.inr (combined found)

/-- A deadline is counted from the clock. -/
theorem matched_start {clock timeout deadline : Number} (found : clock.add timeout = .ok deadline) :
    Matched deadline clock := by
  rcases add_cases found with ⟨n, m, rfl, rfl, rfl⟩ | ⟨first, second, rfl⟩
  · trivial
  · cases clock with
    | int n => exact Double.add_fits first second
    | real double => trivial

theorem matched_step {deadline clock delay later : Number} (matched : Matched deadline clock)
    (found : clock.add delay = .ok later) : Matched deadline later := by
  rcases add_cases found with ⟨n, m, rfl, rfl, rfl⟩ | ⟨first, second, rfl⟩
  · cases deadline with
    | int k => trivial
    | real double => exact matched
  · cases deadline with
    | int k => exact Double.add_fits first second
    | real double => trivial

/-- An integer, or a double of 64 bits. -/
def Regular : Number → Prop
  | .int _ => True
  | .real double => double.Regular

/-- Where nothing is added, nothing but the sign of zero changes, and that only once. -/
theorem add_zero_steady {clock : Number} (regular : clock.Regular) :
    ∃ later, clock.add (.int 0) = .ok later ∧ later.add (.int 0) = .ok later ∧
      (later = clock ∨ clock = .real (Double.zero true) ∧ later = .real (Double.zero false)) := by
  have nothing : (int 0).toDouble = .ok (Double.zero false) := rfl
  have combined (double : Double) :
      (Number.real double).add (.int 0) = .ok (.real (double.add (Double.zero false))) := by
    rw [add, nothing]
    · rfl
    · rintro _ _ ⟨⟩
  cases clock with
  | int n =>
    have same : (int n).add (.int 0) = .ok (.int n) := by rw [add, Int.add_zero]
    exact ⟨.int n, same, same, Or.inl rfl⟩
  | real double =>
    by_cases negative : double = Double.zero true
    · subst negative
      exact ⟨.real (Double.zero false), rfl, rfl, Or.inr ⟨rfl, rfl⟩⟩
    · have same : (Number.real double).add (.int 0) = .ok (.real double) := by
        rw [combined, Double.add_zero_regular regular negative]
      exact ⟨.real double, same, same, Or.inl rfl⟩

end Number

end ServiceProbe
