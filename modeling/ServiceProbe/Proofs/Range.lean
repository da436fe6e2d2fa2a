import ServiceProbe.Field
import ServiceProbe.Proofs.Outcome
/-!
Which numbers a double can hold. An integer is too large from half a unit above the largest double
on, a positive one stays positive, and what is read from text is a double of 64 bits or infinite.
-/
namespace ServiceProbe

namespace Power

theorem two_pos (exponent : Nat) : 0 < two exponent := Nat.two_pow_pos exponent

theorem two_add (a b : Nat) : two (a + b) = two a * two b := Nat.pow_add 2 a b

theorem two_le {a b : Nat} (smaller : a ≤ b) : two a ≤ two b :=
  Nat.pow_le_pow_right (by decide) smaller

theorem ten_pos (exponent : Nat) : 0 < ten exponent := Nat.pow_pos (by decide)

end Power

namespace Double

/-- A quotient is below a power of two. -/
def Below (numerator denominator : Nat) (exponent : Int) : Prop :=
  numerator * Power.two (-exponent).toNat < denominator * Power.two exponent.toNat

theorem below_iff {numerator denominator a b : Nat} {exponent : Int} (parts : (a : Int) - b = exponent) :
    Below numerator denominator exponent ↔
      numerator * Power.two b < denominator * Power.two a := by
  -- One of the two powers is divided out.
  obtain ⟨common, left, right⟩ : ∃ common, a = exponent.toNat + common ∧
      b = (-exponent).toNat + common := ⟨a - exponent.toNat, by omega, by omega⟩
  rw [left, right, Power.two_add, Power.two_add, ← Nat.mul_assoc, ← Nat.mul_assoc]
  exact (Nat.mul_lt_mul_right (Power.two_pos common)).symm

theorem Below.mono {numerator denominator : Nat} {exponent higher : Int}
    (below : Below numerator denominator exponent) (grows : exponent ≤ higher) :
    Below numerator denominator higher := by
  obtain ⟨more, rfl⟩ : ∃ more : Nat, higher = exponent + more := ⟨(higher - exponent).toNat, by omega⟩
  have parts : ((exponent.toNat + more : Nat) : Int) - (-exponent).toNat = exponent + more := by omega
  rw [below_iff parts]
  calc numerator * Power.two (-exponent).toNat
      < denominator * Power.two exponent.toNat := below
    _ ≤ denominator * Power.two (exponent.toNat + more) :=
      Nat.mul_le_mul_left _ (Power.two_le (Nat.le_add_right _ _))

theorem below_floorLog2 (numerator : Nat) {denominator : Nat} (some : denominator ≠ 0) :
    Below numerator denominator (floorLog2 numerator denominator + 1) := by
  unfold floorLog2
  dsimp only
  split
  · next small => rwa [Int.sub_add_cancel]
  · have parts : ((numerator.log2 + 1 : Nat) : Int) - denominator.log2 =
        (numerator.log2 : Int) - denominator.log2 + 1 := by omega
    rw [below_iff parts, Nat.mul_comm denominator]
    exact Nat.mul_lt_mul_of_lt_of_le Nat.lt_log2_self (Nat.log2_self_le some) (Nat.pos_of_ne_zero some)

theorem roundHalfEven_le {numerator denominator bound : Nat}
    (below : numerator < bound * denominator) : roundHalfEven numerator denominator ≤ bound := by
  have quotient : numerator / denominator < bound :=
    Nat.div_lt_of_lt_mul (by rwa [Nat.mul_comm] at below)
  unfold roundHalfEven
  dsimp only
  split
  · omega
  · split <;> omega

/-! Doubles of 64 bits. -/

/-- The parts of a finite double are within their bounds. -/
def Fits : Double → Prop
  | .finite _ mantissa exponent => mantissa < Power.two 53 ∧ exponent ≤ greatestExponent
  | _ => True

theorem zero_fits (negative : Bool) : (zero negative).Fits :=
  ⟨Power.two_pos 53, by decide⟩

theorem pack_fits {mantissa : Nat} (size : mantissa ≤ Power.two 53) (negative : Bool)
    (exponent : Int) : (pack negative mantissa exponent).Fits := by
  unfold pack
  dsimp only
  by_cases full : mantissa = Power.two 53
  · rw [if_pos full]
    dsimp only
    split
    · trivial
    · next within => exact ⟨by decide, by omega⟩
  · rw [if_neg full]
    dsimp only
    split
    · trivial
    · next within => exact ⟨by omega, by omega⟩

theorem ofRatio_fits (negative : Bool) (numerator : Nat) {denominator : Nat}
    (some : denominator ≠ 0) : (ofRatio negative numerator denominator).Fits := by
  unfold ofRatio
  split
  · exact zero_fits negative
  dsimp only
  generalize chosen : max (floorLog2 numerator denominator - 52) leastExponent = exponent
  apply pack_fits
  apply roundHalfEven_le
  -- The mantissa has at most as many bits as there are from the leading one to the unit.
  have below : Below numerator denominator (exponent + 53) :=
    (below_floorLog2 numerator some).mono (by omega)
  have parts : ((exponent.toNat + 53 : Nat) : Int) - (-exponent).toNat = exponent + 53 := by omega
  rw [below_iff parts, Power.two_add] at below
  rwa [Nat.mul_comm (Power.two 53), Nat.mul_assoc]

theorem ofDecimal_fits (negative : Bool) (digits : Nat) (exponent : Int) :
    (ofDecimal negative digits exponent).Fits := by
  unfold ofDecimal
  split
  · exact zero_fits negative
  split
  · trivial
  split
  · exact zero_fits negative
  · exact ofRatio_fits _ _ (Nat.ne_of_gt (Power.ten_pos _))

/-! Integers. -/

/-- Half a unit above the largest double. -/
def limit : Nat := Power.two 1024 - Power.two 970

theorem floorLog2_one {n : Nat} (some : n ≠ 0) : floorLog2 n 1 = n.log2 := by
  have reached : ¬ n * Power.two (-(n.log2 : Int)).toNat < 1 * Power.two (n.log2 : Int).toNat := by
    have power := Nat.log2_self_le some
    simpa [Power.two] using power
  have guess : (n.log2 : Int) - (Nat.log2 1 : Nat) = n.log2 := by
    rw [show Nat.log2 1 = 0 by decide]
    omega
  simp only [floorLog2, guess]
  rw [if_neg reached]

/-- Below the next power of two, the mantissa is rounded up to one from the limit on. -/
theorem roundHalfEven_full {n : Nat} (below : n < Power.two 1024) :
    roundHalfEven n (Power.two 971) = Power.two 53 ↔ limit ≤ n := by
  have step : Power.two 971 = Power.two 1 * Power.two 970 := Power.two_add 1 970
  have top : Power.two 1024 = Power.two 54 * Power.two 970 := Power.two_add 54 970
  have two : Power.two 1 = 2 := rfl
  have full : Power.two 53 = 2 ^ 53 := rfl
  have twice : Power.two 54 = 2 ^ 54 := rfl
  have half := Power.two_pos 970
  rw [top, twice] at below
  rw [limit, step, full, top, two, twice]
  generalize Power.two 970 = unit at *
  by_cases early : n / (2 * unit) < 2 ^ 53 - 1
  · have size := (Nat.div_lt_iff_lt_mul (by omega)).mp early
    have rounded : roundHalfEven n (2 * unit) ≤ 2 ^ 53 - 1 := roundHalfEven_le size
    omega
  · have reached := (Nat.le_div_iff_mul_le (by omega)).mp (Nat.le_of_not_lt early)
    have inside : n / (2 * unit) < 2 ^ 53 := (Nat.div_lt_iff_lt_mul (by omega)).mpr (by omega)
    have quotient : n / (2 * unit) = 2 ^ 53 - 1 := by omega
    have parts := Nat.div_add_mod n (2 * unit)
    rw [quotient] at parts
    simp only [roundHalfEven, quotient]
    split
    · omega
    · split <;> omega

def IsInfinite : Double → Prop
  | .infinite _ => True
  | _ => False

theorem pack_infinite {negative : Bool} {mantissa : Nat} {exponent : Int} :
    (pack negative mantissa exponent).IsInfinite ↔
      greatestExponent < if mantissa = Power.two 53 then exponent + 1 else exponent := by
  unfold pack
  by_cases full : mantissa = Power.two 53
  · simp only [if_pos full]
    split <;> simp [IsInfinite, *]
  · simp only [if_neg full]
    split <;> simp [IsInfinite, *]

theorem two_le_limit : Power.two 1023 ≤ limit := by
  decide +kernel

/-- A natural number is rounded to the unit that leaves 53 bits of it. -/
theorem ofRatio_one_eq (negative : Bool) {n : Nat} (some : n ≠ 0) :
    ofRatio negative n 1 =
      pack negative
        (roundHalfEven (n * Power.two (-((n.log2 : Int) - 52)).toNat)
          (1 * Power.two ((n.log2 : Int) - 52).toNat))
        (n.log2 - 52) := by
  have exponent : max ((n.log2 : Int) - 52) leastExponent = n.log2 - 52 := by
    unfold leastExponent
    omega
  rw [ofRatio, if_neg some, floorLog2_one some]
  dsimp only
  rw [exponent]

theorem ofRatio_one (negative : Bool) (n : Nat) :
    (ofRatio negative n 1).IsInfinite ↔ limit ≤ n := by
  have least := two_le_limit
  have greatest : limit ≤ Power.two 1024 := Nat.sub_le _ _
  by_cases void : n = 0
  · have low := Power.two_pos 1023
    simp [ofRatio, zero, void, IsInfinite]
    omega
  have low : Power.two n.log2 ≤ n := Nat.log2_self_le void
  have high : n < Power.two (n.log2 + 1) := Nat.lt_log2_self
  rw [ofRatio_one_eq negative void, pack_infinite, greatestExponent]
  -- The leading bit decides, unless it is the highest one of a double.
  rcases Nat.lt_trichotomy n.log2 1023 with short | same | long
  · have within := Power.two_le (show n.log2 + 1 ≤ 1023 by omega)
    constructor
    · intro beyond
      split at beyond <;> omega
    · intro beyond
      omega
  · have unscaled : (-((1023 : Nat) - 52 : Int)).toNat = 0 := rfl
    have unit : ((1023 : Nat) - 52 : Int).toNat = 971 := rfl
    rw [same] at high ⊢
    rw [unscaled, unit, Nat.one_mul, show Power.two 0 = 1 from rfl, Nat.mul_one]
    rw [← roundHalfEven_full high]
    split <;> simp [*]
  · have beyond := Power.two_le (show 1024 ≤ n.log2 by omega)
    constructor
    · intro _
      omega
    · intro _
      split <;> omega

theorem roundHalfEven_ne_zero {numerator denominator : Nat} (some : 0 < denominator)
    (unit : denominator ≤ numerator) : roundHalfEven numerator denominator ≠ 0 := by
  have quotient : 1 ≤ numerator / denominator := by
    rwa [Nat.le_div_iff_mul_le some, Nat.one_mul]
  unfold roundHalfEven
  dsimp only
  split
  · omega
  · split <;> omega

theorem pack_positive {mantissa : Nat} (some : mantissa ≠ 0) (exponent : Int) :
    (pack false mantissa exponent).isPositive = true := by
  unfold pack
  by_cases full : mantissa = Power.two 53
  · have half := Nat.ne_of_gt (Power.two_pos 52)
    simp only [if_pos full]
    split <;> simp [isPositive, half]
  · simp only [if_neg full]
    split <;> simp [isPositive, some]

theorem ofRatio_positive {n : Nat} (some : n ≠ 0) : (ofRatio false n 1).isPositive = true := by
  -- The unit is at most the leading bit, so that at least one unit is left after rounding.
  have unit : 1 * Power.two ((n.log2 : Int) - 52).toNat ≤
      n * Power.two (-((n.log2 : Int) - 52)).toNat :=
    calc 1 * Power.two ((n.log2 : Int) - 52).toNat ≤ 1 * Power.two n.log2 :=
          Nat.mul_le_mul_left 1 (Power.two_le (by omega))
      _ ≤ n * 1 := by
          rw [Nat.one_mul, Nat.mul_one]
          exact Nat.log2_self_le some
      _ ≤ n * Power.two (-((n.log2 : Int) - 52)).toNat := Nat.mul_le_mul_left n (Power.two_pos _)
  rw [ofRatio_one_eq false some]
  exact pack_positive (roundHalfEven_ne_zero (Nat.mul_pos Nat.one_pos (Power.two_pos _)) unit) _

end Double

namespace Number

/-- A number that is a double, or an integer that can become one. -/
def Fits : Number → Prop
  | .int n => n.natAbs < Double.limit
  | .real _ => True

theorem toDouble_succeeds {value : Number} : Outcome.Succeeds value.toDouble ↔ value.Fits := by
  cases value with
  | real double => simp [toDouble, Fits]
  | int n =>
    have infinite := Double.ofRatio_one (n < 0) n.natAbs
    rw [Fits, ← Nat.not_le, ← infinite, toDouble]
    cases Double.ofRatio (n < 0) n.natAbs 1 <;> simp [Double.IsInfinite]

theorem toDouble_beyond {n : Int} (beyond : Double.limit ≤ n.natAbs) :
    (Number.int n).toDouble = .error .tooLargeForDouble := by
  have infinite := (Double.ofRatio_one (n < 0) n.natAbs).mpr beyond
  rw [toDouble]
  cases double : Double.ofRatio (n < 0) n.natAbs 1 with
  | infinite negative => rfl
  | nan | finite => simp [double, Double.IsInfinite] at infinite

/-- What is not at most zero is a positive double, if it is a number at all. -/
theorem toDouble_positive {value : Number} {result : Double}
    (above : value.isAtMostZero = false) (fits : value.toDouble = .ok result) :
    value = .real .nan ∨ result.isPositive = true := by
  cases value with
  | real double =>
    obtain rfl : double = result := Except.ok.inj fits
    cases double with
    | nan => exact Or.inl rfl
    | finite negative mantissa exponent =>
      exact Or.inr (by simpa [isAtMostZero, Double.isAtMostZero, Double.isPositive] using above)
    | infinite negative =>
      exact Or.inr (by simpa [isAtMostZero, Double.isAtMostZero, Double.isPositive] using above)
  | int n =>
    have above : 0 < n := by simpa [isAtMostZero] using above
    have positive := @Double.ofRatio_positive n.natAbs (by omega)
    have sign : decide (n < 0) = false := by simpa using Int.le_of_lt above
    simp only [toDouble, sign] at fits
    split at fits
    · cases fits
    · cases fits
      exact Or.inr positive

theorem zero_fits : (Number.int 0).Fits :=
  Nat.lt_of_lt_of_le (Power.two_pos 1023) Double.two_le_limit

theorem truncate_succeeds {double : Double} :
    Outcome.Succeeds (truncate double) ↔ ¬ double.IsInfinite ∧ double ≠ .nan := by
  cases double <;> simp [truncate, Double.IsInfinite]

/-- What is left of a double without its fraction can become a double again. -/
theorem truncate_fits {double : Double} {n : Int} (bounded : double.Fits)
    (cut : truncate double = .ok n) : (Number.int n).Fits := by
  cases double with
  | infinite | nan => cases cut
  | finite negative mantissa exponent =>
    obtain ⟨short, low⟩ := bounded
    cases cut
    have size : mantissa * Power.two exponent.toNat / Power.two (-exponent).toNat < Double.limit := by
      have power : Power.two exponent.toNat ≤ Power.two 971 :=
        Power.two_le (by unfold Double.greatestExponent at low; omega)
      have greatest : (Power.two 53 - 1) * Power.two 971 < Double.limit := by decide +kernel
      calc mantissa * Power.two exponent.toNat / Power.two (-exponent).toNat
          ≤ mantissa * Power.two exponent.toNat := Nat.div_le_self _ _
        _ ≤ (Power.two 53 - 1) * Power.two 971 := Nat.mul_le_mul (by omega) power
        _ < Double.limit := greatest
    rw [Fits]
    split
    · rwa [Int.natAbs_neg, Int.natAbs_natCast]
    · rwa [Int.natAbs_natCast]

end Number

theorem Numeral.readDouble_fits {text : Text} {double : Double}
    (read : readDouble? text = some double) : double.Fits := by
  unfold readDouble? at read
  dsimp only at read
  split at read
  · cases read
    trivial
  split at read
  · cases read
    trivial
  obtain ⟨⟨mantissa, rest⟩, _, read⟩ := Option.bind_eq_some_iff.mp read
  obtain ⟨exponent, _, read⟩ := Option.bind_eq_some_iff.mp read
  cases read
  exact Double.ofDecimal_fits _ _ _

theorem Field.number_fits (body key : Text) : (number body key).Fits := by
  unfold number
  cases read : (Numeral.head? (value body key)).bind Numeral.readDouble? with
  | none => exact Double.zero_fits false
  | some double =>
    obtain ⟨text, _, read⟩ := Option.bind_eq_some_iff.mp read
    exact Numeral.readDouble_fits read

end ServiceProbe
