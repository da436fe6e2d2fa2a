import ServiceProbe.Proofs.Figures
import ServiceProbe.Proofs.LevelGrammar
import ServiceProbe.Proofs.SignificantDigits
/-!
Levels as they are shown, with six digits. Which of them are read back from what is shown, and what is read
where a level is not.
-/
namespace ServiceProbe

namespace Text

theorem dropEnd_solid {member : Char → Bool} {text : Text}
    (stays : ∀ c ∈ text.getLast?, member c = false) : dropEnd member text = text := by
  have nothing : dropEnd member [] = [] := rfl
  simpa [nothing] using dropEnd_append stays []

/-- Zeros at the end of a text are dropped, and nothing else. -/
theorem dropEnd_zeros (text : Text) :
    ∃ zeros, text = dropEnd (· == '0') text ++ List.replicate zeros '0' := by
  have parts : dropEnd (· == '0') text ++ text.rtakeWhile (· == '0') = text :=
    List.rdropWhile_append_rtakeWhile
  have all : ∀ c ∈ text.rtakeWhile (· == '0'), c = '0' := by
    intro c member
    simpa using List.mem_rtakeWhile_imp member
  refine ⟨(text.rtakeWhile (· == '0')).length, ?_⟩
  rw [← List.eq_replicate_of_mem all, parts]

end Text

namespace Decimal

open Numeral (IsSign IsMantissa IsPlain Denotes valueOf)

theorem isPlainDigit_zeroPadded {width n : Nat} {c : Char} (member : c ∈ zeroPadded width n) :
    Text.isPlainDigit c = true := by
  rcases List.mem_append.mp member with zero | digit
  · rw [List.eq_of_mem_replicate zero]
    decide
  · exact Text.isPlainDigit_of_mem_ofNat digit

theorem ofDigitChars_zeroPadded (width n : Nat) : Nat.ofDigitChars 10 (zeroPadded width n) 0 = n := by
  rw [zeroPadded, Nat.ofDigitChars_append, Nat.ofDigitChars_replicate_zero, Nat.mul_zero, Text.ofNat,
    Nat.ofDigitChars_ten_toDigits]

theorem length_zeroPadded {width n : Nat} (some : 0 < width) (short : n < 10 ^ width) :
    (zeroPadded width n).length = width := by
  have fits : (Text.ofNat n).length ≤ width := (Nat.length_toDigits_le_iff (by decide) some).mpr short
  rw [zeroPadded, List.length_append, List.length_replicate]
  omega

theorem valueOf_plain {digits : Text} (plain : ∀ c ∈ digits, Text.isPlainDigit c = true) :
    valueOf digits = Nat.ofDigitChars 10 digits 0 := Numeral.numberOf_plain plain

/-- Digits in front of a point and behind it, where zeros at the end and a point behind which nothing is left
are dropped. -/
theorem dropTrailingZeros_mantissa {whole fraction : Text} (some : whole ≠ [])
    (digits : ∀ c ∈ whole, Text.isPlainDigit c = true)
    (places : ∀ c ∈ fraction, Text.isPlainDigit c = true) :
    ∃ kept zeros, fraction = kept ++ List.replicate zeros '0' ∧
      IsMantissa whole kept (dropTrailingZeros (whole ++ '.' :: fraction)) := by
  obtain ⟨zeros, parts⟩ := Text.dropEnd_zeros fraction
  have split (behind : Text) : whole ++ '.' :: behind = (whole ++ ['.']) ++ behind := by simp
  have first : Text.dropEnd (· == '0') (whole ++ '.' :: fraction) =
      whole ++ '.' :: Text.dropEnd (· == '0') fraction := by
    rw [split fraction, Text.dropEnd_append (by simp), ← split]
  generalize Text.dropEnd (· == '0') fraction = kept at parts first
  have kept_digits : ∀ c ∈ kept, Text.isPlainDigit c = true :=
    fun c member => places c (by rw [parts]; exact List.mem_append_left _ member)
  have no_point {text : Text} (plain : ∀ c ∈ text, Text.isPlainDigit c = true) :
      ∀ c ∈ text.getLast?, (c == '.') = false := by
    intro c last
    have other : c ≠ '.' := by
      rintro rfl
      exact absurd (plain _ (List.mem_of_mem_getLast? last)) (by decide)
    simpa using other
  refine ⟨kept, zeros, parts, ?_⟩
  rw [dropTrailingZeros, first]
  -- Whether a point is left at the end depends on whether a digit is left behind it.
  by_cases none : kept = []
  · subst none
    have gone : Text.dropEnd (· == '.') ['.'] = [] := rfl
    rw [Text.dropEnd_append (no_point digits), gone, List.append_nil]
    exact .plain some (Numeral.isDigit_of_plain digits)
  · have ends : ∀ c ∈ (whole ++ '.' :: kept).getLast?, (c == '.') = false := by
      rw [split, List.getLast?_append_of_ne_nil _ none]
      exact no_point kept_digits
    rw [Text.dropEnd_solid ends]
    exact .pointed (Or.inl some) (Numeral.isDigit_of_plain digits) (Numeral.isDigit_of_plain kept_digits)

/-- Digits with their places are a mantissa. The zeros that are dropped at its end do not count. -/
theorem placed_mantissa (places digits : Nat) : ∃ whole fraction zeros,
    IsMantissa whole fraction (placed false places digits) ∧ fraction.length + zeros = places ∧
      valueOf (whole ++ fraction) * 10 ^ zeros = digits := by
  have plain (n : Nat) : ∀ c ∈ Text.ofNat n, Text.isPlainDigit c = true :=
    fun c => Text.isPlainDigit_of_mem_ofNat
  have own (n : Nat) : Nat.ofDigitChars 10 (Text.ofNat n) 0 = n := Nat.ofDigitChars_ten_toDigits
  by_cases none : places = 0
  · refine ⟨Text.ofNat digits, [], 0, ?_, by simp [none], ?_⟩
    · rw [placed, if_neg (by decide), if_pos none]
      exact .plain (Text.ofNat_ne_nil digits) (Numeral.isDigit_of_plain (plain digits))
    · rw [List.append_nil, valueOf_plain (plain digits), own, pow_zero, mul_one]
  · have padded : ∀ c ∈ zeroPadded places (digits % Power.ten places), Text.isPlainDigit c = true :=
      fun c => isPlainDigit_zeroPadded
    have length : (zeroPadded places (digits % Power.ten places)).length = places :=
      length_zeroPadded (Nat.pos_of_ne_zero none) (Nat.mod_lt _ (Power.ten_pos places))
    have value : Nat.ofDigitChars 10 (Text.ofNat (digits / Power.ten places) ++
        zeroPadded places (digits % Power.ten places)) 0 = digits := by
      rw [Nat.ofDigitChars_append, own, Nat.ofDigitChars_eq_ofDigitChars_zero, ofDigitChars_zeroPadded,
        length]
      exact Nat.div_add_mod digits (Power.ten places)
    -- The zeros that are dropped are made up for by the places that the mantissa lacks.
    obtain ⟨kept, zeros, parts, mantissas⟩ :=
      dropTrailingZeros_mantissa (Text.ofNat_ne_nil (digits / Power.ten places)) (plain _) padded
    refine ⟨Text.ofNat (digits / Power.ten places), kept, zeros, ?_, ?_, ?_⟩
    · rw [placed, if_neg (by decide), if_neg none, withPoint, if_neg none]
      exact mantissas
    · rw [← length, parts, List.length_append, List.length_replicate]
    · rw [parts] at padded value
      rw [← List.append_assoc, Nat.ofDigitChars_append, Nat.ofDigitChars_replicate_zero, mul_comm] at value
      rw [valueOf_plain, value]
      intro c member
      rcases List.mem_append.mp member with front | behind
      · exact plain _ c front
      · exact padded c (List.mem_append_left _ behind)

theorem isSign_signText (negative : Bool) : IsSign negative (signText negative) := by
  cases negative with
  | false => exact .missing
  | true => exact .minus

theorem placed_isPlain (negative : Bool) (places digits : Nat) :
    IsPlain (signText negative ++ placed false places digits) := by
  obtain ⟨whole, fraction, zeros, mantissas, _⟩ := placed_mantissa places digits
  exact .intro (isSign_signText negative) mantissas

theorem placed_denotes (negative : Bool) {places : Nat} (few : places ≤ 360) (digits : Nat) :
    Denotes (signText negative ++ placed false places digits) (.ofDecimal negative digits (-places)) := by
  obtain ⟨whole, fraction, zeros, mantissas, parts, value⟩ := placed_mantissa places digits
  have denotes := Denotes.intro (isSign_signText negative) mantissas .missing
  rw [List.append_nil, zero_sub] at denotes
  rw [← parts] at few
  have shifted := Double.ofDecimal_shift negative (valueOf (whole ++ fraction)) few
  rw [value, parts] at shifted
  rwa [shifted]

/-! What a double is shown as. -/

theorem ratio_value (mantissa : Nat) (exponent : Int) :
    ((ratio mantissa exponent).1 : ℚ) / (ratio mantissa exponent).2 = mantissa * 2 ^ exponent := by
  rw [ratio, Power.zpow_parts two_ne_zero exponent]
  push_cast [Power.cast_two]
  rw [mul_div_assoc]

/-- A double that is not zero is shown with its six leading digits. -/
theorem general_shows (negative : Bool) {mantissa : Nat} (some : mantissa ≠ 0) (exponent : Int) :
    ∃ digits leading, Significant 5 (mantissa * 2 ^ exponent) digits leading ∧
      general (.finite negative mantissa exponent) = signText negative ++
        if -4 ≤ leading ∧ leading < 6 then placed false (5 - leading).toNat digits
        else placed false 5 digits ++ exponentText leading := by
  have above : (ratio mantissa exponent).1 ≠ 0 := Nat.mul_ne_zero some (Power.two_pos _).ne'
  have below : (ratio mantissa exponent).2 ≠ 0 := (Power.two_pos _).ne'
  have leads := significantDigits_significant 5 above below
  rw [ratio_value] at leads
  refine ⟨_, _, leads, ?_⟩
  simp [general, significant, some]

/-- Digits with places that are shown as they are: none but zeros, or six digits that need no exponent. -/
inductive SixDigits : (digits places : Nat) → Prop where
  | zero : SixDigits 0 5
  | some {digits places : Nat} (least : 10 ^ 5 ≤ digits) (most : digits < 10 ^ 6) (few : places ≤ 9) :
    SixDigits digits places

variable {digits places : Nat}

theorem SixDigits.few (six : SixDigits digits places) : places ≤ 360 := by
  cases six <;> omega

/-- Fewer digits are six with zeros put behind them. -/
theorem SixDigits.of_fewer (some : digits ≠ 0) (most : digits < 10 ^ 6)
    (least : 10 ^ places ≤ 10 ^ 4 * digits) :
    ∃ zeros, SixDigits (digits * 10 ^ zeros) (places + zeros) := by
  have length : Nat.log 10 digits ≤ 5 := Nat.lt_succ_iff.mp (Nat.log_lt_of_lt_pow some most)
  have low := Nat.pow_log_le_self 10 some
  have high := Nat.lt_pow_succ_log_self (by decide : 1 < 10) digits
  generalize Nat.log 10 digits = log at length low high
  have up : 10 ^ log * 10 ^ (5 - log) = 10 ^ 5 := by
    rw [← pow_add]
    congr 1
    omega
  have low' : 10 ^ 5 ≤ digits * 10 ^ (5 - log) := up ▸ Nat.mul_le_mul_right _ low
  have high' : digits * 10 ^ (5 - log) < 10 ^ 6 := by
    calc digits * 10 ^ (5 - log) < 10 ^ (log + 1) * 10 ^ (5 - log) :=
          Nat.mul_lt_mul_of_pos_right high (Nat.pow_pos (by decide))
      _ = 10 ^ 6 := by rw [pow_succ, mul_right_comm, up, ← pow_succ]
  have few : places + (5 - log) ≤ 9 := by
    have product := Nat.mul_le_mul_right (10 ^ (5 - log)) least
    rw [← pow_add, mul_assoc] at product
    have below : 10 ^ (places + (5 - log)) < 10 ^ 10 := by omega
    exact Nat.lt_succ_iff.mp ((Nat.pow_lt_pow_iff_right (by decide)).mp below)
  exact ⟨5 - log, .some low' high' few⟩

theorem general_zero (negative : Bool) :
    general (.zero negative) = signText negative ++ placed false 5 0 := rfl

/-- Six digits that need no exponent are well inside the range of doubles. -/
theorem six_digits_between (least : 10 ^ 5 ≤ digits) (most : digits < 10 ^ 6) (few : places ≤ 9) :
    (2 : ℚ) ^ (-1022 : Int) ≤ digits / 10 ^ places ∧ (digits : ℚ) / 10 ^ places < 2 ^ (1022 : Int) := by
  have power_low : (1 : ℚ) ≤ 10 ^ places := one_le_pow₀ (by norm_num)
  have power_high : (10 : ℚ) ^ places ≤ 10 ^ 9 := pow_le_pow_right₀ (by norm_num) few
  constructor
  · calc (2 : ℚ) ^ (-1022 : Int) ≤ 2 ^ (-14 : Int) := zpow_le_zpow_right₀ (by norm_num) (by norm_num)
      _ ≤ 10 ^ 5 / 10 ^ 9 := by norm_num
      _ ≤ digits / 10 ^ places :=
          div_le_div₀ (by positivity) (by exact_mod_cast least) (by positivity) power_high
  · calc (digits : ℚ) / 10 ^ places ≤ digits := div_le_self (by positivity) power_low
      _ < 10 ^ 6 := by exact_mod_cast most
      _ ≤ 2 ^ (20 : Int) := by norm_num
      _ ≤ 2 ^ (1022 : Int) := zpow_le_zpow_right₀ (by norm_num) (by norm_num)

/-- The double nearest to six digits that need no exponent is close to them. -/
theorem ofDecimal_near (negative : Bool) (least : 10 ^ 5 ≤ digits) (most : digits < 10 ^ 6)
    (few : places ≤ 9) : ∃ m e, Double.ofDecimal negative digits (-places) = .finite negative m e ∧ m ≠ 0 ∧
      |(m : ℚ) * 2 ^ e * 10 ^ places - digits| ≤ 1 / 20 := by
  have some : digits ≠ 0 := by omega
  have power : (0 : ℚ) < 10 ^ places := by positivity
  obtain ⟨low, high⟩ := six_digits_between least most few
  rw [← Power.cast_ten] at low high
  obtain ⟨m, e, rounded, near⟩ :=
    Double.ofRatio_near negative some (Power.ten_pos places).ne' low high
  rw [← Double.ofDecimal_places negative digits (by omega)] at rounded
  rw [Power.cast_ten] at near
  have scaled : (m : ℚ) * 2 ^ e * 10 ^ places - digits =
      (m * 2 ^ e - digits / 10 ^ places) * 10 ^ places := by
    field_simp
  have close : |(m : ℚ) * 2 ^ e * 10 ^ places - digits| ≤ 1 / 20 := by
    rw [scaled, abs_mul, abs_of_pos power]
    calc |(m : ℚ) * 2 ^ e - digits / 10 ^ places| * 10 ^ places ≤
          digits / 10 ^ places / 2 ^ 53 * 10 ^ places := mul_le_mul_of_nonneg_right near power.le
      _ = digits / 2 ^ 53 := by field_simp
      _ ≤ 10 ^ 6 / 2 ^ 53 := div_le_div_of_nonneg_right (by exact_mod_cast most.le) (by positivity)
      _ ≤ 1 / 20 := by norm_num
  refine ⟨m, e, rounded, ?_, close⟩
  rintro rfl
  have digits_low : (10 : ℚ) ^ 5 ≤ digits := by exact_mod_cast least
  have nothing := (abs_le.mp close).1
  rw [Nat.cast_zero, zero_mul, zero_mul, zero_sub] at nothing
  linarith

/-- Six digits are shown with themselves again, if they are read as a double. -/
theorem SixDigits.general_ofDecimal (six : SixDigits digits places) (negative : Bool) :
    general (.ofDecimal negative digits (-places)) = signText negative ++ placed false places digits := by
  cases six with
  | zero => exact general_zero negative
  | some least most few =>
    obtain ⟨m, e, rounded, some, close⟩ := ofDecimal_near negative least most few
    obtain ⟨shown, leading, leads, text⟩ := general_shows negative some e
    have places_back : (5 : Int) - (5 - places) = places := by omega
    have own : Significant 5 ((m : ℚ) * 2 ^ e) digits (5 - places) := by
      refine .of_near least most ?_
      rwa [Nat.cast_ofNat, places_back, zpow_natCast]
    obtain ⟨rfl, rfl⟩ := leads.unique own
    rw [rounded, text, if_pos (by omega), places_back, Int.toNat_natCast]

/-- A size that six digits show without an exponent. -/
def IsPositional (size : ℚ) : Prop :=
  size = 0 ∨ (10 ^ 6 - 1 / 2) / 10 ^ 10 ≤ size ∧ size < 10 ^ 6 - 1 / 2

theorem Significant.positional_iff {size : ℚ} {leading : Int} (leads : Significant 5 size digits leading) :
    -4 ≤ leading ∧ leading < 6 ↔ IsPositional size := by
  have positive : size ≠ 0 := by
    rintro rfl
    have low := leads.low
    have above : (0 : ℚ) < (10 ^ (5 + 1) - 1 / 2) * 10 ^ (leading - ((5 : Nat) + 1 : Int)) :=
      mul_pos (by norm_num) (by positivity)
    exact absurd low (not_le.mpr above)
  have least := leads.leading_iff (-4)
  have most := leads.leading_iff 6
  norm_num at least most
  rw [IsPositional, or_iff_right positive, ← not_le, most, least]
  norm_num

/-- A double that is shown with digits and places, which round its value. -/
structure ShownAs (double : Double) (negative : Bool) (digits places : Nat) : Prop where
  six : SixDigits digits places
  text : general double = signText negative ++ placed false places digits
  rounds : ∃ value, Number.value? (.real double) = some value ∧ IsPositional |value| ∧
    |value * 10 ^ places - Double.signed negative digits| ≤ 1 / 2

theorem abs_signed (negative : Bool) (size : ℚ) : |Double.signed negative size| = |size| := by
  cases negative <;> simp

theorem shownAs_finite {negative : Bool} {mantissa : Nat} {exponent : Int} (six : SixDigits digits places)
    (text : general (.finite negative mantissa exponent) = signText negative ++ placed false places digits)
    (positional : IsPositional (mantissa * 2 ^ exponent))
    (near : |(mantissa : ℚ) * 2 ^ exponent * 10 ^ places - digits| ≤ 1 / 2) :
    ShownAs (.finite negative mantissa exponent) negative digits places := by
  refine ⟨six, text, _, rfl, ?_, ?_⟩
  · rwa [abs_signed, abs_of_nonneg (by positivity)]
  · have same : Double.signed negative (mantissa * 2 ^ exponent) * 10 ^ places -
        Double.signed negative digits =
        Double.signed negative (mantissa * 2 ^ exponent * 10 ^ places - digits) := by
      cases negative
      · rfl
      · simp only [Double.signed_true]
        ring
    rwa [same, abs_signed]

/-- A double that is a number is shown with digits and places, or with a letter where it is too large or too
small for that. -/
theorem shown_cases {double : Double} (regular : double.Regular) (number : double ≠ .nan) :
    (∃ negative digits places, ShownAs double negative digits places) ∨
      (∃ c ∈ general double, Numeral.isPlainPart c = false ∧ c ≠ '%') ∧
        ∀ value, Number.value? (.real double) = some value → ¬IsPositional |value| := by
  match double with
  | .nan => exact absurd rfl number
  | .infinite negative =>
    refine Or.inr ⟨⟨'i', ?_, by decide, by decide⟩, nofun⟩
    have text : general (.infinite negative) = signText negative ++ "inf".toList := rfl
    rw [text]
    exact List.mem_append_right _ List.mem_cons_self
  | .finite negative mantissa exponent =>
    by_cases void : mantissa = 0
    · subst void
      -- A zero has the least exponent, as it has no leading bit.
      obtain rfl : exponent = Double.leastExponent :=
        regular.2.2.2.resolve_left (Nat.not_le.mpr (Power.two_pos 52))
      refine Or.inl ⟨negative, 0, 5, shownAs_finite .zero (general_zero negative) ?_ ?_⟩
      · rw [Nat.cast_zero, zero_mul]
        exact Or.inl rfl
      · norm_num
    obtain ⟨digits, leading, leads, text⟩ := general_shows negative void exponent
    by_cases range : -4 ≤ leading ∧ leading < 6
    · rw [if_pos range] at text
      have places : ((5 : Nat) : Int) - leading = ((5 - leading).toNat : Nat) := by omega
      have near := leads.nearest.near
      rw [places, zpow_natCast] at near
      exact Or.inl ⟨negative, digits, _, shownAs_finite (.some leads.least leads.most (by omega)) text
        (leads.positional_iff.mp range) near⟩
    · rw [if_neg range] at text
      refine Or.inr ⟨⟨'e', ?_, by decide, by decide⟩, ?_⟩
      · rw [text, exponentText]
        simp
      · rintro value ⟨⟩
        rw [abs_signed, abs_of_nonneg (by positivity), ← leads.positional_iff]
        exact range

end Decimal

namespace Bound

open Numeral Decimal

variable {bound other : Bound} {text : Text} {digits places : Nat}

/-- The double nearest to a decimal of at most six digits: zero, or from a ten-thousandth up to below a
million. -/
def IsShort (bound : Bound) : Prop :=
  ∃ negative digits places, digits < 10 ^ 6 ∧ (digits = 0 ∨ 10 ^ places ≤ 10 ^ 4 * digits) ∧
    bound.value = .real (.ofDecimal negative digits (-(places : Nat)))

theorem isShort_of_six (six : SixDigits digits places) {negative : Bool}
    (value : bound.value = .real (.ofDecimal negative digits (-places))) : bound.IsShort := by
  refine ⟨negative, digits, places, ?_, ?_, value⟩
  · cases six with
    | zero => decide
    | some least most few => exact most
  · cases six with
    | zero => exact Or.inl rfl
    | some least most few =>
      have power : 10 ^ places ≤ 10 ^ 9 := Nat.pow_le_pow_right (by decide) few
      exact Or.inr (by omega)

theorem IsShort.six (short : bound.IsShort) : ∃ negative digits places, SixDigits digits places ∧
    bound.value = .real (.ofDecimal negative digits (-places)) := by
  obtain ⟨negative, digits, places, most, least, value⟩ := short
  by_cases void : digits = 0
  · subst void
    exact ⟨negative, 0, 5, .zero, value⟩
  obtain ⟨zeros, six⟩ := SixDigits.of_fewer void most (least.resolve_left void)
  refine ⟨negative, _, _, six, ?_⟩
  rw [Double.ofDecimal_shift negative digits six.few]
  exact value

/-- What is shown of six digits is read as them. -/
theorem parse_placed (negative percent : Bool) (few : places ≤ 360) (digits : Nat) :
    parse? (signText negative ++ placed false places digits ++ percentText percent) =
      some ⟨.real (.ofDecimal negative digits (-places)), percent⟩ := by
  have nothing : ∀ c ∈ ([] : Text), Text.isBlank c = true := by simp
  have level : IsLevel ([] ++ ((signText negative ++ placed false places digits) ++
      ([] ++ (percentText percent ++ [])))) (signText negative ++ placed false places digits) percent :=
    .intro nothing (placed_isPlain negative places digits) nothing nothing
  rw [List.append_nil, List.nil_append, List.nil_append] at level
  obtain ⟨double, value, _, parsed⟩ := parse_level level
  rw [(readDouble_of_denotes (placed_denotes negative few digits)).1] at value
  cases value
  exact parsed

/-- What a level is never written with. -/
theorem parse_foreign {c : Char} (member : c ∈ text) (foreign : isPlainPart c = false) (other : c ≠ '%') :
    parse? text = none := by
  cases read : parse? text with
  | none => rfl
  | some bound =>
    obtain ⟨numeral, double, level, _⟩ := parse_sound read
    rcases level.mem member with plain | ⟨_, percent⟩
    · rw [foreign] at plain
      cases plain
    · exact absurd percent other

theorem text_real {double : Double} (value : bound.value = .real double) :
    bound.text = .ok (general double ++ percentText bound.percent) := by
  rw [text, value]
  rfl

/-- A short level is read back from what is shown of it. -/
theorem IsShort.parse_text (short : bound.IsShort) (shown : bound.text = .ok text) :
    parse? text = some bound := by
  obtain ⟨negative, digits, places, six, value⟩ := short.six
  rw [text_real value] at shown
  cases shown
  rw [six.general_ofDecimal, parse_placed negative bound.percent six.few, ← value]

/-- No two short levels are shown alike. -/
theorem IsShort.eq_of_text (short : bound.IsShort) (short' : other.IsShort)
    (shown : bound.text = .ok text) (shown' : other.text = .ok text) : other = bound := by
  have first := short.parse_text shown
  rw [short'.parse_text shown'] at first
  exact Option.some.inj first

theorem parse_regular (read : parse? text = some bound) :
    ∃ double, bound.value = .real double ∧ double.Regular ∧ double ≠ .nan := by
  obtain ⟨numeral, double, level, value, same⟩ := parse_sound read
  have plain : IsPlain numeral := by
    cases level with
    | intro first plain middle last => exact plain
  obtain ⟨double', denotes⟩ := plain.denotes
  obtain ⟨value', number⟩ := readDouble_of_denotes denotes
  rw [value] at value'
  cases value'
  refine ⟨double, same, ?_, number⟩
  cases denotes with
  | intro => exact Double.regular_ofDecimal _ _ _

/-- A level is read back from what is shown of it just if it is short. What is shown is a level just if its
value is zero, or rounded to six digits at least a ten-thousandth and below a million. It is then the level with
the value so rounded, which is shown alike. So no two short levels are shown alike. -/
theorem text_is_read_back_iff {level : Text} (read : parse? level = some bound) :
    ∃ shown, Measurement.boundText (some bound) = .ok shown ∧
      (parse? shown = some bound ↔ bound.IsShort) ∧
      ((∃ other, parse? shown = some other) ↔
        ∃ value, bound.value.value? = some value ∧ IsPositional |value|) ∧
      (∀ other, parse? shown = some other → other.IsShort ∧ other.percent = bound.percent ∧
        other.text = .ok shown ∧ ∃ value negative digits places, SixDigits digits places ∧
          bound.value.value? = some value ∧
          |value * 10 ^ places - Double.signed negative digits| ≤ 1 / 2 ∧
          other.value = .real (.ofDecimal negative digits (-(places : Nat)))) ∧
      (bound.IsShort → ∀ other : Bound, other.IsShort → other.text = .ok shown → other = bound) := by
  obtain ⟨double, same, regular, number⟩ := parse_regular read
  have shown := text_real same
  refine ⟨_, shown, ?_⟩
  have back (short : bound.IsShort) := short.parse_text shown
  have apart : bound.IsShort → ∀ other : Bound, other.IsShort →
      other.text = .ok (general double ++ percentText bound.percent) → other = bound :=
    fun short _ short' => short.eq_of_text short' shown
  rw [same]
  -- What is shown is positional, or it has an exponent, an infinity or no number, and no level is
  -- written so.
  rcases shown_cases regular number with
    ⟨negative, digits, places, six, text, value, exact, positional, near⟩ | ⟨⟨c, member, foreign, sign⟩, beyond⟩
  · have parsed := parse_placed negative bound.percent six.few digits
    rw [← text] at parsed
    refine ⟨⟨fun own => ?_, back⟩, ?_, ?_, apart⟩
    · rw [parsed] at own
      exact isShort_of_six six (congrArg Bound.value (Option.some.inj own)).symm
    · exact iff_of_true ⟨_, parsed⟩ ⟨value, exact, positional⟩
    · intro other found
      rw [parsed] at found
      cases found
      refine ⟨isShort_of_six six rfl, rfl, ?_, value, negative, digits, places, six, exact, near, rfl⟩
      rw [text_real rfl, six.general_ofDecimal, text]
  · have refused : parse? (general double ++ percentText bound.percent) = none :=
      parse_foreign (List.mem_append_left _ member) foreign sign
    refine ⟨⟨fun own => ?_, back⟩, ?_, ?_, apart⟩
    · rw [refused] at own
      cases own
    · refine iff_of_false ?_ ?_
      · rintro ⟨other, found⟩
        rw [refused] at found
        cases found
      · rintro ⟨value, exact, positional⟩
        exact beyond value exact positional
    · intro other found
      rw [refused] at found
      cases found

/-- A percentage that is written with a zero at its end is short. A level with eight digits is shown as
another one. -/
theorem levels_of_four_and_eight_digits :
    let half : Bound := ⟨.real (.ofDecimal true 125 (-1)), true⟩
    let fine : Bound := ⟨.real (.ofDecimal false 12345678 (-8)), false⟩
    let rounded : Bound := ⟨.real (.ofDecimal false 123457 (-6)), false⟩
    (parse? " -12.50 %" = some half ∧ half.text = .ok "-12.5%".toList ∧ half.IsShort ∧
        parse? "-12.5%" = some half) ∧
      parse? "0.12345678" = some fine ∧ fine.text = .ok "0.123457".toList ∧ ¬fine.IsShort ∧
        parse? "0.123457" = some rounded ∧ rounded.IsShort ∧ rounded.text = .ok "0.123457".toList := by
  intro half fine rounded
  have read : parse? " -12.50 %" = some half := by decide +kernel
  have text : half.text = .ok "-12.5%".toList := by decide +kernel
  have back : parse? "-12.5%" = some half := by decide +kernel
  have read' : parse? "0.12345678" = some fine := by decide +kernel
  have text' : fine.text = .ok "0.123457".toList := by decide +kernel
  have back' : parse? "0.123457" = some rounded := by decide +kernel
  have other : rounded ≠ fine := by decide +kernel
  obtain ⟨shown, own, short, _⟩ := text_is_read_back_iff read
  cases own.symm.trans text
  obtain ⟨shown', own', short', _, alike, _⟩ := text_is_read_back_iff read'
  cases own'.symm.trans text'
  have long : ¬fine.IsShort := by
    intro isShort
    rw [short'.mpr isShort] at back'
    exact other (Option.some.inj back').symm
  obtain ⟨roundedShort, _, roundedText, _⟩ := alike rounded back'
  exact ⟨⟨read, text, short.mp back, back⟩, read', text', long, back', roundedShort, roundedText⟩

/-- A million is shown with an exponent, which no level has, and two levels above it are shown alike. -/
theorem million_is_not_read_back :
    let million : Bound := ⟨.real (.ofDecimal false 1000000 0), false⟩
    let lower : Bound := ⟨.real (.ofDecimal false 1234567 0), false⟩
    let upper : Bound := ⟨.real (.ofDecimal false 1234568 0), false⟩
    parse? "1000000" = some million ∧ million.text = .ok "1e+06".toList ∧ parse? "1e+06" = none ∧
      parse? "1234567" = some lower ∧ parse? "1234568" = some upper ∧ lower ≠ upper ∧
      lower.text = .ok "1.23457e+06".toList ∧ upper.text = .ok "1.23457e+06".toList := by
  intro million lower upper
  decide +kernel

end Bound
end ServiceProbe
