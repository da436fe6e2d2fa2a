import ServiceProbe.Proofs.Digits
import ServiceProbe.Proofs.Gauge
import ServiceProbe.Proofs.NearestDouble
import ServiceProbe.Proofs.Nested
import ServiceProbe.Proofs.Numerals
/-!
Whole numbers that a document tells. Below the power of two from which on doubles have gaps each of them
is read as what it is, so that it is held against levels like the integer.
-/
namespace ServiceProbe

namespace Number

/-- A whole number of at most 53 bits is a double. Zero has two of them. -/
theorem value_of_whole {n : Nat} (short : n < Power.two 53) {negative : Bool}
    (natural : negative = true → n = 0) :
    value? (.real (.ofDecimal negative n 0)) = some (n : ℚ) := by
  by_cases void : n = 0
  · subst void
    cases negative <;> simp [Double.ofDecimal, Double.zero, value?]
  obtain rfl : negative = false := by simpa [void] using natural
  have decimal : Double.ofDecimal false n 0 = .ofRatio false n 1 :=
    Double.ofDecimal_places false n (Nat.zero_le 360)
  rw [decimal]
  rcases Double.ofRatio_cases false n 1 with infinite | ⟨m, e, finite⟩
  · have beyond : Double.limit ≤ n := (Double.ofRatio_one false n).mp (by rw [infinite]; trivial)
    have within := (Power.two_le (show 53 ≤ 1023 by decide)).trans Double.two_le_limit
    omega
  · have between := Double.ofRatio_one_between finite short 0
    rw [zpow_zero, mul_one] at between
    have exact : (m : ℚ) * 2 ^ e = n := le_antisymm (between.1 le_rfl) (between.2 le_rfl)
    rw [finite, value?, Double.signed_false, exact]

theorem not_infinite_of_value {double : Double} {x : ℚ} (value : value? (.real double) = some x) :
    ¬ double.IsInfinite := by
  cases double with
  | infinite => cases value
  | finite | nan => exact id

end Number

namespace Levels

/-- Without a total to refer to, levels see no more of a number than how it compares. -/
theorem evaluate_congr (levels : Levels) (direction : Direction) {a b : Number}
    (alike : ∀ other, a.lt other = b.lt other ∧ a.ge other = b.ge other) :
    levels.evaluate direction none a = levels.evaluate direction none b := by
  have same (level : Option Bound) :
      breached level direction none a = breached level direction none b := by
    cases level with
    | none => rfl
    | some bound =>
      have alone : bound.reference? none = none := by simp [Bound.reference?]
      obtain ⟨lower, upper⟩ := alike bound.value
      simp only [breached, Bound.isBreached, Bound.measured, alone]
      cases direction with
      | lower => exact congrArg (Except.ok : Bool → Except OutOfRange Bool) lower
      | upper => exact congrArg (Except.ok : Bool → Except OutOfRange Bool) upper
  rw [evaluate, evaluate, same, same]

end Levels

namespace Field

open Json Numeral

/-- A natural number as it stands in a document. -/
def Spells (n : Nat) (text : Text) : Prop := text = Text.ofNat n ∨ n = 0 ∧ text = "-0"

variable {key text spelled : Text} {n : Nat}

theorem Spells.denotes (spells : Spells n spelled) :
    ∃ negative, (negative = true → n = 0) ∧ Denotes spelled (.ofDecimal negative n 0) := by
  have digits (k : Nat) : IsMantissa (Text.ofNat k) [] (Text.ofNat k) :=
    .plain (Text.ofNat_ne_nil k) (isDigit_of_plain fun c => Text.isPlainDigit_of_mem_ofNat)
  have value (k : Nat) : valueOf (Text.ofNat k) = k := by
    rw [valueOf, numberOf_plain fun c => Text.isPlainDigit_of_mem_ofNat, Text.ofNat,
      Nat.ofDigitChars_ten_toDigits]
  have read {negative : Bool} {sign : Text} (signs : IsSign negative sign) (k : Nat) :
      Denotes (sign ++ Text.ofNat k) (.ofDecimal negative k 0) := by
    have denotes := Denotes.intro signs (digits k) .missing
    rwa [List.append_nil, value] at denotes
  rcases spells with rfl | ⟨rfl, rfl⟩
  · exact ⟨false, by simp, read .missing n⟩
  · exact ⟨true, fun _ => rfl, read .minus 0⟩

/-- The number of a key with a natural number. -/
theorem number_value {document : Json .value} (ordinary : document.Ordinary)
    (written : Written document.tokens text) (has : document.Has key (.bare spelled))
    (spells : Spells n spelled) (short : n < Power.two 53) :
    Number.value? (.real (number text key)) = some (n : ℚ) := by
  obtain ⟨negative, natural, denotes⟩ := spells.denotes
  have longest : head? spelled = some spelled :=
    head_eq_some_iff.mpr ⟨List.prefix_rfl, ⟨_, denotes⟩, fun other begins _ => begins.length_le⟩
  rw [number, value_bare ordinary written has, longest, Option.bind_some,
    (readDouble_of_denotes denotes).1]
  exact Number.value_of_whole short natural

end Field
end ServiceProbe
