import ServiceProbe.Metric
import ServiceProbe.Proofs.Digits
import ServiceProbe.Proofs.Outcome
/-!
The characters that numbers are written with. None of them parts a number from what stands beside it.
-/
namespace ServiceProbe

namespace Text

/-- A digit, a sign, a point, or a letter of an exponent, of "inf" or of "nan". -/
def isFigure (c : Char) : Bool :=
  isPlainDigit c || ['-', '+', '.', 'e', 'i', 'n', 'f', 'a'].contains c

def Figures (text : Text) : Prop := ∀ c ∈ text, isFigure c = true

theorem Figures.not_mem {text : Text} (figures : Figures text) {c : Char}
    (foreign : isFigure c = false) : c ∉ text := by
  intro member
  exact Bool.false_ne_true (foreign.symm.trans (figures c member))

@[simp] theorem figures_nil : Figures [] := by
  intro c member
  cases member

@[simp] theorem figures_cons (c : Char) (text : Text) :
    Figures (c :: text) ↔ isFigure c = true ∧ Figures text := List.forall_mem_cons

@[simp] theorem figures_append (text other : Text) :
    Figures (text ++ other) ↔ Figures text ∧ Figures other := List.forall_mem_append

theorem Figures.dropEnd {text : Text} (figures : Figures text) (member : Char → Bool) :
    Figures (dropEnd member text) := by
  intro c inside
  rw [Text.dropEnd, List.mem_reverse] at inside
  exact figures c (List.mem_reverse.mp ((List.dropWhile_sublist _).subset inside))

@[simp] theorem figures_ofNat (n : Nat) : Figures (ofNat n) := by
  intro c member
  simp [isFigure, isPlainDigit_of_mem_ofNat member]

@[simp] theorem figures_ofInt (n : Int) : Figures (ofInt n) := by
  cases n with
  | ofNat n => exact figures_ofNat n
  | negSucc n => exact (figures_cons _ _).mpr ⟨by decide, figures_ofNat (n + 1)⟩

theorem figures_zeros (n : Nat) : Figures (List.replicate n '0') := by
  intro c member
  rw [List.eq_of_mem_replicate member]
  decide

end Text

namespace Decimal

open Text (Figures)

@[simp] theorem figures_signText (negative : Bool) : Figures (signText negative) := by
  cases negative with
  | false => exact Text.figures_nil
  | true => exact (Text.figures_cons _ _).mpr ⟨by decide, Text.figures_nil⟩

@[simp] theorem figures_infinityText (negative : Bool) : Figures (infinityText negative) := by
  have word : Figures "inf" := by simp [Text.isFigure]
  exact (Text.figures_append _ _).mpr ⟨figures_signText negative, word⟩

theorem figures_nan : Figures "nan" := by
  simp [Text.isFigure]

@[simp] theorem figures_zeroPadded (width n : Nat) : Figures (zeroPadded width n) :=
  (Text.figures_append _ _).mpr ⟨Text.figures_zeros _, Text.figures_ofNat n⟩

@[simp] theorem figures_withPoint (places n : Nat) : Figures (withPoint places n) := by
  have point : Text.isFigure '.' = true := by decide
  rw [withPoint]
  split
  · exact Text.figures_ofNat n
  · simp [point]

@[simp] theorem figures_pointFor (full : Bool) (places : Nat) : Figures (pointFor full places) := by
  have point : Text.isFigure '.' = true := by decide
  rw [pointFor]
  split
  · simp [point]
  · exact Text.figures_nil

@[simp] theorem figures_fixed (places : Nat) (double : Double) (full : Bool) :
    Figures (fixed places double full) := by
  cases double with
  | finite negative mantissa exponent => simp [fixed]
  | infinite negative => exact figures_infinityText negative
  | nan => exact figures_nan

theorem figures_dropTrailingZeros {text : Text} (figures : Figures text) :
    Figures (dropTrailingZeros text) :=
  (figures.dropEnd _).dropEnd _

@[simp] theorem figures_exponentText (exponent : Int) : Figures (exponentText exponent) := by
  have letter : Text.isFigure 'e' = true := by decide
  have sign : Text.isFigure (if exponent < 0 then '-' else '+') = true := by
    split <;> decide
  simp [exponentText, letter, sign]

@[simp] theorem figures_placed (full : Bool) (places digits : Nat) :
    Figures (placed full places digits) := by
  rw [placed]
  split
  · simp
  split
  · simp
  · exact figures_dropTrailingZeros (figures_withPoint places digits)

@[simp] theorem figures_significant (count : Nat) (double : Double) (full : Bool) :
    Figures (significant count double full) := by
  cases double with
  | finite negative mantissa exponent =>
    simp only [significant]
    split
    · simp
    split <;> simp
  | infinite negative => exact figures_infinityText negative
  | nan => exact figures_nan

/-! A number with zeros behind the point keeps what stands before it. -/

theorem dropTrailingZeros_point {front behind : Text}
    (digit : ∀ c ∈ front.getLast?, Text.isPlainDigit c = true) :
    ∃ rest, dropTrailingZeros (front ++ '.' :: behind) = front ++ rest := by
  have parts : front ++ '.' :: behind = (front ++ ['.']) ++ behind := by simp
  refine ⟨Text.dropEnd (· == '.') ('.' :: Text.dropEnd (· == '0') behind), ?_⟩
  rw [dropTrailingZeros, parts, Text.dropEnd_append, List.append_assoc, Text.dropEnd_append]
  · rfl
  · intro c last
    have other : c ≠ '.' := by
      rintro rfl
      exact absurd (digit _ last) (by decide)
    simpa using other
  · simp

theorem fixed_parts (places : Nat) (negative : Bool) (mantissa : Nat) (exponent : Int) :
    ∃ n behind, fixed (places + 1) (.finite negative mantissa exponent) =
      signText negative ++ Text.ofNat n ++ '.' :: behind := by
  have parts (digits : Nat) : withPoint (places + 1) digits =
      Text.ofNat (digits / Power.ten (places + 1)) ++
        '.' :: zeroPadded (places + 1) (digits % Power.ten (places + 1)) := by
    rw [withPoint, if_neg (Nat.succ_ne_zero places)]
  have pointless : pointFor false (places + 1) = [] := by simp [pointFor]
  simp only [fixed, parts, pointless, List.append_nil, ← List.append_assoc]
  exact ⟨_, _, rfl⟩

theorem dropTrailingZeros_fixed_ne_nil (places : Nat) (double : Double) :
    dropTrailingZeros (fixed (places + 1) double) ≠ [] := by
  cases double with
  | finite negative mantissa exponent =>
    obtain ⟨n, behind, parts⟩ := fixed_parts places negative mantissa exponent
    have digit : ∀ c ∈ (signText negative ++ Text.ofNat n).getLast?,
        Text.isPlainDigit c = true := by
      intro c last
      rw [List.getLast?_append_of_ne_nil _ (Text.ofNat_ne_nil n)] at last
      exact Text.isPlainDigit_of_mem_ofNat (List.mem_of_mem_getLast? last)
    obtain ⟨rest, kept⟩ := dropTrailingZeros_point digit
    rw [parts, kept]
    simp [Text.ofNat_ne_nil]
  | infinite negative =>
    have inf : fixed (places + 1) (.infinite negative) = infinityText negative := rfl
    rw [inf]
    cases negative <;> decide
  | nan =>
    have nan : fixed (places + 1) .nan = "nan" := rfl
    rw [nan]
    decide

end Decimal

namespace Metric

open Outcome (Gives)

theorem number_shows (value : Number) :
    Gives (number value) fun text => text ≠ [] ∧ Text.Figures text := by
  refine (Gives.anything _).bind fun whole _ => ?_
  split
  · exact .ok ⟨Text.ofInt_ne_nil _, Text.figures_ofInt _⟩
  · exact .ok ⟨Decimal.dropTrailingZeros_fixed_ne_nil 6 _,
      Decimal.figures_dropTrailingZeros (Decimal.figures_fixed _ _ _)⟩
  · exact .ok ⟨Text.ofInt_ne_nil _, Text.figures_ofInt _⟩

end Metric
end ServiceProbe
