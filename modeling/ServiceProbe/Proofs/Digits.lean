import ServiceProbe.Proofs.Words
/-!
Whole numbers in digits. A written number has at least one digit and no other characters but a sign, and
no two numbers are written alike.
-/
namespace ServiceProbe.Text

theorem ofNat_ne_nil (n : Nat) : ofNat n ≠ [] := Nat.toDigits_ne_nil

theorem isPlainDigit_of_mem_ofNat {n : Nat} {c : Char} (member : c ∈ ofNat n) :
    isPlainDigit c = true := by
  have digit : c.isDigit = true := Nat.isDigit_of_mem_toDigits (by decide) (by decide) member
  exact isPlainDigit_iff.mpr (Char.isDigit_iff_toNat.mp digit)

theorem ofNat_injective {m n : Nat} (same : ofNat m = ofNat n) : m = n := by
  have back := congrArg (Nat.ofDigitChars 10 · 0) same
  simpa [ofNat] using back

theorem ofInt_ne_nil (n : Int) : ofInt n ≠ [] := by
  cases n with
  | ofNat n => exact ofNat_ne_nil n
  | negSucc n => simp [ofInt]

theorem mem_ofInt {n : Int} {c : Char} (member : c ∈ ofInt n) : c = '-' ∨ isPlainDigit c = true := by
  cases n with
  | ofNat n => exact Or.inr (isPlainDigit_of_mem_ofNat member)
  | negSucc n =>
    rw [ofInt, List.mem_cons] at member
    exact member.imp_right isPlainDigit_of_mem_ofNat

theorem not_mem_ofInt {c : Char} (other : c ≠ '-') (foreign : isPlainDigit c = false) (n : Int) :
    c ∉ ofInt n := by
  intro member
  rcases mem_ofInt member with minus | digit
  · exact other minus
  · exact Bool.false_ne_true (foreign.symm.trans digit)

theorem minus_not_mem_ofNat (n : Nat) : '-' ∉ ofNat n := by
  intro member
  exact absurd (isPlainDigit_of_mem_ofNat member) (by decide)

theorem ofInt_injective {m n : Int} (same : ofInt m = ofInt n) : m = n := by
  cases m with
  | ofNat m =>
    cases n with
    | ofNat n => rw [ofNat_injective same]
    | negSucc n =>
      have minus : '-' ∈ ofNat m := by simp [show ofNat m = _ from same, ofInt]
      exact absurd minus (minus_not_mem_ofNat m)
  | negSucc m =>
    cases n with
    | ofNat n =>
      have minus : '-' ∈ ofNat n := by simp [← show _ = ofNat n from same, ofInt]
      exact absurd minus (minus_not_mem_ofNat n)
    | negSucc n =>
      simp only [ofInt, List.cons.injEq, true_and] at same
      rw [Nat.succ.inj (ofNat_injective same)]

end ServiceProbe.Text

namespace ServiceProbe.Numeral

/-- A written number is read back, as long as it is not too long to be read at all. -/
theorem readInt_ofNat {n : Nat} (short : (Text.ofNat n).length ≤ OutOfRange.digitLimit) :
    readInt? (Text.ofNat n) = some (n : Int) := by
  have plain : ∀ c ∈ Text.ofNat n, Text.isPlainDigit c = true :=
    fun c member => Text.isPlainDigit_of_mem_ofNat member
  rw [readInt_plain plain (Text.ofNat_ne_nil n) short, Text.ofNat, Nat.ofDigitChars_ten_toDigits]

end ServiceProbe.Numeral
