import ServiceProbe.Bytes.Base64
/-!
Reading Base64. Every group of characters gives back the bytes that it was made from, and the padding
tells how many there were, so that bytes are told apart.
-/
namespace ServiceProbe.Base64

/-- The number that a digit stands for. -/
def value (c : Char) : Nat :=
  if c = '+' then 62
  else if c = '/' then 63
  else if c.toNat < 58 then c.toNat + 4
  else if c.toNat < 91 then c.toNat - 65
  else c.toNat - 71

theorem value_digit : ∀ n < 64, value (digit n) = n := by
  decide

/-- The padding is no digit. -/
theorem digit_ne_padding : ∀ n < 64, digit n ≠ '=' := by
  decide

/-- Reads groups of four characters. The padding stands for no bits, and nothing is read behind it. -/
def decode : Text → Bytes
  | a :: b :: c :: d :: rest =>
    let n := ((value a * 64 + value b) * 64 + value c) * 64 + value d
    if c = '=' then [.ofNat (n / 65536)]
    else if d = '=' then [.ofNat (n / 65536), .ofNat (n / 256)]
    else .ofNat (n / 65536) :: .ofNat (n / 256) :: .ofNat n :: decode rest
  | _ => []

theorem ofNat_eq (byte : UInt8) {n : Nat} (low : n % 256 = byte.toNat) : UInt8.ofNat n = byte :=
  UInt8.toNat_inj.mp (UInt8.toNat_ofNat'.trans low)

/-- Reading gives back what was written: the padding tells how many bytes the last group has. -/
theorem decode_encode (bytes : Bytes) : decode (encode bytes) = bytes := by
  have padding : value '=' = 0 := by decide
  induction bytes using encode.induct with
  | case1 => rfl
  | case2 a =>
    have bound := a.toNat_lt
    rw [encode, decode, if_pos rfl, value_digit _ (by omega), value_digit _ (by omega), padding]
    rw [ofNat_eq a (by omega)]
  | case3 a b =>
    have bounds := And.intro a.toNat_lt b.toNat_lt
    rw [encode, decode, if_neg (digit_ne_padding _ (by omega)), if_pos rfl, value_digit _ (by omega),
      value_digit _ (by omega), value_digit _ (by omega), padding]
    rw [ofNat_eq a (by omega), ofNat_eq b (by omega)]
  | case4 a b c rest ih =>
    have bounds := And.intro a.toNat_lt (And.intro b.toNat_lt c.toNat_lt)
    rw [encode, decode, if_neg (digit_ne_padding _ (by omega)),
      if_neg (digit_ne_padding _ (by omega)), value_digit _ (by omega), value_digit _ (by omega),
      value_digit _ (by omega), value_digit _ (by omega), ih]
    rw [ofNat_eq a (by omega), ofNat_eq b (by omega), ofNat_eq c (by omega)]

theorem encode_injective {bytes others : Bytes} (same : encode bytes = encode others) :
    bytes = others := by
  rw [← decode_encode bytes, same, decode_encode]

/-- Nothing is written but digits and the padding. -/
theorem mem_encode {bytes : Bytes} {c : Char} (member : c ∈ encode bytes) :
    c = '=' ∨ ∃ n < 64, c = digit n := by
  induction bytes using encode.induct with
  | case1 => cases member
  | case2 a =>
    have bound := a.toNat_lt
    simp only [encode, List.mem_cons, List.not_mem_nil, or_false, or_self] at member
    rcases member with rfl | rfl | rfl
    · exact Or.inr ⟨_, by omega, rfl⟩
    · exact Or.inr ⟨_, by omega, rfl⟩
    · exact Or.inl rfl
  | case3 a b =>
    have bounds := And.intro a.toNat_lt b.toNat_lt
    simp only [encode, List.mem_cons, List.not_mem_nil, or_false] at member
    rcases member with rfl | rfl | rfl | rfl
    · exact Or.inr ⟨_, by omega, rfl⟩
    · exact Or.inr ⟨_, by omega, rfl⟩
    · exact Or.inr ⟨_, by omega, rfl⟩
    · exact Or.inl rfl
  | case4 a b c rest ih =>
    have bounds := And.intro a.toNat_lt (And.intro b.toNat_lt c.toNat_lt)
    simp only [encode, List.mem_cons] at member
    rcases member with rfl | rfl | rfl | rfl | later
    · exact Or.inr ⟨_, by omega, rfl⟩
    · exact Or.inr ⟨_, by omega, rfl⟩
    · exact Or.inr ⟨_, by omega, rfl⟩
    · exact Or.inr ⟨_, by omega, rfl⟩
    · exact ih later

end ServiceProbe.Base64
