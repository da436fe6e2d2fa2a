import Mathlib.Tactic.IntervalCases
import ServiceProbe.Bytes.Utf8
/-!
Reading UTF-8 undoes writing it. A written character is read as one part, whatever bytes follow.
-/
namespace ServiceProbe.Utf8

theorem toNat_tail (code : Nat) : (tail code).toNat = 0x80 + code % 64 := by
  have size : 0x80 + code % 64 < 256 := by omega
  simp [tail, Nat.mod_eq_of_lt size]

theorem partFrom_tail {low high code : Nat} (bits size trailing : Nat) (rest : Bytes)
    (atLeast : low ≤ 0x80 + code % 64) (atMost : 0x80 + code % 64 ≤ high) :
    partFrom size (trailing + 1) low high bits (tail code :: rest) =
      partFrom (size + 1) trailing 0x80 0xbf (bits * 64 + code % 64) rest := by
  have digit : (0x80 + code % 64) % 64 = code % 64 := by omega
  simp [partFrom, toNat_tail, atLeast, atMost, digit]

/-- The last trailing bytes of a character have no bounds of their own. -/
theorem partFrom_last (bits size code : Nat) (rest : Bytes) :
    partFrom size 1 0x80 0xbf bits (tail code :: rest) =
      .char (Char.ofNat (bits * 64 + code % 64)) rest :=
  partFrom_tail bits size 0 rest (by omega) (by omega)

/-! Leading bytes. -/

theorem lead_two {bits : Nat} (low : 2 ≤ bits) (high : bits < 32) :
    lead? (UInt8.ofNat (0xc0 + bits)) = some ⟨1, 0x80, 0xbf, bits⟩ := by
  interval_cases bits <;> rfl

theorem lead_three {bits : Nat} (high : bits < 16) :
    lead? (UInt8.ofNat (0xe0 + bits)) =
      some ⟨2, if bits = 0 then 0xa0 else 0x80, if bits = 0xd then 0x9f else 0xbf, bits⟩ := by
  interval_cases bits <;> rfl

theorem lead_four {bits : Nat} (high : bits < 5) :
    lead? (UInt8.ofNat (0xf0 + bits)) =
      some ⟨3, if bits = 0 then 0x90 else 0x80, if bits = 4 then 0x8f else 0xbf, bits⟩ := by
  interval_cases bits <;> rfl

theorem part_of_lead {byte : Nat} {lead : Lead} (wide : 0x80 ≤ byte) (fits : byte < 256)
    (found : lead? (UInt8.ofNat byte) = some lead) (rest : Bytes) :
    part (UInt8.ofNat byte) rest = partFrom 1 lead.trailing lead.low lead.high lead.bits rest := by
  simp [part, Nat.mod_eq_of_lt fits, Nat.not_lt.mpr wide, found]

/-! Whole characters, by the number of their bytes. -/

section Characters

variable {code : Nat} (rest : Bytes)

theorem part_one (high : code < 0x80) :
    part (UInt8.ofNat code) rest = .char (Char.ofNat code) rest := by
  have fits : code < 256 := by omega
  simp [part, Nat.mod_eq_of_lt fits, high]

theorem part_two (low : 0x80 ≤ code) (high : code < 0x800) :
    part (UInt8.ofNat (0xc0 + code / 64)) (tail code :: rest) = .char (Char.ofNat code) rest := by
  have bits : code / 64 * 64 + code % 64 = code := by omega
  rw [part_of_lead (by omega) (by omega) (lead_two (by omega) (by omega)), partFrom_last, bits]

/-- No bits but those of overlong forms and of surrogates lead out of the bounds. -/
theorem part_three (low : 0x800 ≤ code) (high : code < 0x10000)
    (scalar : code < 0xd800 ∨ 0xdfff < code) :
    part (UInt8.ofNat (0xe0 + code / 4096)) (tail (code / 64) :: tail code :: rest) =
      .char (Char.ofNat code) rest := by
  have bits : (code / 4096 * 64 + code / 64 % 64) * 64 + code % 64 = code := by omega
  rw [part_of_lead (by omega) (by omega) (lead_three (by omega)),
    partFrom_tail _ _ 1 _ (by dsimp only; split <;> omega) (by dsimp only; split <;> omega),
    partFrom_last, bits]

theorem part_four (low : 0x10000 ≤ code) (high : code < 0x110000) :
    part (UInt8.ofNat (0xf0 + code / 262144))
        (tail (code / 4096) :: tail (code / 64) :: tail code :: rest) =
      .char (Char.ofNat code) rest := by
  have bits : ((code / 262144 * 64 + code / 4096 % 64) * 64 + code / 64 % 64) * 64 + code % 64 =
      code := by omega
  rw [part_of_lead (by omega) (by omega) (lead_four (by omega)),
    partFrom_tail _ _ 2 _ (by dsimp only; split <;> omega) (by dsimp only; split <;> omega),
    partFrom_tail _ _ 1 _ (by omega) (by omega), partFrom_last, bits]

end Characters

/-- A written character is read back as one part. -/
theorem part_encodeChar (c : Char) : ∃ byte bytes, encodeChar c = byte :: bytes ∧
    ∀ rest, part byte (bytes ++ rest) = .char c rest := by
  have scalar : c.toNat < 0xd800 ∨ (0xdfff < c.toNat ∧ c.toNat < 0x110000) := c.valid
  have back (rest : Bytes) : Part.char (Char.ofNat c.toNat) rest = .char c rest := by
    rw [Char.ofNat_toNat]
  unfold encodeChar
  dsimp only
  by_cases one : c.toNat < 0x80
  · rw [if_pos one]
    exact ⟨_, _, rfl, fun rest => (part_one rest one).trans (back rest)⟩
  rw [if_neg one]
  by_cases two : c.toNat < 0x800
  · rw [if_pos two]
    exact ⟨_, _, rfl, fun rest => (part_two rest (by omega) two).trans (back rest)⟩
  rw [if_neg two]
  by_cases three : c.toNat < 0x10000
  · rw [if_pos three]
    refine ⟨_, _, rfl, fun rest => ?_⟩
    exact (part_three rest (by omega) three (by omega)).trans (back rest)
  · rw [if_neg three]
    refine ⟨_, _, rfl, fun rest => ?_⟩
    exact (part_four rest (by omega) (by omega)).trans (back rest)

theorem decodeLossy_char {byte : UInt8} {c : Char} {rest left : Bytes}
    (read : part byte rest = .char c left) : decodeLossy (byte :: rest) = c :: decodeLossy left := by
  rw [decodeLossy]
  split
  · next read' =>
    rw [read] at read'
    cases read'
    rfl
  · next read' =>
    rw [read] at read'
    cases read'

theorem decodeLossy_encode (text : Text) : decodeLossy (encode text) = text := by
  induction text with
  | nil => simp [encode, decodeLossy]
  | cons c text ih =>
    obtain ⟨byte, bytes, encoded, read⟩ := part_encodeChar c
    have parts : encode (c :: text) = byte :: (bytes ++ encode text) := by
      simp [encode, encoded]
    rw [parts, decodeLossy_char (read _), ih]

theorem decodeFrom_char {byte : UInt8} {c : Char} {rest left : Bytes}
    (read : part byte rest = .char c left) (position : Nat) :
    decodeFrom position (byte :: rest) =
      (c :: ·) <$> decodeFrom (position + (1 + rest.length - left.length)) left := by
  rw [decodeFrom]
  split
  · next read' =>
    rw [read] at read'
    cases read'
    rfl
  · next read' =>
    rw [read] at read'
    cases read'

/-- What is written has no flaw, at whatever place the count begins. -/
theorem decodeFrom_encode (position : Nat) (text : Text) :
    decodeFrom position (encode text) = .ok text := by
  induction text generalizing position with
  | nil => simp [encode, decodeFrom]
  | cons c text ih =>
    obtain ⟨byte, bytes, encoded, read⟩ := part_encodeChar c
    have parts : encode (c :: text) = byte :: (bytes ++ encode text) := by
      simp [encode, encoded]
    rw [parts, decodeFrom_char (read _), ih]
    rfl

theorem decode_encode (text : Text) : decode (encode text) = .ok text :=
  decodeFrom_encode 0 text

theorem encode_injective {text other : Text} (same : encode text = encode other) : text = other := by
  have back := congrArg decodeLossy same
  rwa [decodeLossy_encode, decodeLossy_encode] at back

@[simp] theorem encode_append (text other : Text) : encode (text ++ other) = encode text ++ encode other :=
  List.flatMap_append

/-! A byte that could stand alone does stand alone. -/

theorem mem_encodeChar_of_plain {c : Char} {byte : UInt8} (plain : byte.toNat < 0x80)
    (member : byte ∈ encodeChar c) : c = Char.ofNat byte.toNat := by
  have scalar : c.toNat < 0xd800 ∨ (0xdfff < c.toNat ∧ c.toNat < 0x110000) := c.valid
  -- All bytes of a longer character are at least 0x80.
  have tails (code : Nat) : byte ≠ tail code := by
    rintro rfl
    rw [toNat_tail] at plain
    omega
  have leads {n : Nat} (low : 0x80 ≤ n) (high : n < 256) : byte ≠ UInt8.ofNat n := by
    rintro rfl
    rw [UInt8.toNat_ofNat', Nat.mod_eq_of_lt high] at plain
    omega
  rw [encodeChar] at member
  split at member
  · next one =>
    rw [List.mem_singleton.mp member, UInt8.toNat_ofNat', Nat.mod_eq_of_lt (by omega),
      Char.ofNat_toNat]
  split at member
  · simp only [List.mem_cons, List.not_mem_nil, or_false, tails] at member
    exact absurd member (leads (by omega) (by omega))
  split at member
  · simp only [List.mem_cons, List.not_mem_nil, or_false, tails] at member
    exact absurd member (leads (by omega) (by omega))
  · simp only [List.mem_cons, List.not_mem_nil, or_false, tails] at member
    exact absurd member (leads (by omega) (by omega))

theorem mem_encode_of_plain {text : Text} {byte : UInt8} (plain : byte.toNat < 0x80)
    (member : byte ∈ encode text) : Char.ofNat byte.toNat ∈ text := by
  obtain ⟨c, inside, member⟩ := List.mem_flatMap.mp member
  rwa [← mem_encodeChar_of_plain plain member]

end ServiceProbe.Utf8
