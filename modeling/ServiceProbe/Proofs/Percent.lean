import ServiceProbe.Bytes.Percent
import ServiceProbe.Proofs.Utf8
/-!
Reading percent encoding. What is written as a segment of a path has unreserved characters and escapes
only, so that nothing in it parts a path, and reading it gives back the text that it was made from.
-/
namespace ServiceProbe.Percent

/-- A character that stands for itself in a segment. -/
def Unreserved (c : Char) : Prop := c.isAlphanum = true ∨ c ∈ ['_', '.', '-', '~']

instance (c : Char) : Decidable (Unreserved c) := inferInstanceAs (Decidable (_ ∨ _))

/-- A digit as it is written in an escape. -/
def HexDigit (c : Char) : Prop := c ∈ "0123456789ABCDEF".toList

instance (c : Char) : Decidable (HexDigit c) := inferInstanceAs (Decidable (_ ∈ _))

/-- A text of unreserved characters and escapes. -/
inductive Escaped : Text → Prop
  | nil : Escaped []
  | plain {c : Char} {rest : Text} (unreserved : Unreserved c) (behind : Escaped rest) :
    Escaped (c :: rest)
  | escape {high low : Char} {rest : Text} (first : HexDigit high) (second : HexDigit low)
      (behind : Escaped rest) :
    Escaped ('%' :: high :: low :: rest)

/-- The number that a hexadecimal digit stands for, in either case. -/
def hexValue? (c : Char) : Option Nat :=
  if '0' ≤ c ∧ c ≤ '9' then some (c.toNat - 48)
  else if 'A' ≤ c ∧ c ≤ 'F' then some (c.toNat - 55)
  else if 'a' ≤ c ∧ c ≤ 'f' then some (c.toNat - 87)
  else none

/-- An escape is one byte. All that is no escape stands for the bytes of its characters. -/
def bytesOf : Text → Bytes
  | '%' :: high :: low :: rest =>
    match hexValue? high, hexValue? low with
    | some a, some b => .ofNat (16 * a + b) :: bytesOf rest
    | _, _ => Utf8.encodeChar '%' ++ bytesOf (high :: low :: rest)
  | c :: rest => Utf8.encodeChar c ++ bytesOf rest
  | [] => []

def decode (text : Text) : Except Utf8.Failure Text := Utf8.decode (bytesOf text)

/-! Characters. -/

theorem hexValue_hexDigit : ∀ n < 16, hexValue? (hexDigit n) = some n := by
  decide

theorem hexDigit_written : ∀ n < 16, HexDigit (hexDigit n) := by
  decide

theorem HexDigit.unreserved {c : Char} (digit : HexDigit c) : Unreserved c := by
  have letters : "0123456789ABCDEF".toList.all (·.isAlphanum) = true := by decide
  exact Or.inl (List.all_eq_true.mp letters c digit)

theorem Unreserved.ne_percent {c : Char} (unreserved : Unreserved c) : c ≠ '%' := by
  rintro rfl
  revert unreserved
  decide

/-- In a segment there is nothing but unreserved characters and the mark of an escape. -/
theorem Escaped.mem {text : Text} (escaped : Escaped text) {c : Char} (member : c ∈ text) :
    Unreserved c ∨ c = '%' := by
  induction escaped with
  | nil => cases member
  | plain unreserved _ ih =>
    rcases List.mem_cons.mp member with rfl | later
    · exact Or.inl unreserved
    · exact ih later
  | escape first second _ ih =>
    simp only [List.mem_cons] at member
    rcases member with rfl | rfl | rfl | later
    · exact Or.inr rfl
    · exact Or.inl first.unreserved
    · exact Or.inl second.unreserved
    · exact ih later

/-! Bytes. -/

section Byte

variable (byte : UInt8)

theorem unreserved_of_isUnreserved {byte : UInt8} (kept : isUnreserved byte = true) :
    Unreserved (Char.ofNat byte.toNat) := by
  simpa [isUnreserved, Unreserved, or_assoc] using kept

theorem escaped_encodeByte {rest : Text} (behind : Escaped rest) :
    Escaped (encodeByte byte ++ rest) := by
  have size := byte.toNat_lt
  by_cases kept : isUnreserved byte = true
  · rw [encodeByte, if_pos kept]
    exact .plain (unreserved_of_isUnreserved kept) behind
  · rw [encodeByte, if_neg kept]
    exact .escape (hexDigit_written _ (by omega)) (hexDigit_written _ (by omega)) behind

theorem encodeChar_unreserved : ∀ n < 256, isUnreserved (.ofNat n) = true →
    Utf8.encodeChar (Char.ofNat n) = [.ofNat n] := by
  decide +kernel

theorem bytesOf_plain {c : Char} (other : c ≠ '%') (rest : Text) :
    bytesOf (c :: rest) = Utf8.encodeChar c ++ bytesOf rest := by
  rw [bytesOf]
  simp [other]

theorem bytesOf_encodeByte (rest : Text) :
    bytesOf (encodeByte byte ++ rest) = byte :: bytesOf rest := by
  have size := byte.toNat_lt
  by_cases kept : isUnreserved byte = true
  · have noEscape := (unreserved_of_isUnreserved kept).ne_percent
    have single : Utf8.encodeChar (Char.ofNat byte.toNat) = [byte] := by
      simpa using encodeChar_unreserved byte.toNat size (by simpa using kept)
    rw [encodeByte, if_pos kept, List.singleton_append, bytesOf_plain noEscape, single,
      List.singleton_append]
  · have parts : 16 * (byte.toNat / 16) + byte.toNat % 16 = byte.toNat := Nat.div_add_mod _ _
    rw [encodeByte, if_neg kept]
    show bytesOf ('%' :: hexDigit (byte.toNat / 16) :: hexDigit (byte.toNat % 16) :: rest) = _
    rw [bytesOf, hexValue_hexDigit _ (by omega), hexValue_hexDigit _ (by omega)]
    dsimp only
    rw [parts, UInt8.ofNat_toNat]

end Byte

/-! Texts. -/

theorem escaped_flatMap (bytes : Bytes) : Escaped (bytes.flatMap encodeByte) := by
  induction bytes with
  | nil => exact .nil
  | cons byte bytes ih =>
    rw [List.flatMap_cons]
    exact escaped_encodeByte byte ih

theorem bytesOf_flatMap (bytes : Bytes) : bytesOf (bytes.flatMap encodeByte) = bytes := by
  induction bytes with
  | nil => rfl
  | cons byte bytes ih => rw [List.flatMap_cons, bytesOf_encodeByte, ih]

theorem escaped_encode (text : Text) : Escaped (encode text) := escaped_flatMap (Utf8.encode text)

theorem decode_encode (text : Text) : decode (encode text) = .ok text := by
  rw [decode, encode, bytesOf_flatMap, Utf8.decode_encode]

theorem encode_injective {text other : Text} (same : encode text = encode other) : text = other := by
  have back := congrArg decode same
  rw [decode_encode, decode_encode] at back
  exact Except.ok.inj back

end ServiceProbe.Percent
