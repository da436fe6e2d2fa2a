import ServiceProbe.Text.Basic
/-!
UTF-8: bytes from text, and text from bytes. A sequence that is not well formed is cut into its
maximal parts: each is the longest head of a well-formed character, or a single byte.
-/
namespace ServiceProbe

abbrev Bytes := List UInt8

namespace Utf8

/-- A trailing byte with six bits of a code. -/
def tail (code : Nat) : UInt8 := UInt8.ofNat (0x80 + code % 64)

def encodeChar (c : Char) : Bytes :=
  let code := c.toNat
  if code < 0x80 then [UInt8.ofNat code]
  else if code < 0x800 then [UInt8.ofNat (0xc0 + code / 64), tail code]
  else if code < 0x10000 then
    [UInt8.ofNat (0xe0 + code / 4096), tail (code / 64), tail code]
  else
    [UInt8.ofNat (0xf0 + code / 262144), tail (code / 4096), tail (code / 64), tail code]

def encode (text : Text) : Bytes := text.flatMap encodeChar

/-- What a leading byte announces: how many trailing bytes, between which bounds the first of them
lies, and its own bits of the code. -/
structure Lead where
  trailing : Nat
  low : Nat
  high : Nat
  bits : Nat

/-- The bounds exclude overlong forms, surrogates and codes beyond the last. -/
def lead? (byte : UInt8) : Option Lead :=
  let b := byte.toNat
  if 0xc2 ≤ b ∧ b ≤ 0xdf then some ⟨1, 0x80, 0xbf, b - 0xc0⟩
  else if b = 0xe0 then some ⟨2, 0xa0, 0xbf, 0⟩
  else if b = 0xed then some ⟨2, 0x80, 0x9f, 0xd⟩
  else if 0xe1 ≤ b ∧ b ≤ 0xef then some ⟨2, 0x80, 0xbf, b - 0xe0⟩
  else if b = 0xf0 then some ⟨3, 0x90, 0xbf, 0⟩
  else if 0xf1 ≤ b ∧ b ≤ 0xf3 then some ⟨3, 0x80, 0xbf, b - 0xf0⟩
  else if b = 0xf4 then some ⟨3, 0x80, 0x8f, 4⟩
  else none

inductive Flaw where
  | badStart
  | badContinuation
  | cutOff
  deriving DecidableEq, Repr

inductive Part where
  | char (c : Char) (rest : Bytes)
  | flawed (size : Nat) (flaw : Flaw) (rest : Bytes)

/-- Reads trailing bytes; `size` bytes were read before. -/
def partFrom (size : Nat) : (trailing low high code : Nat) → Bytes → Part
  | 0, _, _, code, rest => .char (Char.ofNat code) rest
  | _ + 1, _, _, _, [] => .flawed size .cutOff []
  | trailing + 1, low, high, code, byte :: rest =>
    let b := byte.toNat
    if low ≤ b ∧ b ≤ high then partFrom (size + 1) trailing 0x80 0xbf (code * 64 + b % 64) rest
    else .flawed size .badContinuation (byte :: rest)

def part (byte : UInt8) (rest : Bytes) : Part :=
  if byte.toNat < 0x80 then .char (Char.ofNat byte.toNat) rest
  else
    match lead? byte with
    | some lead => partFrom 1 lead.trailing lead.low lead.high lead.bits rest
    | none => .flawed 1 .badStart rest

def Part.rest : Part → Bytes
  | .char _ rest => rest
  | .flawed _ _ rest => rest

theorem length_partFrom_le (size trailing low high code : Nat) (bytes : Bytes) :
    (partFrom size trailing low high code bytes).rest.length ≤ bytes.length := by
  induction trailing generalizing size low high code bytes with
  | zero => simp [partFrom, Part.rest]
  | succ trailing ih =>
    cases bytes with
    | nil => simp [partFrom, Part.rest]
    | cons byte rest =>
      simp only [partFrom]
      split
      · exact Nat.le_trans (ih _ _ _ _ _) (by simp)
      · simp [Part.rest]

theorem length_part_le (byte : UInt8) (rest : Bytes) :
    (part byte rest).rest.length ≤ rest.length := by
  unfold part
  split
  · simp [Part.rest]
  · split
    · exact length_partFrom_le _ _ _ _ _ _
    · simp [Part.rest]

def replacement : Char := '\uFFFD'

/-- Every flawed part becomes one replacement character. -/
def decodeLossy : Bytes → Text
  | [] => []
  | byte :: rest =>
    match h : part byte rest with
    | .char c left =>
      have : left.length ≤ rest.length := by simpa [h, Part.rest] using length_part_le byte rest
      c :: decodeLossy left
    | .flawed _ _ left =>
      have : left.length ≤ rest.length := by simpa [h, Part.rest] using length_part_le byte rest
      replacement :: decodeLossy left
termination_by bytes => bytes.length

/-- The first flaw of a byte sequence: where it stands, how long it is, and with which byte it
begins. -/
structure Failure where
  position : Nat
  size : Nat
  byte : UInt8
  flaw : Flaw
  deriving DecidableEq, Repr

/-- Refuses a sequence that is not well formed. -/
def decodeFrom (position : Nat) : Bytes → Except Failure Text
  | [] => .ok []
  | byte :: rest =>
    match h : part byte rest with
    | .char c left =>
      have : left.length ≤ rest.length := by simpa [h, Part.rest] using length_part_le byte rest
      (c :: ·) <$> decodeFrom (position + (1 + rest.length - left.length)) left
    | .flawed size flaw _ => .error ⟨position, size, byte, flaw⟩
termination_by bytes => bytes.length

def decode (bytes : Bytes) : Except Failure Text := decodeFrom 0 bytes

def Flaw.reason : Flaw → Text
  | .badStart => "invalid start byte"
  | .badContinuation => "invalid continuation byte"
  | .cutOff => "unexpected end of data"

def Failure.message (failure : Failure) : Text :=
  let place : Text :=
    if failure.size = 1 then
      let digits := Nat.toDigits 16 failure.byte.toNat
      "byte 0x" ++ List.replicate (2 - digits.length) '0' ++ digits ++ " in position "
        ++ Text.ofNat failure.position
    else
      "bytes in position " ++ Text.ofNat failure.position ++ "-"
        ++ Text.ofNat (failure.position + failure.size - 1)
  "'utf-8' codec can't decode " ++ place ++ ": " ++ failure.flaw.reason

end Utf8
end ServiceProbe
