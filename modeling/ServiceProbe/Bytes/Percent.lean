import ServiceProbe.Bytes.Utf8
/-!
Percent encoding: a text as one segment of a path. The unreserved characters stand for themselves,
every other byte of the UTF-8 is written as `%XX`.
-/
namespace ServiceProbe.Percent

def isUnreserved (byte : UInt8) : Bool :=
  let c := Char.ofNat byte.toNat
  c.isAlphanum || c == '_' || c == '.' || c == '-' || c == '~'

def hexDigit (n : Nat) : Char := if n < 10 then Char.ofNat (n + 48) else Char.ofNat (n + 55)

def encodeByte (byte : UInt8) : Text :=
  if isUnreserved byte then [Char.ofNat byte.toNat]
  else ['%', hexDigit (byte.toNat / 16), hexDigit (byte.toNat % 16)]

def encode (text : Text) : Text := (Utf8.encode text).flatMap encodeByte

end ServiceProbe.Percent
