import ServiceProbe.Number.Basic
import ServiceProbe.Text.Blank
import ServiceProbe.Text.Digit
/-!
Numbers read from text. Digits may come from any script; in a numeral that stands alone, blanks may
surround it and single underscores may stand between digits.
-/
namespace ServiceProbe.Numeral

/-- Blanks that may surround a numeral: all but the separators. -/
def isMargin (c : Char) : Bool := Text.isPlainBlank c || Text.isWideBlank c

def trimMargin (text : Text) : Text := Text.trim isMargin text

/-- Takes a sign off, if there is one. -/
def takeSign : Text → Bool × Text
  | '-' :: rest => (true, rest)
  | '+' :: rest => (false, rest)
  | text => (false, text)

def isGrouped (c : Char) : Bool := c == '_' || Text.isDigit c

/-- The digits at the head of a text, with single underscores between them. An underscore anywhere
else belongs to no numeral. -/
def takeGrouped? (text : Text) : Option (List Nat × Text) :=
  let group := text.takeWhile isGrouped
  let parts := group.splitOn '_'
  if group.isEmpty then some ([], text)
  else if parts.any List.isEmpty then none
  else some (parts.flatten.filterMap Text.digitValue?, text.dropWhile isGrouped)

def signed (negative : Bool) (size : Nat) : Int := if negative then -size else size

/-- A whole number. Beyond the digit limit there is none. -/
def readInt? (text : Text) : Option Int := do
  let (negative, body) := takeSign (trimMargin text)
  let (digits, rest) ← takeGrouped? body
  if digits.isEmpty || !rest.isEmpty || OutOfRange.digitLimit < digits.length then none
  else some (signed negative (Text.numberOf digits))

/-- The value of a row of plain digits, as they stand on a status page. -/
def readDigits (digits : Text) : Except OutOfRange Nat :=
  if OutOfRange.digitLimit < digits.length then .error (.tooManyDigits digits.length)
  else .ok (Text.numberOf (digits.filterMap Text.digitValue?))

/-- The digits before and behind a point, and how many are behind it. -/
structure Mantissa where
  digits : List Nat
  places : Nat

/-- One of the two parts of a mantissa may be missing. -/
def takeMantissa? (text : Text) : Option (Mantissa × Text) := do
  let (whole, rest) ← takeGrouped? text
  match rest with
  | '.' :: behind =>
    let (fraction, left) ← takeGrouped? behind
    if whole.isEmpty && fraction.isEmpty then none
    else some (⟨whole ++ fraction, fraction.length⟩, left)
  | _ => if whole.isEmpty then none else some (⟨whole, 0⟩, rest)

/-- The exponent that makes up the whole of a text; nothing stands for zero. -/
def readExponent? : Text → Option Int
  | [] => some 0
  | c :: rest => do
    if c = 'e' ∨ c = 'E' then
      let (negative, body) := takeSign rest
      let (digits, left) ← takeGrouped? body
      if digits.isEmpty || !left.isEmpty then none
      else some (signed negative (Text.numberOf digits))
    else none

def plainLower (text : Text) : Text := text.map Char.toLower

/-- A decimal number, or one of the words for infinity and for what is not a number. -/
def readDouble? (text : Text) : Option Double := do
  let (negative, body) := takeSign (trimMargin text)
  let word := plainLower body
  if word = "inf" ∨ word = "infinity" then some (.infinite negative)
  else if word = "nan" then some .nan
  else
    let (mantissa, rest) ← takeMantissa? body
    let exponent ← readExponent? rest
    some (.ofDecimal negative (Text.numberOf mantissa.digits) (exponent - mantissa.places))

/-! A numeral inside a longer text has no underscores, and ends where it no longer continues. -/

/-- The characters of a class at the head of a text, and the rest. -/
def spanDigits (text : Text) : Text × Text :=
  (text.takeWhile Text.isDigit, text.dropWhile Text.isDigit)

def takeSignText : Text → Text × Text
  | '-' :: rest => (['-'], rest)
  | '+' :: rest => (['+'], rest)
  | text => ([], text)

/-- Digits with an optional point and further digits, or a point and digits. -/
def plainMantissa? (text : Text) : Option (Text × Text) :=
  match spanDigits text with
  | ([], '.' :: behind) =>
    match spanDigits behind with
    | ([], _) => none
    | (fraction, rest) => some ('.' :: fraction, rest)
  | ([], _) => none
  | (whole, '.' :: behind) =>
    let (fraction, rest) := spanDigits behind
    some (whole ++ '.' :: fraction, rest)
  | (whole, rest) => some (whole, rest)

/-- The letter of an exponent counts only with digits behind it. -/
def plainExponent (text : Text) : Text :=
  match text with
  | c :: rest =>
    if c = 'e' ∨ c = 'E' then
      let (sign, body) := takeSignText rest
      match spanDigits body with
      | ([], _) => []
      | (digits, _) => c :: sign ++ digits
    else []
  | [] => []

/-- The longest head of a text that is a numeral. -/
def head? (text : Text) : Option Text :=
  let (sign, body) := takeSignText text
  (plainMantissa? body).map fun (mantissa, rest) => sign ++ mantissa ++ plainExponent rest

end ServiceProbe.Numeral
