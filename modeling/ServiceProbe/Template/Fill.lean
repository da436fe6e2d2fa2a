import ServiceProbe.Number.Numeral
import ServiceProbe.Template.Basic
import ServiceProbe.Value
/-!
Putting values into the places of a template. Values come in order or by name; every value is
written as the letter of its place says, and fitted to the width of the place. All values that come
in order must be used.
-/
namespace ServiceProbe.Template

inductive Failure where
  | noNames
  | unclosedKey
  | unknownKey (key : Text)
  | cutOff
  | widthTooBig
  | precisionTooBig
  | noRoom
  | extentNotInteger
  | tooFewValues
  | tooManyValues
  | unknownLetter (letter : Char) (position : Nat)
  | notInteger (letter : Char) (kind : Text)
  | notNumber (letter : Char) (kind : Text)
  | notReal (kind : Text)
  | notCharacter
  | noSuchCharacter
  | outOfRange (cause : OutOfRange)
  deriving DecidableEq, Repr

namespace Failure

/-- A letter is shown if it is a plain character. -/
def letterText (letter : Char) : Text :=
  if 31 ≤ letter.toNat ∧ letter.toNat ≤ 126 then [letter] else ['?']

def message : Failure → Text
  | .noNames => "format requires a mapping"
  | .unclosedKey => "incomplete format key"
  | .unknownKey key => Text.quoted key
  | .cutOff => "incomplete format"
  | .widthTooBig => "width too big"
  | .precisionTooBig => "precision too big"
  | .noRoom => []
  | .extentNotInteger => "* wants int"
  | .tooFewValues => "not enough arguments for format string"
  | .tooManyValues => "not all arguments converted during string formatting"
  | .unknownLetter letter position =>
    "unsupported format character '" ++ letterText letter ++ "' (0x"
      ++ Nat.toDigits 16 letter.toNat ++ ") at index " ++ Text.ofNat position
  | .notInteger letter kind =>
    '%' :: letter :: " format: an integer is required, not ".toList ++ kind
  | .notNumber letter kind =>
    '%' :: letter :: " format: a real number is required, not ".toList ++ kind
  | .notReal kind => "must be real number, not " ++ kind
  | .notCharacter => "%c requires int or char"
  | .noSuchCharacter => "%c arg not in range(0x110000)"
  | .outOfRange cause => cause.message

end Failure

inductive Arguments where
  | inOrder (values : List Value)
  | byName (entries : List (Text × Value))
  deriving DecidableEq, Repr

namespace Arguments

def value : Arguments → Value
  | .inOrder values => .tuple values
  | .byName entries => .table entries

end Arguments

/-- The values that the next places may take. -/
structure Supply where
  names : Option (List (Text × Value))
  pending : List Value

namespace Supply

/-- Values by name are also there as a whole, once, until a name is asked for. -/
def ofArguments : Arguments → Supply
  | .inOrder values => ⟨none, values⟩
  | .byName entries => ⟨some entries, [.table entries]⟩

def take (supply : Supply) : Except Failure (Value × Supply) :=
  match supply.pending with
  | [] => .error .tooFewValues
  | value :: rest => .ok (value, { supply with pending := rest })

/-- The value of a name is all that is left for the place that names it, and for those behind. -/
def select (supply : Supply) (key : Key) : Except Failure Supply :=
  match key, supply.names with
  | .absent, _ => .ok supply
  | _, none => .error .noNames
  | .unclosed, some _ => .error .unclosedKey
  | .named name, some entries =>
    match entries.find? (·.1 == name) with
    | some (_, value) => .ok { supply with pending := [value] }
    | none => .error (.unknownKey name)

end Supply

/-- A value before it is fitted to its place: what is written of a number in front of its digits
stands apart. -/
structure Body where
  sign : Text := []
  base : Text := []
  text : Text
  numeric : Bool := false

/-- The sign of a number, as the flags want it. -/
def Flags.signFor (flags : Flags) (body : Body) : Text :=
  if !body.numeric || !body.sign.isEmpty then body.sign
  else if flags.plus then ['+']
  else if flags.blank then [' ']
  else []

/-- Zeros stand between the sign and the digits, blanks before or behind all. -/
def Body.fit (body : Body) (flags : Flags) (width : Nat) : Text :=
  let sign := flags.signFor body
  let room := width - (sign ++ body.base ++ body.text).length
  if flags.left then sign ++ body.base ++ body.text ++ Text.spaces room
  else if flags.zeros && body.numeric then
    sign ++ body.base ++ List.replicate room '0' ++ body.text
  else Text.spaces room ++ sign ++ body.base ++ body.text

/-! Values as the letter of a place wants them. -/

/-- Of a text no more than the precision says is shown. -/
def shownBody (precision : Option Nat) (text : Text) : Body where
  text := (precision.map text.take).getD text

/-- The integer of a value; a number loses what stands behind its point. -/
def wholeOf (letter : Char) : Value → Except Failure Int
  | .int n => .ok n
  | .truth holds => .ok (if holds then 1 else 0)
  | .real double => (Number.truncate double).mapError .outOfRange
  | value => .error (.notNumber letter value.kind)

/-- The integer of a value that is one. -/
def integerOf (letter : Char) : Value → Except Failure Int
  | .int n => .ok n
  | .truth holds => .ok (if holds then 1 else 0)
  | value => .error (.notInteger letter value.kind)

def realOf : Value → Except Failure Double
  | .int n => (Number.toDouble (.int n)).mapError .outOfRange
  | .truth holds => .ok (Double.ofRatio false (if holds then 1 else 0) 1)
  | .real double => .ok double
  | value => .error (.notReal value.kind)

def characterOf : Value → Except Failure Char
  | .text [c] => .ok c
  | .int n =>
    if 0 ≤ n ∧ n < 0x110000 then .ok (Char.ofNat n.toNat) else .error .noSuchCharacter
  | .truth holds => .ok (Char.ofNat (if holds then 1 else 0))
  | _ => .error .notCharacter

/-- No more characters than this are written for one place. -/
def mostPlaces : Nat := 10000000

def roomFor (places : Nat) : Except Failure Unit :=
  if mostPlaces < places then .error .noRoom else .ok ()

/-- The digits of an integer, at least as many as the precision says. -/
def integerBody (base : Nat) (mark : Text) (precision : Option Nat) (n : Int) :
    Except Failure Body := do
  roomFor (precision.getD 0)
  let digits := Nat.toDigits base n.natAbs
  return {
    sign := if n < 0 then ['-'] else []
    base := mark
    text := List.replicate (precision.getD 0 - digits.length) '0' ++ digits
    numeric := true }

def realBody (write : Nat → Double → (full : Bool) → Text) (flags : Flags)
    (precision : Option Nat) (value : Value) : Except Failure Body := do
  let double ← realOf value
  roomFor (precision.getD 0)
  let (sign, text) := Numeral.takeSignText (write (precision.getD 6) double flags.alternate)
  return { sign, text, numeric := true }

def upper (body : Body) : Body :=
  { body with base := body.base.map Char.toUpper, text := body.text.map Char.toUpper }

/-- The mark of a base, where it is wanted. -/
def baseMark (flags : Flags) (mark : Text) : Text := if flags.alternate then mark else []

def hexBody (flags : Flags) (letter : Char) (precision : Option Nat) (value : Value) :
    Except Failure Body := do
  integerBody 16 (baseMark flags "0x") precision (← integerOf letter value)

/-- What the letter of a place makes of a value. -/
def bodyOf (flags : Flags) (precision : Option Nat) (letter : Char) (position : Nat)
    (value : Value) : Except Failure Body :=
  match letter with
  | 's' => .ok (shownBody precision value.shown)
  | 'r' => .ok (shownBody precision value.quoted)
  | 'a' => .ok (shownBody precision value.ascii)
  | 'c' => do return { text := [← characterOf value] }
  | 'd' | 'i' | 'u' => do integerBody 10 [] precision (← wholeOf letter value)
  | 'o' => do integerBody 8 (baseMark flags "0o") precision (← integerOf letter value)
  | 'x' => hexBody flags letter precision value
  | 'X' => upper <$> hexBody flags letter precision value
  | 'f' => realBody (Decimal.fixed · · ·) flags precision value
  | 'F' => upper <$> realBody (Decimal.fixed · · ·) flags precision value
  | 'e' => realBody (Decimal.scientific · · ·) flags precision value
  | 'E' => upper <$> realBody (Decimal.scientific · · ·) flags precision value
  | 'g' => realBody (Decimal.significant · · ·) flags precision value
  | 'G' => upper <$> realBody (Decimal.significant · · ·) flags precision value
  | _ => .error (.unknownLetter letter position)

/-! Widths and precisions. -/

def widest : Nat := 9223372036854775807

def mostPrecise : Nat := 2147483647

/-- An extent, and the supply behind it. One that is missing is none. -/
def Extent.resolve (extent : Extent) (limit : Nat) (failure : Failure) (supply : Supply) :
    Except Failure (Option Int × Supply) :=
  match extent with
  | .absent => .ok (none, supply)
  | .given n => if limit < n then .error failure else .ok (some n, supply)
  | .taken => do
    match ← supply.take with
    | (.int n, supply) => if limit < n.natAbs then .error failure else .ok (some n, supply)
    | (.truth holds, supply) => .ok (some (if holds then 1 else 0), supply)
    | _ => .error .extentNotInteger

/-- The text for a place whose extents are known. -/
def placeText (flags : Flags) (width precision : Option Int) (letter : Char) (position : Nat)
    (supply : Supply) : Except Failure (Text × Supply) := do
  let (value, supply) ← supply.take
  let body ← bodyOf flags (precision.map Int.toNat) letter position value
  let width := width.getD 0
  roomFor width.natAbs
  return (body.fit { flags with left := flags.left || width < 0 } width.natAbs, supply)

/-- By name, a place that leaves its value to the places behind is one too many. -/
def fillPlace (place : Place) (position : Nat) (supply : Supply) :
    Except Failure (Text × Supply) := do
  let supply ← supply.select place.key
  let (width, supply) ← place.width.resolve widest .widthTooBig supply
  let (precision, supply) ← place.precision.resolve mostPrecise .precisionTooBig supply
  match place.letter with
  | none => throw .cutOff
  | some letter =>
    let (text, supply) ← placeText place.flags width precision letter position supply
    if supply.names.isSome && !supply.pending.isEmpty then throw .tooManyValues
    return (text, supply)

def fillPieces : List Piece → Supply → Except Failure Text
  | [], supply =>
    if supply.names.isNone && !supply.pending.isEmpty then .error .tooManyValues else .ok []
  | .literal c :: rest, supply => do return c :: (← fillPieces rest supply)
  | .place place position :: rest, supply => do
    let (text, supply) ← fillPlace place position supply
    return text ++ (← fillPieces rest supply)

def fill (text : Text) (arguments : Arguments) : Except Failure Text :=
  fillPieces (read text) (.ofArguments arguments)

end ServiceProbe.Template
