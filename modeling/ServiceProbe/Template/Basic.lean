import ServiceProbe.Text.Digit
/-!
Templates: texts with places for values. A place begins with a percent sign and ends with a letter
that says how its value is written; between them may stand a name in parentheses, flags, a width
and a precision. Reading never fails: a place that is cut off, or whose letter means nothing, is
only refused when a value is to be put into it.
-/
namespace ServiceProbe.Template

structure Flags where
  /-- Fills up behind the value instead of before it. -/
  left : Bool := false
  /-- Writes a plus sign before numbers that are not negative. -/
  plus : Bool := false
  /-- Writes a blank in place of that plus sign. -/
  blank : Bool := false
  /-- Writes the base of an integer, or the point of a number without places. -/
  alternate : Bool := false
  /-- Fills numbers up with zeros. -/
  zeros : Bool := false
  deriving DecidableEq, Repr

/-- A width or a precision. One that is taken is a value of its own. -/
inductive Extent where
  | absent
  | given (n : Nat)
  | taken
  deriving DecidableEq, Repr

inductive Key where
  | absent
  | named (name : Text)
  /-- The closing parenthesis is missing. -/
  | unclosed
  deriving DecidableEq, Repr

structure Place where
  key : Key := .absent
  flags : Flags := {}
  width : Extent := .absent
  precision : Extent := .absent
  /-- The letter, which is missing when the template ends before it. -/
  letter : Option Char := none
  deriving DecidableEq, Repr

inductive Piece where
  | literal (c : Char)
  /-- A place, with the position of its letter in the template. -/
  | place (place : Place) (position : Nat)
  deriving DecidableEq, Repr

/-! Reading the parts of a place. Each reader gives the rest of the text. -/

/-- The name up to the parenthesis that closes the first one; others inside it are in pairs. -/
def readName : (depth : Nat) → Text → Option (Text × Text)
  | _, [] => none
  | depth, c :: rest =>
    if c = ')' ∧ depth = 0 then some ([], rest)
    else
      let depth := if c = '(' then depth + 1 else if c = ')' then depth - 1 else depth
      (readName depth rest).map fun (name, left) => (c :: name, left)

def readKey : Text → Key × Text
  | '(' :: rest =>
    match readName 0 rest with
    | some (name, left) => (.named name, left)
    | none => (.unclosed, [])
  | text => (.absent, text)

def readFlags (flags : Flags) : Text → Flags × Text
  | '-' :: rest => readFlags { flags with left := true } rest
  | '+' :: rest => readFlags { flags with plus := true } rest
  | ' ' :: rest => readFlags { flags with blank := true } rest
  | '#' :: rest => readFlags { flags with alternate := true } rest
  | '0' :: rest => readFlags { flags with zeros := true } rest
  | text => (flags, text)

def readExtent (text : Text) : Extent × Text :=
  match text with
  | '*' :: rest => (.taken, rest)
  | _ =>
    match text.takeWhile Text.isPlainDigit with
    | [] => (.absent, text)
    | digits => (.given (Nat.ofDigitChars 10 digits 0), text.dropWhile Text.isPlainDigit)

/-- A point without a number stands for a precision of zero. -/
def readPrecision : Text → Extent × Text
  | '.' :: rest =>
    match readExtent rest with
    | (.absent, left) => (.given 0, left)
    | read => read
  | text => (.absent, text)

/-- One letter for the size of a number may stand before the last one. It means nothing. -/
def skipSize : Text → Text
  | c :: rest => if c = 'h' ∨ c = 'l' ∨ c = 'L' then rest else c :: rest
  | [] => []

def readPlace (text : Text) : Place × Text :=
  let (key, text) := readKey text
  let (flags, text) := readFlags {} text
  let (width, text) := readExtent text
  let (precision, text) := readPrecision text
  match skipSize text with
  | letter :: rest => ({ key, flags, width, precision, letter := some letter }, rest)
  | [] => ({ key, flags, width, precision }, [])

/-- Reads a template from some position on; `skip` characters belong to a piece that was read. -/
def readFrom : (skip position : Nat) → Text → List Piece
  | _, _, [] => []
  | skip + 1, position, _ :: rest => readFrom skip (position + 1) rest
  | 0, position, '%' :: rest =>
    match rest with
    | '%' :: _ => .literal '%' :: readFrom 1 (position + 1) rest
    | _ =>
      let (place, left) := readPlace rest
      let size := rest.length - left.length
      .place place (position + size) :: readFrom size (position + 1) rest
  | 0, position, c :: rest => .literal c :: readFrom 0 (position + 1) rest

def read (text : Text) : List Piece := readFrom 0 0 text

end ServiceProbe.Template
