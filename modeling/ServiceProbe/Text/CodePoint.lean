import ServiceProbe.Text.Quoted
/-!
Texts from outside may hold halves of a character that stand alone. Such a surrogate is a code point like
any other until the text is written: UTF-8 has no bytes for it.
-/
namespace ServiceProbe

inductive CodePoint where
  | char (c : Char)
  /-- A lone surrogate, counted from the first one. -/
  | surrogate (offset : Fin 0x800)
  deriving DecidableEq, Repr

/-- What a text is made of: characters, or code points. -/
class Letter (α : Type) where
  ofChar : Char → α
  point : α → CodePoint
  point_eq_char : ∀ {a c}, point a = .char c ↔ a = ofChar c

instance : Letter Char where
  ofChar c := c
  point := .char
  point_eq_char := by simp

instance : Letter CodePoint where
  ofChar := .char
  point a := a
  point_eq_char := Iff.rfl

namespace CodePoint

def escape (offset : Fin 0x800) : Text := '\\' :: 'u' :: Text.hexDigits 4 (0xd800 + offset)

/-- A code point as the error stream has it. -/
def shown : CodePoint → Text
  | .char c => [c]
  | .surrogate offset => escape offset

def escapeIn (mark : Char) : CodePoint → Text
  | .char c => Text.escapeIn mark c
  | .surrogate offset => escape offset

def char? : CodePoint → Option Char
  | .char c => some c
  | .surrogate _ => none

/-- A text in quotes. Only its characters decide on the kind of quotes. -/
def quoted (text : List CodePoint) : Text :=
  let mark := Text.quoteMark (text.filterMap char?)
  mark :: text.flatMap (escapeIn mark) ++ [mark]

end CodePoint

/-- Why a text cannot be written: the first surrogate, where it stands and how many stand there
together. -/
structure Utf8.Unencodable where
  position : Nat
  first : Fin 0x800
  count : Nat
  deriving DecidableEq, Repr

def Utf8.Unencodable.message (failure : Unencodable) : Text :=
  let place : Text :=
    if failure.count = 1 then
      " '" ++ CodePoint.escape failure.first ++ "' in position " ++ Text.ofNat failure.position
    else
      "s in position " ++ Text.ofNat failure.position ++ "-"
        ++ Text.ofNat (failure.position + failure.count - 1)
  "'utf-8' codec can't encode character" ++ place ++ ": surrogates not allowed"

namespace Letter

variable {α : Type} [Letter α]

def points (text : List α) : List CodePoint := text.map point

def shown (text : List α) : Text := (points text).flatMap CodePoint.shown

def isSurrogate (a : α) : Bool := (point a).char?.isNone

/-- A text in characters alone, if there is no surrogate in it. `position` letters are written in front
of it. -/
def characters (position : Nat) : List α → Except Utf8.Unencodable Text
  | [] => .ok []
  | a :: rest =>
    match point a with
    | .char c => (c :: ·) <$> characters (position + 1) rest
    | .surrogate offset => .error ⟨position, offset, (rest.takeWhile isSurrogate).length + 1⟩

end Letter
end ServiceProbe
