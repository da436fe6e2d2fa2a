/-!
Text is a list of characters, so that what is read and what is written are lists to reason about.
Literals are written as strings and taken apart where a text is wanted.
-/
namespace ServiceProbe

abbrev Text := List Char

instance : Coe String Text := ⟨String.toList⟩

namespace Text

/-- The decimal digits of a natural number, without leading zeros. -/
def ofNat (n : Nat) : Text := Nat.toDigits 10 n

def ofInt : Int → Text
  | .ofNat n => ofNat n
  | .negSucc n => '-' :: ofNat (n + 1)

/-- What follows a leading `pattern`. -/
def after? : (pattern text : Text) → Option Text
  | [], text => some text
  | _ :: _, [] => none
  | p :: pattern, c :: text => if p = c then after? pattern text else none

/-- The answer of `read` at the leftmost place where it has one; the end of the text is a place. -/
def leftmost? {α : Type} (read : Text → Option α) : Text → Option α
  | [] => read []
  | c :: rest =>
    match read (c :: rest) with
    | some found => some found
    | none => leftmost? read rest

/-- The text before the first `mark` and, if there is one, the text after it. -/
def cut (mark : Char) : Text → Text × Option Text
  | [] => ([], none)
  | c :: rest =>
    if c = mark then ([], some rest)
    else
      let (before, behind) := cut mark rest
      (c :: before, behind)

/-- Drops the characters of a class from the end. -/
def dropEnd (member : Char → Bool) (text : Text) : Text :=
  (text.reverse.dropWhile member).reverse

/-- Drops the characters of a class from both ends. -/
def trim (member : Char → Bool) (text : Text) : Text :=
  dropEnd member (text.dropWhile member)

def endsWith (text ending : Text) : Bool := ending.isSuffixOf text

/-- Fills up on the right with blanks to a width. -/
def padded (width : Nat) (text : Text) : Text :=
  text ++ List.replicate (width - text.length) ' '

def spaces (n : Nat) : Text := List.replicate n ' '

end Text
end ServiceProbe
