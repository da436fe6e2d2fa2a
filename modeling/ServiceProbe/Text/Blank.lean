import ServiceProbe.Text.Basic
/-!
White space and line breaks over all of Unicode: stripping a text, cutting it into words,
cutting it into lines.
-/
namespace ServiceProbe.Text

/-- Blanks above ASCII. -/
def wideBlanks : List Nat :=
  [0x85, 0xa0, 0x1680, 0x2000, 0x2001, 0x2002, 0x2003, 0x2004, 0x2005, 0x2006, 0x2007, 0x2008,
    0x2009, 0x200a, 0x2028, 0x2029, 0x202f, 0x205f, 0x3000]

/-- Blanks that set type: tab, line feed, vertical tab, form feed, carriage return, space. -/
def isPlainBlank (c : Char) : Bool := c == ' ' || (9 ≤ c.toNat && c.toNat ≤ 13)

/-- The separators of files, groups, records and units are blanks too. -/
def isSeparator (c : Char) : Bool := 0x1c ≤ c.toNat && c.toNat ≤ 0x1f

def isWideBlank (c : Char) : Bool := wideBlanks.contains c.toNat

def isBlank (c : Char) : Bool := isPlainBlank c || isSeparator c || isWideBlank c

def skipBlanks (text : Text) : Text := text.dropWhile isBlank

def strip (text : Text) : Text := trim isBlank text

/-- The longest pieces without blanks, in order. -/
def words : Text → List Text
  | [] => []
  | c :: rest =>
    if isBlank c then words rest
    else
      match rest, words rest with
      | d :: _, word :: others =>
        if isBlank d then [c] :: word :: others else (c :: word) :: others
      | _, others => [c] :: others

/-- Characters that end a line. -/
def isLineBreak (c : Char) : Bool :=
  [0x0a, 0x0b, 0x0c, 0x0d, 0x1c, 0x1d, 0x1e, 0x85, 0x2028, 0x2029].contains c.toNat

/-- The lines of a text. Carriage return and line feed together are one break, and a break at the
very end opens no further line. -/
def lines : Text → List Text
  | [] => []
  | '\r' :: '\n' :: rest => [] :: lines rest
  | c :: rest =>
    if isLineBreak c then [] :: lines rest
    else
      match lines rest with
      | [] => [[c]]
      | line :: others => (c :: line) :: others

end ServiceProbe.Text
