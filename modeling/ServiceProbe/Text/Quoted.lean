import ServiceProbe.Text.Basic
import ServiceProbe.Text.Printable
/-!
A text in quotes, as messages show it. It stands in apostrophes, or in quotation marks when it
holds an apostrophe and no quotation mark; what cannot be printed is written as an escape.
-/
namespace ServiceProbe.Text

def hexDigits (width n : Nat) : Text :=
  let digits := Nat.toDigits 16 n
  List.replicate (width - digits.length) '0' ++ digits

/-- The escape for a character that cannot be printed, by the size of its code. -/
def escapeCode (c : Char) : Text :=
  let code := c.toNat
  if code < 0x100 then '\\' :: 'x' :: hexDigits 2 code
  else if code < 0x10000 then '\\' :: 'u' :: hexDigits 4 code
  else '\\' :: 'U' :: hexDigits 8 code

def escapeIn (mark c : Char) : Text :=
  if c = mark ∨ c = '\\' then ['\\', c]
  else if c = '\t' then ['\\', 't']
  else if c = '\n' then ['\\', 'n']
  else if c = '\r' then ['\\', 'r']
  else if isPrintable c then [c]
  else escapeCode c

def quoteMark (text : Text) : Char :=
  if text.contains '\'' && !text.contains '"' then '"' else '\''

def quoted (text : Text) : Text :=
  let mark := quoteMark text
  mark :: text.flatMap (escapeIn mark) ++ [mark]

end ServiceProbe.Text
