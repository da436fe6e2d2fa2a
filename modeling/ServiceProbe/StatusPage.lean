import ServiceProbe.Number.Numeral
import ServiceProbe.Text.Letter
/-!
Counters on a page of lines `label: value`. Labels are compared without regard to case.
-/
namespace ServiceProbe.StatusPage

def isSpacing (c : Char) : Bool := c == ' ' || c == '\t'

def skipSpacing (text : Text) : Text := text.dropWhile isSpacing

/-- The digits behind a label, spacing, a colon and spacing. -/
def digitsBehind? (label text : Text) : Option Text := do
  let text ← Text.after? [':'] (skipSpacing (← Text.afterIgnoringCase? label text))
  let digits := (skipSpacing text).takeWhile Text.isPlainDigit
  if digits.isEmpty then none else some digits

/-- The digits of a line whose label follows its leading spacing. A label may itself begin with
spacing, so less of it is skipped if skipping all of it leads nowhere. -/
def digitsInLine? (label : Text) : Text → Option Text
  | [] => digitsBehind? label []
  | c :: rest =>
    if isSpacing c then
      match digitsInLine? label rest with
      | some digits => some digits
      | none => digitsBehind? label (c :: rest)
    else digitsBehind? label (c :: rest)

def digits? (label : Text) (page : Text) : Option Text :=
  match digitsInLine? label page with
  | some digits => some digits
  | none => laterDigits? label page
where
  /-- Looks at the lines behind a line feed. -/
  laterDigits? (label : Text) : Text → Option Text
    | [] => none
    | c :: rest =>
      if c = '\n' then
        match digitsInLine? label rest with
        | some digits => some digits
        | none => laterDigits? label rest
      else laterDigits? label rest

/-- A counter, if a line of the page has it. -/
def counter? (page label : Text) : Except OutOfRange (Option Nat) :=
  match digits? label page with
  | some digits => some <$> Numeral.readDigits digits
  | none => .ok none

end ServiceProbe.StatusPage
