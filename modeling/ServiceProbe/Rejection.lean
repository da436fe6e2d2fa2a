import ServiceProbe.Bytes.Utf8
import ServiceProbe.Text.CodePoint
/-!
Fields of options or of a request that are refused, with the reason.
-/
namespace ServiceProbe

inductive Reason where
  | missing
  | noText
  | noUnicode
  | noInteger
  | fractional
  | notFinite
  | tooManyDigits
  | noNumber
  | noTruth
  | noLevel
  | noneOf (words : List Text)
  | empty
  | belowLeast
  | aboveGreatest
  | notPositive
  | lineBreak (given : List CodePoint)
  | notAbsolute (given : List CodePoint)
  deriving DecidableEq, Repr

structure Rejection where
  field : Text
  reason : Reason
  deriving DecidableEq, Repr

namespace Reason

def quotedWord (word : Text) : Text := '\'' :: word ++ ['\'']

/-- Words with commas between them and a last "or". -/
def alternatives (words : List Text) : Text :=
  match words.reverse with
  | [] => []
  | [word] => word
  | last :: others => List.intercalate ", " others.reverse ++ " or " ++ last

def message : Reason → Text
  | .missing => "Field required"
  | .noText => "Input should be a valid string"
  | .noUnicode => "Input should be a valid string, unable to parse raw data as a unicode string"
  | .noInteger => "Input should be a valid integer"
  | .fractional => "Input should be a valid integer, got a number with a fractional part"
  | .notFinite => "Input should be a finite number"
  | .tooManyDigits =>
    "Unable to parse input string as an integer, exceeded maximum size"
  | .noNumber => "Input should be a valid number"
  | .noTruth => "Input should be a valid boolean"
  | .noLevel => "Input should be a dictionary or an instance of Bound"
  | .noneOf words => "Input should be " ++ alternatives (words.map quotedWord)
  | .empty => "String should have at least 1 character"
  | .belowLeast => "Input should be greater than or equal to 1"
  | .aboveGreatest => "Input should be less than or equal to 65535"
  | .notPositive => "Input should be greater than 0"
  | .lineBreak _ => "Value error, must not contain line breaks"
  | .notAbsolute _ => "Value error, must start with '/' and must not contain spaces"

/-- As many whole characters from the head of a text as fit into some bytes. -/
def headWithin : (room : Nat) → Text → Text
  | _, [] => []
  | room, c :: rest =>
    let size := (Utf8.encodeChar c).length
    if size ≤ room then c :: headWithin (room - size) rest else []

/-- A shown value of more than fifty bytes keeps its first 25 and its last 24. -/
def shorten (shown : Text) : Text :=
  if (Utf8.encode shown).length ≤ 50 then shown
  else headWithin 25 shown ++ "..." ++ (headWithin 24 shown.reverse).reverse

/-- The refused value behind the message, where a value was looked at as a whole. -/
def detail (given : List CodePoint) : Text :=
  " [type=value_error, input_value=" ++ shorten (CodePoint.quoted given) ++ ", input_type=str]"

def fullMessage (reason : Reason) : Text :=
  match reason with
  | .lineBreak given => reason.message ++ detail given
  | .notAbsolute given => reason.message ++ detail given
  | _ => reason.message

end Reason

namespace Rejection

def text (rejection : Rejection) : Text := rejection.field ++ ": " ++ rejection.reason.message

/-- One line per field, for messages about options. -/
def invalidText (rejection : Rejection) : Text := "invalid " ++ rejection.text

def entry (rejection : Rejection) : Text :=
  "\n" ++ rejection.field ++ "\n  " ++ rejection.reason.fullMessage

/-- All rejections of one model, with a count in front. -/
def report (model : Text) (rejections : List Rejection) : Text :=
  let count := rejections.length
  Text.ofNat count ++ (if count = 1 then " validation error for " else " validation errors for ")
    ++ model ++ rejections.flatMap entry

end Rejection
end ServiceProbe
