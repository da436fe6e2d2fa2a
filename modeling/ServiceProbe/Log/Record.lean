import ServiceProbe.Template.Fill
import ServiceProbe.Text.Letter
import ServiceProbe.Text.Word
/-!
What is logged, and the lines that it makes. The message of a record is a template with values, and
a format is a template whose values are the fields of a record. A record that does not fit its own
values, or whose line does not fit the format, makes no line.
-/
namespace ServiceProbe.Log

def debug : Int := 10
def verbose : Int := 15
def info : Int := 20
def warning : Int := 30
def error : Int := 40
def critical : Int := 50

def levelName (level : Int) : Text :=
  if level = debug then "DEBUG"
  else if level = verbose then "VERBOSE"
  else if level = info then "INFO"
  else if level = warning then "WARNING"
  else if level = error then "ERROR"
  else if level = critical then "CRITICAL"
  else if level = 0 then "NOTSET"
  else "Level " ++ Text.ofInt level

/-- The source that all others of the program belong to. -/
def root : Text := "netmon"

/-- A source belongs to the root if it is the root or lies below it. -/
def belongs (source : Text) : Bool :=
  match Text.after? root source with
  | some [] => true
  | some (c :: _) => c == '.'
  | none => false

/-- One message with the values for its places. `traced` says that the steps leading to a fault
belong to it. -/
structure Record where
  source : Text
  level : Int
  text : Text
  values : Template.Arguments := .inOrder []
  traced : Bool := false
  deriving DecidableEq, Repr

/-- Without values the text is the message as it is, whatever percent signs it holds. -/
def Record.message (record : Record) : Except Template.Failure Text :=
  match record.values with
  | .inOrder [] => .ok record.text
  | values => Template.fill record.text values

abbrev Format := Text

namespace Format

def letters : Text := "diouxefgcrsa"

def isLetter (c : Char) : Bool := c == '%' || letters.any (Text.sameLetter c)

def isFlag (c : Char) : Bool := "#0+ -".toList.contains c

/-- What follows a star or digits of any script. -/
def behindExtent? : Text → Option Text
  | '*' :: rest => some rest
  | c :: rest => if Text.isDigit c then some (rest.dropWhile Text.isDigit) else none
  | [] => none

/-- A width and a precision, of which each may be missing, and a letter. -/
def endsPlace (text : Text) : Bool :=
  let text := text.dropWhile isFlag
  let text := (behindExtent? text).getD text
  let text := match text with
    | '.' :: rest => (behindExtent? rest).getD text
    | _ => text
  (text.head?.map isLetter).getD false

/-- Whether a text begins with a place that has a name. -/
def startsPlace (text : Text) : Bool :=
  match Text.after? "%(" text with
  | none => false
  | some rest =>
    let name := rest.takeWhile Text.isWordCharacter
    match rest.dropWhile Text.isWordCharacter with
    | ')' :: behind => !name.isEmpty && endsPlace behind
    | _ => false

/-- A format without any named place says nothing of a record. -/
def isValid (text : Text) : Bool :=
  (text.leftmost? fun text => if startsPlace text then some () else none).isSome

def message : Format := "%(message)s"

/-- The format that a text describes; an empty one stands for the message alone. -/
def ofText? (text : Text) : Option Format :=
  if text.isEmpty then some message else if isValid text then some text else none

def full : Format := "%(asctime)s [%(levelno)s] [%(name)s] %(message)s"

def console : Format := "%(levelname)s: %(message)s"

end Format

/-- Stands for the point in time, which is not part of what is written here. -/
def timeText : Text := "<time>"

/-- Stands for the steps that led to a fault. -/
def traceText : Text := "<traceback>"

/-- What a format may name. The steps that led to a fault are not told by name. -/
def Record.fields (record : Record) (message : Text) : List (Text × Value) :=
  [("name", .text record.source), ("msg", .text record.text), ("args", record.values.value),
    ("levelname", .text (levelName record.level)), ("levelno", .int record.level),
    ("exc_info", .nothing), ("exc_text", .nothing), ("stack_info", .nothing),
    ("threadName", .text "MainThread"), ("processName", .text "MainProcess"),
    ("message", .text message), ("asctime", .text timeText)]

def Record.render (record : Record) (format : Format) : Except Template.Failure Text := do
  let line ← Template.fill format (.byName (record.fields (← record.message)))
  return line ++ ['\n'] ++ if record.traced then traceText ++ ['\n'] else []

end ServiceProbe.Log
