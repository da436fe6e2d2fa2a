import ServiceProbe.Number.Shortest
import ServiceProbe.Text.Quoted
/-!
Values that are put into texts. Each has a kind, by which messages name it, and two ways to be
shown: plainly, and quoted, where a text stands in quotes.
-/
namespace ServiceProbe

inductive Value where
  | nothing
  | truth (holds : Bool)
  | int (n : Int)
  | real (double : Double)
  | text (content : Text)
  /-- A collection of values, which is only ever shown as a whole. -/
  | collection (kind shown : Text)
  deriving DecidableEq, Repr

namespace Value

def kind : Value → Text
  | .nothing => "NoneType"
  | .truth _ => "bool"
  | .int _ => "int"
  | .real _ => "float"
  | .text _ => "str"
  | .collection kind _ => kind

def truthText (holds : Bool) : Text := if holds then "True" else "False"

def shown : Value → Text
  | .nothing => "None"
  | .truth holds => truthText holds
  | .int n => Text.ofInt n
  | .real double => Decimal.shortest double
  | .text content => content
  | .collection _ shown => shown

def quoted : Value → Text
  | .text content => Text.quoted content
  | value => value.shown

def commas (texts : List Text) : Text := List.intercalate ", " texts

/-- Inside a collection all values are quoted. -/
def list (values : List Value) : Value :=
  .collection "list" ('[' :: commas (values.map quoted) ++ [']'])

/-- A group of one value has a comma behind it. -/
def tuple (values : List Value) : Value :=
  let ending : Text := if values.length = 1 then ",)" else ")"
  .collection "tuple" ('(' :: commas (values.map quoted) ++ ending)

def entryText (entry : Text × Value) : Text := Text.quoted entry.1 ++ ": " ++ entry.2.quoted

/-- Values by name. -/
def table (entries : List (Text × Value)) : Value :=
  .collection "dict" ('\x7b' :: commas (entries.map entryText) ++ ['\x7d'])

/-- Some values as one text: one of them as it is, or quoted, several as a group. -/
def together (quoteOne : Bool) (values : List Value) : Text :=
  match values with
  | [] => []
  | [value] => if quoteOne then value.quoted else value.shown
  | values => (tuple values).shown

/-- A quoted value with an escape for every character outside ASCII. -/
def ascii (value : Value) : Text :=
  value.quoted.flatMap fun c => if c.toNat < 0x80 then [c] else Text.escapeCode c

end Value
end ServiceProbe
