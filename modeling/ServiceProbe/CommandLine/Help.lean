import ServiceProbe.CommandLine.Basic
import ServiceProbe.Template.Fill
import ServiceProbe.Text.Wrap
/-!
The usage text and the help text of a command line, laid out for a terminal of eighty columns.
-/
namespace ServiceProbe.CommandLine

variable {σ : Type}

/-- Two columns stay free. -/
def textWidth : Nat := 78

/-- Help starts in this column at the latest. -/
def helpColumn : Nat := 24

def indentation : Nat := 2

def usageLead : Text := "usage: "

namespace Help

/-- An option by its first name, with what stands for its value. -/
def brief (opt : Opt σ) : Text :=
  let name := opt.names.head?.getD []
  if opt.takesValue then name ++ ' ' :: opt.placeholder else name

def bracketed (text : Text) : Text := '[' :: text ++ [']']

/-- The pieces of the usage text between which a line may break: a required option breaks before
its value, anything in brackets stays together, and exclusive options share their brackets. -/
def usagePieces : (group : List Text) → List (Opt σ) → List Text
  | group, [] => closeGroup group
  | group, opt :: rest =>
    if opt.exclusive then usagePieces (group ++ [brief opt]) rest
    else
      let piece :=
        if opt.required then (brief opt).splitOn ' ' else [bracketed (brief opt)]
      closeGroup group ++ piece ++ usagePieces [] rest
where
  closeGroup (group : List Text) : List Text :=
    if group.isEmpty then [] else [bracketed (List.intercalate " | " group)]

/-- Fills lines; `used` columns are taken in the open line, to which `line` belongs. -/
def fill (indent : Nat) : (used : Nat) → (line : List Text) → List Text → List Text
  | _, line, [] => if line.isEmpty then [] else [List.intercalate [' '] line]
  | used, line, piece :: rest =>
    if textWidth < used + piece.length && !line.isEmpty then
      List.intercalate [' '] line :: fill indent (indent + piece.length + 1) [piece] rest
    else fill indent (used + piece.length + 1) (line ++ [piece]) rest

/-- A long program name stands on a line of its own. -/
def usageLines (program : Text) (pieces : List Text) : Nat × List Text :=
  let whole := List.intercalate [' '] ((program :: pieces).filter (!List.isEmpty ·))
  let lead := usageLead.length
  if lead + whole.length ≤ textWidth then (0, [whole])
  else if 4 * (lead + program.length) ≤ 3 * textWidth then
    let indent := lead + program.length + 1
    (indent, fill indent lead [] (program :: pieces))
  else (lead, program :: fill lead lead [] pieces)

/-- The first line follows the lead, the others are indented. -/
def usageText (program : Text) (opts : List (Opt σ)) : Text :=
  match usageLines program (usagePieces [] opts) with
  | (_, []) => usageLead
  | (indent, first :: rest) =>
    usageLead ++ first ++ rest.flatMap fun line => '\n' :: Text.spaces indent ++ line

def invocation (opt : Opt σ) : Text :=
  List.intercalate ", " (opt.names.map fun name =>
    if opt.takesValue then name ++ ' ' :: opt.placeholder else name)

/-- What a help text may name of any option. -/
def programFact (program : Text) : Text × Value := ("prog", .text program)

def namesProgram (text : Text) : Bool := (text.leftmost? (Text.after? "%(prog)")).isSome

/-- One option with the lines of its help, which start on the next line if the option leaves no
room. -/
def layOut (column : Nat) (header : Text) (lines : List Text) : Text :=
  let room := column - indentation - 2
  let start : Text :=
    if header.length ≤ room then Text.spaces indentation ++ Text.padded room header ++ "  "
    else Text.spaces indentation ++ header ++ '\n' :: Text.spaces column
  match lines with
  | [] => Text.spaces indentation ++ header ++ ['\n']
  | first :: rest =>
    start ++ first ++ ['\n']
      ++ rest.flatMap fun line => Text.spaces column ++ line ++ ['\n']

def item (program : Text) (column : Nat) (opt : Opt σ) : Except Template.Failure Text := do
  let help ← Template.fill opt.help (.byName (opt.facts ++ [programFact program]))
  let width := max (textWidth - column) 11
  return layOut column (invocation opt) (Text.Wrap.wrap width help)

def columnFor (opts : List (Opt σ)) : Nat :=
  let longest := (opts.map fun opt => (invocation opt).length + indentation).foldl max 0
  min (longest + 2) helpColumn

/-- A description is a template only if it names the program. -/
def describe (program description : Text) : Except Template.Failure Text := do
  let text ←
    if namesProgram description then
      Template.fill description (.byName [programFact program])
    else pure description
  return List.intercalate ['\n'] (Text.Wrap.wrap textWidth text)

/-- Of three or more line feeds in a row, two stay. -/
def closeGaps : Text → Text
  | '\n' :: '\n' :: '\n' :: rest => closeGaps ('\n' :: '\n' :: rest)
  | c :: rest => c :: closeGaps rest
  | [] => []

/-- No line feeds at the ends but one behind the last line. -/
def finish (text : Text) : Text := Text.trim (· == '\n') (closeGaps text) ++ ['\n']

end Help

def usage (program : Text) (opts : List (Opt σ)) : Text :=
  Help.finish (Help.usageText program opts ++ "\n\n")

/-- The description is looked at before the options. -/
def helpText (program description : Text) (opts : List (Opt σ)) :
    Except Template.Failure Text := do
  let description ← Help.describe program description
  let items ← opts.mapM (Help.item program (Help.columnFor opts))
  return Help.finish (Help.usageText program opts ++ "\n\n" ++ description
    ++ "\n\n\noptions:\n" ++ items.flatten ++ "\n")

end ServiceProbe.CommandLine
