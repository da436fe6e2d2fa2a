import ServiceProbe.Fault
import ServiceProbe.Files
import ServiceProbe.Text.Blank
/-!
Passwords kept in a file, one `id:password` a line, and references `id:file` to them. Blank lines
and lines that begin with a number sign say nothing; of two entries with one id the later counts.
-/
namespace ServiceProbe

/-- Passwords by id. -/
abbrev PasswordStore := List (Text × Text)

namespace PasswordStore

def put (store : PasswordStore) (id password : Text) : PasswordStore :=
  match store with
  | [] => [(id, password)]
  | (other, kept) :: rest =>
    if other = id then (id, password) :: rest else (other, kept) :: put rest id password

def find? (store : PasswordStore) (id : Text) : Option Text :=
  (List.find? (fun entry => entry.1 == id) store).map (·.2)

def isSilent (line : Text) : Bool := (Text.strip line).isEmpty || line.head? == some '#'

/-- Reads entries; `number` is that of the first line. The error is the number of a line that is
no entry. -/
def ofLines (store : PasswordStore) : (number : Nat) → (lines : List Text) →
    Except Nat PasswordStore
  | _, [] => .ok store
  | number, line :: rest =>
    if isSilent line then ofLines store (number + 1) rest
    else
      match Text.cut ':' line with
      | (id, some password) => ofLines (store.put id password) (number + 1) rest
      | (_, none) => .error number

def parse (content : Text) : Except Nat PasswordStore := ofLines [] 1 (Text.lines content)

def load (files : Files) (path : Path) : Except Fault PasswordStore :=
  if path.text.contains '\x00' then .error .nulInPath
  else
    match files.read path with
    | .error obstacle => .error (.store (.unreadable path.text (obstacle.trouble path)))
    | .ok bytes =>
      match Utf8.decode bytes with
      | .error failure => .error (.undecodable failure)
      | .ok content =>
        match parse content with
        | .error line => .error (.store (.malformedLine path.text line))
        | .ok store => .ok store

def lookup (files : Files) (path : Path) (id : Text) : Except Fault Text := do
  match (← load files path).find? id with
  | some password => return password
  | none => throw (.store (.unknownId path.text id))

/-- The id and the file of a reference. Neither may be empty. -/
def splitReference? (reference : Text) : Option (Text × Path) :=
  match Text.cut ':' reference with
  | (id, some file) => if id.isEmpty || file.isEmpty then none else some (id, .ofText file)
  | (_, none) => none

def splitReference (reference : Text) : Except Fault (Text × Path) :=
  match splitReference? reference with
  | some parts => .ok parts
  | none => .error (.malformedReference reference)

end PasswordStore
end ServiceProbe
