import ServiceProbe.Bytes.Utf8
import ServiceProbe.Network.Trouble
import ServiceProbe.Text.Quoted
/-!
Paths and the files they lead to. A file is given by the parts of its path: from the root of the system,
which is the first part then, or from the current directory.
-/
namespace ServiceProbe

/-- A path without empty names and without names that stay where they are. -/
structure Path where
  root : Text
  names : List Text
  deriving DecidableEq, Repr

namespace Path

/-- Two leading slashes are a root of their own, more are one. -/
def ofText (text : Text) : Path where
  root :=
    match (text.takeWhile (· == '/')).length with
    | 0 => []
    | 2 => ['/', '/']
    | _ => ['/']
  names := (text.splitOn '/').filter fun name => !name.isEmpty && name != ['.']

def text (path : Path) : Text :=
  if path.root.isEmpty && path.names.isEmpty then ['.']
  else path.root ++ List.intercalate ['/'] path.names

/-- No name holds a slash, so that the root is not mistaken for one. Both roots are the same place. -/
def parts (path : Path) : List Text :=
  if path.root.isEmpty then path.names else ['/'] :: path.names

end Path

inductive Node where
  | file (content : Bytes)
  | directory
  deriving DecidableEq, Repr

/-- Files and directories by the parts of their paths. -/
abbrev Files := List (List Text × Node)

namespace Files

/-- Why a path does not lead to a file, with the number and the text of the system. -/
inductive Obstacle where
  | missing
  | notDirectory
  | directory
  | nameTooLong
  deriving DecidableEq, Repr

namespace Obstacle

def number : Obstacle → Int
  | .missing => 2
  | .notDirectory => 20
  | .directory => 21
  | .nameTooLong => 36

def text : Obstacle → Text
  | .missing => "No such file or directory"
  | .notDirectory => "Not a directory"
  | .directory => "Is a directory"
  | .nameTooLong => "File name too long"

def trouble (obstacle : Obstacle) (path : Path) : Network.Trouble :=
  .system obstacle.number (obstacle.text ++ ": " ++ Text.quoted path.text)

end Obstacle

def isUp (part : Text) : Bool := part == ['.', '.']

/-- What stands at some parts. The current directory and those above it are there in any case, any other
directory with anything in it. -/
def node? (files : Files) (parts : List Text) : Option Node :=
  if parts.all isUp then some .directory
  else
    match files.find? (·.1 == parts) with
    | some (_, node) => some node
    | none => if files.any (parts.isPrefixOf ·.1) then some .directory else none

def commonDirectories : List String :=
  ["/bin", "/boot", "/dev", "/etc", "/home", "/lib", "/mnt", "/opt", "/proc", "/root", "/run",
    "/sbin", "/srv", "/sys", "/tmp", "/usr/bin", "/usr/lib", "/usr/local", "/usr/share",
    "/var/lib", "/var/log", "/var/tmp"]

/-- What every system has besides the files that are given: some directories, and a device that is
always empty. -/
def surroundings : Files :=
  ((Path.ofText "/dev/null").parts, .file []) ::
    commonDirectories.map fun (path : String) => ((Path.ofText path).parts, .directory)

def longestName : Nat := 255
def longestPath : Nat := 4095

/-- One directory up. Above the root is the root, above the current directory are further ones. -/
def parent (parts : List Text) : List Text :=
  if parts.all isUp then parts ++ [['.', '.']]
  else if parts = [['/']] then parts
  else parts.dropLast

/-- Only from a directory does a walk go on. -/
def requireDirectory (files : Files) (parts : List Text) : Except Obstacle Unit :=
  match files.node? parts with
  | none => .error .missing
  | some (.file _) => .error .notDirectory
  | some .directory => .ok ()

/-- One part further. -/
def enter (files : Files) (parts : List Text) (part : Text) : Except Obstacle (List Text) := do
  files.requireDirectory parts
  if isUp part then return parent parts
  if longestName < (Utf8.encode part).length then throw .nameTooLong
  if (files.node? (parts ++ [part])).isNone then throw .missing
  return parts ++ [part]

def contentAt (files : Files) (parts : List Text) : Except Obstacle Bytes :=
  match files.node? parts with
  | some (.file content) => .ok content
  | some .directory => .error .directory
  | none => .error .missing

def read (files : Files) (path : Path) : Except Obstacle Bytes := do
  if longestPath < (Utf8.encode path.text).length then throw .nameTooLong
  let system := files ++ surroundings
  system.contentAt (← path.parts.foldlM (enter system) [])

/-! The files that let a path be read. -/

/-- Where some parts lead if all is there that they pass. -/
def destination (parts : List Text) : List Text :=
  parts.foldl (fun reached part => if isUp part then parent reached else reached ++ [part]) []

/-- A file at the end of a path, and the directories on the way to it. -/
def holding (path : Path) (content : Bytes) : Files :=
  (destination path.parts, .file content) ::
    (List.range path.parts.length).map fun count => (destination (path.parts.take count), .directory)

end Files
end ServiceProbe
