import ServiceProbe.Service.All
/-!
The program. The first word of the command line names a service, all others are for its probe. What
the peer sends is read from standard input, so that a reply can be judged that was fetched in
whatever way.
-/
namespace ServiceProbe.Main

/-- The file that a password reference leads to, if it can be read. -/
def passwordFile (reference : Text) : IO Files :=
  match PasswordStore.splitReference? reference with
  | none => return []
  | some (_, path) => do
    try
      let content ← IO.FS.readBinFile (String.ofList path.text)
      return .holding path content.toList
    catch _ => return []

def filesFor (probe : Probe) (words : List Text) : IO Files :=
  match (probe.offer.read words).outcome with
  | .ok (.accepted options) => (options.reference.map passwordFile).getD (return [])
  | _ => return []

/-- A peer that sends the same bytes whatever it is asked. -/
def peer (bytes : Bytes) : Transport :=
  .scripted { available := true } { otherwise := some (.bytes bytes) }

/-- Writes what a run has to say and gives its exit code. -/
def finish (run : Run Probe.Ending) : IO UInt32 := do
  IO.print (String.ofList run.journal.output)
  IO.eprint (String.ofList (run.journal.errorText {}))
  match run.outcome with
  | .ok (.returned code) => return code.toUInt32
  | .ok (.left code) => return code.toUInt32
  | .error fault =>
    IO.eprintln (String.ofList fault.message)
    return 1

def readInput : IO Bytes := do
  return (← (← IO.getStdin).readBinToEnd).toList

def runNamed (name : Text) (words : List Text) : IO UInt32 :=
  match Service.find? name with
  | none => do
    let names := List.intercalate ", ".toList (Service.named.map (·.1))
    IO.eprintln ("no such service, choose from " ++ String.ofList names)
    return State.unknown.code.toUInt32
  | some service => do
    let files ← filesFor service.probe words
    finish (service.probe.run files (peer (← readInput)) words)

end ServiceProbe.Main

def main (words : List String) : IO UInt32 :=
  match words with
  | [] => ServiceProbe.Main.runNamed [] []
  | name :: rest => ServiceProbe.Main.runNamed name.toList (rest.map String.toList)
