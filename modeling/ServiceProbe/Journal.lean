import ServiceProbe.Fault
import ServiceProbe.Log
import ServiceProbe.Network.Event
import ServiceProbe.Wire
/-!
A run is what it did and how it ended. What it did is a journal; the texts on the two output
streams are read off the journal, so that how much is logged can change nothing else.
-/
namespace ServiceProbe

inductive Entry where
  | setUpLog (verbosity : Int)
  | record (record : Log.Record)
  /-- Goes straight to the error stream, whatever the log is set to. -/
  | remark (text : Text)
  | output (text : Text)
  | exchange (wire : Wire)
  | event (event : Network.Event)
  deriving DecidableEq, Repr

abbrev Journal := List Entry

namespace Journal

def output (journal : Journal) : Text :=
  journal.flatMap fun
    | .output text => text
    | _ => []

def exchanges (journal : Journal) : List Wire :=
  journal.filterMap fun
    | .exchange wire => some wire
    | _ => none

def events (journal : Journal) : List Network.Event :=
  journal.filterMap fun
    | .event event => some event
    | _ => none

def settingsAfter (settings : Log.Settings) : Entry → Log.Settings
  | .setUpLog verbosity => settings.setUp verbosity
  | _ => settings

def errorTextOf (settings : Log.Settings) : Entry → Text
  | .record record =>
    match settings.write? record with
    | some (stream, text) => if stream = Log.consoleStream then text else []
    | none => []
  | .remark text => text
  | _ => []

/-- The text on the error stream, with the log set as before the first entry. -/
def errorText (settings : Log.Settings) : Journal → Text
  | [] => []
  | entry :: rest =>
    errorTextOf settings entry ++ errorText (settingsAfter settings entry) rest

end Journal

structure Run (α : Type) where
  journal : Journal
  outcome : Except Fault α

namespace Run

variable {α β : Type}

def ofExcept (outcome : Except Fault α) : Run α := ⟨[], outcome⟩

def note (entry : Entry) : Run Unit := ⟨[entry], .ok ()⟩

def throw (fault : Fault) : Run α := ⟨[], .error fault⟩

/-- Goes on with the result, if there is one. -/
def andThen (run : Run α) (next : α → Run β) : Run β :=
  match run.outcome with
  | .error fault => ⟨run.journal, .error fault⟩
  | .ok a => ⟨run.journal ++ (next a).journal, (next a).outcome⟩

/-- Goes on with the fault, if there is one. -/
def orElse (run : Run α) (handle : Fault → Run α) : Run α :=
  match run.outcome with
  | .ok _ => run
  | .error fault => ⟨run.journal ++ (handle fault).journal, (handle fault).outcome⟩

instance : Monad Run where
  pure a := ⟨[], .ok a⟩
  bind := andThen

def record (source : Text) (level : Int) (text : Text) (traced : Bool := false) : Run Unit :=
  note (.record { source, level, text, traced })

end Run
end ServiceProbe
