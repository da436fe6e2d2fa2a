import ServiceProbe.Fault
import ServiceProbe.Log.Record
/-!
The log. Records carry a level; the settings say from which level on they are written, to which
stream and in which format. The settings are changed by verbosity alone, never by what is logged.
-/
namespace ServiceProbe.Log

def Format.ofText (text : Text) : Except Fault Format :=
  match ofText? text with
  | some format => .ok format
  | none => .error (.uselessFormat text)

structure Sink where
  stream : Text
  format : Format
  deriving DecidableEq, Repr

structure Settings where
  level : Int := warning
  sink : Option Sink := none
  deriving DecidableEq, Repr

def levelOf (verbosity : Int) : Int :=
  if verbosity ≤ 0 then warning else if verbosity = 1 then verbose else debug

def consoleStream : Text := "stderr"

namespace Settings

def toConsole (settings : Settings) : Settings :=
  { settings with sink := some ⟨consoleStream, .console⟩ }

def toStream (settings : Settings) (stream : Text) (format : Format) : Settings :=
  { settings with sink := some ⟨stream, format⟩ }

def setVerbosity (settings : Settings) (verbosity : Int) : Settings :=
  { settings with level := levelOf verbosity }

/-- Any verbosity but zero, even a negative one, turns the console on. -/
def setUp (settings : Settings) (verbosity : Int) : Settings :=
  (if verbosity = 0 then settings else settings.toConsole).setVerbosity verbosity

/-- The stream and the text for a record that is written at all. -/
def write? (settings : Settings) (record : Record) : Option (Text × Text) :=
  if belongs record.source && settings.level ≤ record.level then do
    let sink ← settings.sink
    match record.render sink.format with
    | .ok text => some (sink.stream, text)
    | .error _ => none
  else none

end Settings
end ServiceProbe.Log
