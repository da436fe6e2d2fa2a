import ServiceProbe.Network.Trouble
import ServiceProbe.Number.Basic
import ServiceProbe.Rejection
import ServiceProbe.Template.Fill
/-!
Causes for which a run or one of its steps ends early, and their wording.
-/
namespace ServiceProbe

/-- The families of failures that belong to monitoring. Each but the first is a kind of another. -/
inductive Family where
  | monitoring
  | general
  | bailOut
  | transport
  | resolve
  | connect
  | handshake
  deriving DecidableEq, Repr

namespace Family

/-- A family and all it is a kind of, nearest first. -/
def lineage : Family → List Family
  | .monitoring => [.monitoring]
  | .general => [.general, .monitoring]
  | .bailOut => [.bailOut, .monitoring]
  | .transport => [.transport, .monitoring]
  | .resolve => [.resolve, .transport, .monitoring]
  | .connect => [.connect, .transport, .monitoring]
  | .handshake => [.handshake, .connect, .transport, .monitoring]

def isTransport (family : Family) : Bool := family.lineage.contains .transport

end Family

/-- What went wrong on the way to a reply. -/
inductive ExchangeFailure where
  | unresolved (host : Text) (cause : Network.Trouble)
  /-- One reason for each address tried. -/
  | unconnected (reasons : List Text)
  | handshake (cause : Network.Trouble)
  | sending (host : Text) (port : Int) (cause : Network.Trouble)
  | receiving (cause : Network.Trouble)
  deriving DecidableEq, Repr

namespace ExchangeFailure

def family : ExchangeFailure → Family
  | .unresolved _ _ => .resolve
  | .unconnected _ => .connect
  | .handshake _ => .handshake
  | .sending _ _ _ => .transport
  | .receiving _ => .transport

def message : ExchangeFailure → Text
  | .unresolved host cause => "Cannot resolve host '" ++ host ++ "': " ++ cause.message
  | .unconnected reasons =>
    let reasons := if reasons.isEmpty then ["no address".toList] else reasons
    "Connection failed (" ++ List.intercalate "; " reasons ++ ")"
  | .handshake cause => "Error establishing TLS connection: " ++ cause.message
  | .sending host port cause =>
    "Sending to " ++ host ++ ":" ++ Text.ofInt port ++ " failed: " ++ cause.message
  | .receiving cause => "Communication failed: " ++ cause.message

end ExchangeFailure

inductive StoreFailure where
  | unreadable (path : Text) (cause : Network.Trouble)
  | malformedLine (path : Text) (line : Nat)
  | unknownId (path id : Text)
  deriving DecidableEq, Repr

namespace StoreFailure

def message : StoreFailure → Text
  | .unreadable path cause => "Cannot read password store " ++ path ++ ": " ++ cause.message
  | .malformedLine path line =>
    "Invalid entry in password store " ++ path ++ ", line " ++ Text.ofNat line
  | .unknownId path id => "Password '" ++ id ++ "' does not exist in " ++ path

end StoreFailure

inductive Fault where
  | outOfRange (cause : OutOfRange)
  | noSuchState (code : Int)
  | noSuchDirection (name : Text)
  | notALevel (text : Text)
  | rejected (model : Text) (rejections : List Rejection)
  | exchange (cause : ExchangeFailure)
  /-- A network error that no step of an exchange accounts for. -/
  | network (cause : Network.Trouble)
  | tlsMissing (reason : Text)
  | store (cause : StoreFailure)
  | malformedReference (reference : Text)
  /-- The run is given up over a password reference. -/
  | unusableReference (reference : Text)
  | undecodable (failure : Utf8.Failure)
  | unencodable (failure : Utf8.Unencodable)
  | nulInPath
  | template (cause : Template.Failure)
  /-- A format for the log that names nothing. -/
  | uselessFormat (format : Text)
  /-- A failure of a family that is reported as it is. -/
  | reported (family : Family) (message : Text)
  /-- A failure of a kind that does not belong to monitoring. -/
  | foreign (kind message : Text)
  deriving DecidableEq, Repr

namespace Fault

def referenceMessage (reference : Text) : Text :=
  "Invalid password reference " ++ Text.quoted reference ++ ", expected ID:FILE"

def message : Fault → Text
  | .outOfRange cause => cause.message
  | .noSuchState code => Text.ofInt code ++ " is not a valid State"
  | .noSuchDirection name => Text.quoted name ++ " is not a valid Direction"
  | .notALevel text => "invalid level: " ++ Text.quoted text
  | .rejected model rejections => Rejection.report model rejections
  | .exchange cause => cause.message
  | .network cause => cause.message
  | .tlsMissing reason => reason
  | .store cause => cause.message
  | .malformedReference reference => referenceMessage reference
  | .unusableReference reference => referenceMessage reference
  | .undecodable failure => failure.message
  | .unencodable failure => failure.message
  | .nulInPath => "embedded null byte"
  | .template cause => cause.message
  | .uselessFormat format => "Invalid format '" ++ format ++ "' for '%' style"
  | .reported _ message => message
  | .foreign _ message => message

def family? : Fault → Option Family
  | .exchange cause => some cause.family
  | .store _ => some .general
  | .unusableReference _ => some .bailOut
  | .reported family _ => some family
  | _ => none

/-- Whether an exchange failed, as opposed to the program or its surroundings. -/
def isTransport (fault : Fault) : Bool := (fault.family?.map Family.isTransport).getD false

/-- Whether the message alone is the result of the run. -/
def isBailOut (fault : Fault) : Bool :=
  fault.family? == some .bailOut || fault.family? == some .general

end Fault

/-- The message of an error of the system that is told by values: a number, a text and possibly a
file. -/
def Fault.systemMessage? : List Value → Option Text
  | [number, text] => some ("[Errno " ++ number.shown ++ "] " ++ text.shown)
  | [number, text, file] =>
    some ("[Errno " ++ number.shown ++ "] " ++ text.shown ++ ": " ++ file.quoted)
  | _ => none

/-- Names the fault for what a number cannot do. -/
def Fault.ofNumber {α : Type} : Except OutOfRange α → Except Fault α
  | .ok a => .ok a
  | .error cause => .error (.outOfRange cause)

end ServiceProbe
