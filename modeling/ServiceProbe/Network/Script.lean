import ServiceProbe.Network.Event
import ServiceProbe.Network.Trouble
import ServiceProbe.Number.Basic
/-!
What a network will do, call by call. Time passes only in calls, by the delay each is given, and a
call that fails does so after its delay.
-/
namespace ServiceProbe.Network

structure Course where
  delay : Number := .int 0
  trouble : Option Trouble := none

/-- An address that a name stands for, and how a socket to it fares. -/
structure Address where
  family : AddressFamily
  host : Text
  port : Int
  creation : Option Trouble := none
  connection : Course := {}

/-- What one call for data brings. No bytes mean that the peer has closed. -/
structure Delivery where
  delay : Number := .int 0
  content : Except Trouble Bytes

/-- A socket hands out at most this many bytes in one call. -/
def receiveSize : Nat := 8192

/-- Cuts data into portions of at most one call each. -/
def portionsOf (bytes : Bytes) : List Bytes :=
  if bytes.length ≤ receiveSize then [bytes]
  else bytes.take receiveSize :: portionsOf (bytes.drop receiveSize)
termination_by bytes.length
decreasing_by
  rename_i long
  simp only [receiveSize, List.length_drop] at *
  omega

/-- The rest of a long delivery comes with the next calls, without further delay. -/
def Delivery.portions (delivery : Delivery) : List Delivery :=
  match delivery.content with
  | .error _ => [delivery]
  | .ok bytes =>
    match portionsOf bytes with
    | [] => [delivery]
    | first :: rest => ⟨delivery.delay, .ok first⟩ :: rest.map fun bytes => { content := .ok bytes }

/-- How sockets take a timeout: any double as it is, or only what they can count in nanoseconds. -/
inductive Sockets where
  | noting
  | counting
  deriving DecidableEq, Repr

namespace Sockets

def perSecond : Nat := 1000000000

/-- Nanoseconds are counted in 64 bits with a sign. -/
def isCountable (nanoseconds : Number) : Bool :=
  nanoseconds.ge (.int (-Power.two 63)) && nanoseconds.lt (.int (Power.two 63))

/-- The timeout that is set, in seconds. -/
def timeout? : Sockets → Number → Except OutOfRange Double
  | .noting, seconds => seconds.toDouble
  | .counting, .int n =>
    if !isCountable (.int (n * perSecond)) then .error .integerAsTime
    else if n < 0 then .error .negativeTimeout
    else (Number.int n).toDouble
  | .counting, .real .nan => .error .nanAsTime
  | .counting, .real double =>
    if !isCountable (.real (double.mul (.ofRatio false perSecond 1))) then .error .doubleAsTime
    else if (Number.real double).lt (.int 0) then .error .negativeTimeout
    else .ok double

end Sockets

structure Script where
  sockets : Sockets := .noting
  clock : Number := .int 0
  lookup : Course := {}
  addresses : List Address := []
  sending : Course := {}
  deliveries : List Delivery := []
  handshake : Course := {}
  /-- Why there is no TLS library, if there is none. -/
  tlsMissing : Option Text := none

def tlsLibrary : Text := "OpenSSL test"

end ServiceProbe.Network
