import ServiceProbe.Journal
import ServiceProbe.Network.AddressLiteral
import ServiceProbe.Network.Script
/-!
One exchange over TCP: look the peer up, open a socket to the first address that takes it, perform
the TLS handshake if asked for, send, read until the peer closes or the deadline passes, close.
Whatever happens after a socket is opened, it is closed.
-/
namespace ServiceProbe.Network

def logSource : Text := "netmon.transport"

/-- A step of an exchange: what it did, when it ended and how. -/
structure Timed (α : Type) where
  journal : Journal
  clock : Number
  outcome : Except Fault α

namespace Timed

variable {α β : Type}

def done (clock : Number) (value : α) : Timed α := ⟨[], clock, .ok value⟩

def note (entry : Entry) (clock : Number) : Timed Unit := ⟨[entry], clock, .ok ()⟩

/-- A computation, which takes no time. -/
def compute (outcome : Except OutOfRange α) (clock : Number) : Timed α :=
  ⟨[], clock, Fault.ofNumber outcome⟩

def andThen (step : Timed α) (next : α → Number → Timed β) : Timed β :=
  match step.outcome with
  | .error fault => ⟨step.journal, step.clock, .error fault⟩
  | .ok value =>
    let later := next value step.clock
    ⟨step.journal ++ later.journal, later.clock, later.outcome⟩

/-- Something that is done after a step however it ends. -/
def thenAlways (step : Timed α) (journal : Journal) : Timed α :=
  { step with journal := step.journal ++ journal }

def run (step : Timed α) : Run α := ⟨step.journal, step.outcome⟩

end Timed

def debugEntry (text : Text) : Entry := .record { source := logSource, level := Log.debug, text }

/-- Host and port of a peer, as they are logged. -/
def peerText (host : Text) (port : Int) : Text := host ++ ':' :: Text.ofInt port

def Course.succeeds (course : Course) : Bool := course.trouble.isNone

/-- An error of the system has a meaning in its place, any other goes on as it is. -/
def faultOf (trouble : Trouble) (meaning : ExchangeFailure) : Fault :=
  if trouble.isSystem then .exchange meaning else .network trouble

/-- A call takes its time before it fails. -/
def call (event : Event) (course : Course) (meaning : Trouble → Fault) (clock : Number) :
    Timed Unit :=
  match clock.add course.delay with
  | .error cause => ⟨[.event event], clock, .error (.outOfRange cause)⟩
  | .ok clock =>
    { journal := [.event event]
      clock
      outcome :=
        match course.trouble with
        | some trouble => .error (meaning trouble)
        | none => .ok () }

/-- A timeout that the sockets do not take is not even set. -/
def setTimeout (sockets : Sockets) (socket : Nat) (seconds clock : Number) : Timed Unit :=
  (Timed.compute (sockets.timeout? seconds) clock).andThen fun seconds clock =>
    .note (.event (.setTimeout socket seconds)) clock

/-! Looking up. A name that cannot be encoded has no address either. -/

def lookUp (script : Script) (host : Text) (port : Int) (clock : Number) :
    Timed (List Address) :=
  (call (.lookup host port true true) script.lookup
    (fun trouble => .exchange (.unresolved host trouble)) clock).andThen fun () clock =>
      .done clock script.addresses

/-! Opening. Addresses are tried in order as long as there is time. -/

/-- A socket with the address it is connected to. -/
structure Opening where
  socket : Nat
  host : Text
  port : Int
  deriving DecidableEq, Repr

def attemptFailed (address : Address) (trouble : Trouble) : Entry :=
  debugEntry ("Connecting to " ++ address.host ++ " failed: " ++ trouble.message)

def attemptReason (address : Address) (trouble : Trouble) : Text :=
  address.host ++ ": " ++ trouble.message

/-- One attempt: the socket, or the error of the network as it is. -/
def attempt (sockets : Sockets) (socket : Nat) (address : Address) (remaining clock : Number) :
    Timed Opening :=
  match address.creation with
  | some trouble =>
    ⟨[.event (.create socket address.family false)], clock, .error (.network trouble)⟩
  | none =>
    (Timed.note (.event (.create socket address.family true)) clock).andThen fun () clock =>
      (setTimeout sockets socket remaining clock).andThen fun () clock =>
        (call (.connect socket address.host address.port address.connection.succeeds)
          address.connection .network clock).andThen fun () clock =>
            .done clock ⟨socket, address.host, address.port⟩

/-- What is done about an attempt that failed with an error of the system: a socket that was
created is closed. -/
def giveUp (socket : Nat) (address : Address) (trouble : Trouble) : Journal :=
  (if address.creation.isNone then [.event (.close socket)] else [])
    ++ [attemptFailed address trouble]

/-- `reasons` tells why the addresses before were of no use. An error that is none of the system
ends the search, and the socket stays as it is. -/
def openFrom (sockets : Sockets) (deadline : Number) (socket : Nat) (reasons : List Text) :
    (addresses : List Address) → (clock : Number) → Timed Opening
  | [], clock => ⟨[], clock, .error (.exchange (.unconnected reasons))⟩
  | address :: rest, clock =>
    match deadline.sub clock with
    | .error cause => ⟨[], clock, .error (.outOfRange cause)⟩
    | .ok remaining =>
      if remaining.isAtMostZero then
        ⟨[], clock, .error (.exchange (.unconnected (reasons ++ ["timed out".toList])))⟩
      else
        let attempt := attempt sockets socket address remaining clock
        match attempt.outcome with
        | .error (.network trouble) =>
          if trouble.isSystem then
            let reasons := reasons ++ [attemptReason address trouble]
            let later := openFrom sockets deadline (socket + 1) reasons rest attempt.clock
            ⟨attempt.journal ++ giveUp socket address trouble ++ later.journal, later.clock,
              later.outcome⟩
          else attempt
        | _ => attempt

def openFirst (deadline : Number) (addresses : List Address) (clock : Number)
    (sockets : Sockets := .noting) : Timed Opening :=
  openFrom sockets deadline 0 [] addresses clock

/-! TLS. Certificates are not checked: that is for a check of certificates to do. -/

def noChecks : PeerChecks := ⟨false, false⟩

/-- Only names are told to the peer, not addresses. -/
def serverName? (host : Text) : Option Text :=
  if AddressLiteral.isAddress host then none else some host

def wrapTls (script : Script) (socket : Nat) (host : Text) (clock : Number) : Timed Unit :=
  match script.tlsMissing with
  | some reason => ⟨[], clock, .error (.tlsMissing reason)⟩
  | none =>
    call (.wrap socket (serverName? host) noChecks script.handshake.succeeds) script.handshake
      (fun trouble => faultOf trouble (.handshake trouble)) clock

/-! An open connection. -/

structure Connection where
  socket : Nat
  host : Text
  port : Int
  timeout : Number

namespace Connection

def send (script : Script) (connection : Connection) (payload : Bytes) (clock : Number) :
    Timed Unit :=
  (setTimeout script.sockets connection.socket connection.timeout clock).andThen fun () clock =>
    call (.send connection.socket payload script.sending.succeeds) script.sending
      (fun trouble => faultOf trouble (.sending connection.host connection.port trouble)) clock

/-- What a reading leaves behind: the deliveries that nobody asked for yet. -/
structure Reading where
  journal : Journal
  clock : Number
  left : List Delivery
  outcome : Except Fault Bytes

/-- The deadline passed, or a call waited for too long: what arrived so far is the answer. -/
def timedOut (connection : Connection) (buffer : Bytes) : Entry :=
  debugEntry ("Read timeout from " ++ peerText connection.host connection.port ++ " after "
    ++ Text.ofNat buffer.length ++ " bytes")

def Reading.after (reading : Reading) (journal : Journal) : Reading :=
  { reading with journal := journal ++ reading.journal }

/-- What one call for data brings, with the call in the journal. -/
def receive (connection : Connection) (portion : Delivery) (clock : Number) : Timed Bytes :=
  let delivered : Option Nat := portion.content.toOption.map List.length
  let received : Entry := .event (.receive connection.socket receiveSize delivered)
  match clock.add portion.delay with
  | .error cause => ⟨[received], clock, .error (.outOfRange cause)⟩
  | .ok clock => ⟨[received], clock, portion.content.mapError .network⟩

/-- Sets the time that is left as the timeout. The answer is whether any is left. -/
def await (sockets : Sockets) (connection : Connection) (deadline clock : Number) : Timed Bool :=
  (Timed.compute (deadline.sub clock) clock).andThen fun remaining clock =>
    if remaining.isPositive then
      (setTimeout sockets connection.socket remaining clock).andThen fun () clock => .done clock true
    else .done clock false

def atEnd (connection : Connection) : Entry :=
  .event (.receive connection.socket receiveSize (some 0))

/-- Reads portion by portion. Behind the last one the peer has closed. -/
def readFrom (sockets : Sockets) (connection : Connection) (deadline : Number) (buffer : Bytes) :
    (portions : List Delivery) → (clock : Number) → Reading
  | [], clock =>
    let waiting := connection.await sockets deadline clock
    match waiting.outcome with
    | .error fault => ⟨waiting.journal, clock, [], .error fault⟩
    | .ok false => ⟨[timedOut connection buffer], clock, [], .ok buffer⟩
    | .ok true => ⟨waiting.journal ++ [atEnd connection], clock, [], .ok buffer⟩
  | portion :: rest, clock =>
    let waiting := connection.await sockets deadline clock
    match waiting.outcome with
    | .error fault => ⟨waiting.journal, clock, portion :: rest, .error fault⟩
    | .ok false => ⟨[timedOut connection buffer], clock, portion :: rest, .ok buffer⟩
    | .ok true =>
      let call := connection.receive portion clock
      let journal := waiting.journal ++ call.journal
      match call.outcome with
      | .error (.network trouble) =>
        if trouble.isTimeout then
          ⟨journal ++ [timedOut connection buffer], call.clock, rest, .ok buffer⟩
        else ⟨journal, call.clock, rest, .error (faultOf trouble (.receiving trouble))⟩
      | .error fault => ⟨journal, call.clock, rest, .error fault⟩
      | .ok bytes =>
        if bytes.isEmpty then ⟨journal, call.clock, rest, .ok buffer⟩
        else (connection.readFrom sockets deadline (buffer ++ bytes) rest call.clock).after journal

/-- Reads until the peer closes; the deadline is a timeout from now on. -/
def readAll (connection : Connection) (timeout : Option Number) (deliveries : List Delivery)
    (clock : Number) (sockets : Sockets := .noting) : Reading :=
  let portions := deliveries.flatMap Delivery.portions
  match clock.add (timeout.getD connection.timeout) with
  | .error cause => ⟨[], clock, portions, .error (.outOfRange cause)⟩
  | .ok deadline => connection.readFrom sockets deadline [] portions clock

def Reading.timed (reading : Reading) : Timed Bytes :=
  ⟨reading.journal, reading.clock, reading.outcome⟩

def describe (connection : Connection) : Text :=
  "Connection(peer=(" ++ Text.quoted connection.host ++ ", " ++ Text.ofInt connection.port
    ++ "), timeout=" ++ connection.timeout.display ++ ")"

end Connection

/-! The exchange as a whole. -/

def connectingText (wire : Wire) : Text :=
  "Connecting via TCP to " ++ peerText wire.host wire.port ++ " (" ++ wire.timeout.display
    ++ "s timeout)"

def closing (opening : Opening) : Journal :=
  [debugEntry ("Closing TCP connection to " ++ peerText opening.host opening.port),
    .event (.close opening.socket)]

def secure (script : Script) (wire : Wire) (opening : Opening) (clock : Number) : Timed Unit :=
  if wire.tls then
    (setTimeout script.sockets opening.socket wire.timeout clock).andThen fun () clock =>
      wrapTls script opening.socket wire.host clock
  else .done clock ()

def converse (script : Script) (wire : Wire) (opening : Opening) (clock : Number) : Timed Bytes :=
  let connection : Connection := ⟨opening.socket, opening.host, opening.port, wire.timeout⟩
  (secure script wire opening clock).andThen fun () clock =>
    (connection.send script wire.payload clock).andThen fun () clock =>
      (connection.readAll none script.deliveries clock script.sockets).timed

def exchange (script : Script) (wire : Wire) : Timed Bytes :=
  (lookUp script wire.host wire.port script.clock).andThen fun addresses clock =>
    (Timed.note (debugEntry (connectingText wire)) clock).andThen fun () clock =>
      (Timed.compute (clock.add wire.timeout) clock).andThen fun deadline clock =>
        (openFirst deadline addresses clock script.sockets).andThen fun opening clock =>
          (converse script wire opening clock).thenAlways (closing opening)

end ServiceProbe.Network
