import ServiceProbe.Bytes.Utf8
import ServiceProbe.Number.Double
/-!
The calls that an exchange makes to the network, in order. Sockets are numbered as they are
created.
-/
namespace ServiceProbe.Network

inductive AddressFamily where
  | inet
  | inet6
  deriving DecidableEq, Repr

/-- What a TLS handshake checks of the peer. -/
structure PeerChecks where
  name : Bool
  certificate : Bool
  deriving DecidableEq, Repr

inductive Event where
  /-- Looks addresses of any family up, for streams. -/
  | lookup (host : Text) (port : Int) (anyFamily stream : Bool)
  | create (socket : Nat) (family : AddressFamily) (succeeded : Bool)
  | setTimeout (socket : Nat) (seconds : Double)
  | connect (socket : Nat) (host : Text) (port : Int) (succeeded : Bool)
  | wrap (socket : Nat) (serverName : Option Text) (checks : PeerChecks) (succeeded : Bool)
  | send (socket : Nat) (payload : Bytes) (succeeded : Bool)
  /-- `delivered` is missing when the call failed. -/
  | receive (socket : Nat) (size : Nat) (delivered : Option Nat)
  | close (socket : Nat)
  deriving DecidableEq, Repr

end ServiceProbe.Network
