import ServiceProbe.Journal
/-!
Anything that takes bytes to a peer and brings bytes back.
-/
namespace ServiceProbe

structure Transport where
  tls : Capability
  exchange : Wire → Run Bytes

namespace Transport

/-- What a scripted peer does when it is asked for a path. -/
inductive Reply where
  | bytes (bytes : Bytes)
  | failure (family : Family) (message : Text)
  deriving DecidableEq, Repr

/-- Replies by path, with one for all other paths. -/
structure Replies where
  byPath : List (Text × Reply) := []
  otherwise : Option Reply := none

/-- The path that a payload asks for: the word behind the first space. -/
def requestedPath (payload : Bytes) : Text :=
  match (Text.cut ' ' (Utf8.decodeLossy payload)).2 with
  | some behind => (Text.cut ' ' behind).1
  | none => []

/-- Nobody listens where no reply is scripted. -/
def Replies.find (replies : Replies) (path : Text) : Reply :=
  ((replies.byPath.find? (·.1 == path)).map (·.2)).getD
    (replies.otherwise.getD (.failure .transport "Connection refused"))

/-- A transport that answers from a script. -/
def scripted (tls : Capability) (replies : Replies) : Transport where
  tls := tls
  exchange wire := do
    Run.note (.exchange wire)
    match replies.find (requestedPath wire.payload) with
    | .bytes bytes => return bytes
    | .failure family message => Run.throw (.reported family message)

end Transport
end ServiceProbe
