import ServiceProbe.Bytes.Utf8
import ServiceProbe.Number.Numeral
/-!
A reply, cut at its first empty line. Status 0 says that there was no usable one.
-/
namespace ServiceProbe.Http

structure Response where
  status : Int := 0
  body : Text := []
  error : Option Text := none
  deriving DecidableEq, Repr

namespace Response

def failed (response : Response) : Bool := response.status == 0 || response.body.isEmpty

def ofError (error : Text) : Response := { error := some error }

/-- The second word of a status line, if it is a whole number. -/
def statusOf (line : Text) : Int :=
  match Text.after? "HTTP/" line, Text.words line with
  | some _, _ :: word :: _ => (Numeral.readInt? word).getD 0
  | _, _ => 0

/-- The bytes before and behind the first place where `mark` stands. -/
def cutBytes? (mark : Bytes) : Bytes → Option (Bytes × Bytes)
  | [] => if mark.isEmpty then some ([], []) else none
  | byte :: rest =>
    if mark.isPrefixOf (byte :: rest) then some ([], (byte :: rest).drop mark.length)
    else (cutBytes? mark rest).map fun (before, behind) => (byte :: before, behind)

def lineEnd : Bytes := [13, 10]

def headEnd : Bytes := [13, 10, 13, 10]

/-- The first line of a head, one character for each byte. -/
def statusLine (head : Bytes) : Text :=
  let line := match cutBytes? lineEnd head with
    | some (line, _) => line
    | none => head
  Text.strip (line.map fun byte => Char.ofNat byte.toNat)

def parse (raw : Bytes) : Response :=
  if raw.isEmpty then ofError "Empty response"
  else
    match cutBytes? headEnd raw with
    | none => ofError ("Incomplete response (" ++ Text.ofNat raw.length ++ " bytes)")
    | some (head, body) =>
      { status := statusOf (statusLine head), body := Utf8.decodeLossy body }

end Response
end ServiceProbe.Http
