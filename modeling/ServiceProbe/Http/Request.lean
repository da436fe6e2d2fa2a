import ServiceProbe.Bytes.Base64
import ServiceProbe.Fault
/-!
A request for one resource. It is built only from fields that hold no line break, so that a written
request has the lines it should have and no others. Path, name and password may hold lone surrogates, and
then there is nothing to write.
-/
namespace ServiceProbe.Http

variable {α : Type} [Letter α]

structure Request (α : Type := Char) [Letter α] where
  host : Text
  port : Int
  path : List α := [Letter.ofChar '/']
  tls : Bool := false
  timeout : Double
  username : Option (List α) := none
  password : Option (List α) := none
  deriving DecidableEq, Repr

/-- A field before it is looked at: left out, given as nothing, or with a value. -/
inductive Given (α : Type) where
  | absent
  | void
  | value (content : α)

namespace Given

variable {α β : Type}

/-- What a field says, or why it is refused. -/
def read (given : Given α) (whenVoid : Reason) (accept : α → Except Reason β) :
    Except Reason β :=
  match given with
  | .absent => .error .missing
  | .void => .error whenVoid
  | .value content => accept content

end Given

/-- The fields of a request before they are looked at. -/
structure Draft (α : Type := Char) [Letter α] where
  host : Given (List α) := .absent
  port : Given Number := .absent
  path : Given (List α) := .value [Letter.ofChar '/']
  tls : Given Bool := .value false
  timeout : Given Number := .value (.int 10)
  username : Option (List α) := none
  password : Option (List α) := none

namespace Draft

variable [DecidableEq α]

def holdsLineBreak (text : List α) : Bool :=
  text.contains (Letter.ofChar '\r') || text.contains (Letter.ofChar '\n')

def isAbsolute (path : List α) : Bool :=
  path.head? == some (Letter.ofChar '/') && !path.contains (Letter.ofChar ' ')

/-- A host has a least length, and what has a length is text without surrogates. -/
def acceptHost (host : List α) : Except Reason Text :=
  match Letter.characters 0 host with
  | .error _ => .error .noUnicode
  | .ok host =>
    if host.isEmpty then .error .empty
    else if holdsLineBreak host then .error (.lineBreak (Letter.points host))
    else .ok host

/-- Whole numbers that are not integers are taken as such within 64 bits. -/
def acceptInteger : Number → Except Reason Int
  | .int n => .ok n
  | .real (.infinite _) => .error .notFinite
  | .real .nan => .error .notFinite
  | .real double =>
    match Number.wholeDouble? double with
    | none => .error .fractional
    | some n => if n.natAbs < Power.two 63 then .ok n else .error .tooManyDigits

def portReason? (port : Int) : Option Reason :=
  if port < 1 then some .belowLeast else if 65535 < port then some .aboveGreatest else none

def acceptPort (port : Number) : Except Reason Int := do
  let port ← acceptInteger port
  match portReason? port with
  | none => return port
  | some reason => throw reason

/-- A line break is named before anything else that is wrong with a path. -/
def acceptPath (path : List α) : Except Reason (List α) :=
  if holdsLineBreak path then .error (.lineBreak (Letter.points path))
  else if isAbsolute path then .ok path
  else .error (.notAbsolute (Letter.points path))

/-- What is not a number is not positive either. -/
def timeoutReason? (timeout : Double) : Option Reason :=
  if timeout.isPositive then none else some .notPositive

/-- An integer that is too large for a double is no number here. -/
def acceptTimeout (timeout : Number) : Except Reason Double :=
  match timeout.toDouble with
  | .error _ => .error .noNumber
  | .ok timeout =>
    match timeoutReason? timeout with
    | none => .ok timeout
    | some reason => .error reason

def acceptCredential : Option (List α) → Except Reason (Option (List α))
  | none => .ok none
  | some text =>
    if holdsLineBreak text then .error (.lineBreak (Letter.points text)) else .ok (some text)

def host? (draft : Draft α) : Except Reason Text := draft.host.read .noText acceptHost

def port? (draft : Draft α) : Except Reason Int := draft.port.read .noInteger acceptPort

def path? (draft : Draft α) : Except Reason (List α) := draft.path.read .noText acceptPath

def tls? (draft : Draft α) : Except Reason Bool := draft.tls.read .noTruth .ok

def timeout? (draft : Draft α) : Except Reason Double := draft.timeout.read .noNumber acceptTimeout

def username? (draft : Draft α) : Except Reason (Option (List α)) := acceptCredential draft.username

def password? (draft : Draft α) : Except Reason (Option (List α)) := acceptCredential draft.password

def rejection? {α : Type} (field : Text) : Except Reason α → Option Rejection
  | .ok _ => none
  | .error reason => some ⟨field, reason⟩

/-- What is wrong with the fields, in their order. -/
def rejections (draft : Draft α) : List Rejection :=
  [rejection? "host" draft.host?, rejection? "port" draft.port?, rejection? "path" draft.path?,
    rejection? "use_tls" draft.tls?, rejection? "timeout" draft.timeout?,
    rejection? "username" draft.username?, rejection? "password" draft.password?].filterMap id

def modelName : Text := "HTTPRequest"

/-- A request is built if no field is refused. -/
def build (draft : Draft α) : Except Fault (Request α) :=
  let fields : Except Reason (Request α) := do
    return {
      host := ← draft.host?
      port := ← draft.port?
      path := ← draft.path?
      tls := ← draft.tls?
      timeout := ← draft.timeout?
      username := ← draft.username?
      password := ← draft.password? }
  fields.mapError fun _ => .rejected modelName draft.rejections

end Draft

namespace Request

def scheme (request : Request α) : Text := if request.tls then "https" else "http"

def defaultPort (tls : Bool) : Int := if tls then 443 else 80

/-- An address with colons stands in brackets, and the usual port is left out. -/
def hostHeader (request : Request α) : Text :=
  let host := if request.host.contains ':' then '[' :: request.host ++ [']'] else request.host
  if request.port = defaultPort request.tls then host
  else host ++ ':' :: Text.ofInt request.port

def lineEnd : Text := ['\r', '\n']

def userAgent : Text := "netmon-plugins/1.0.0"

def basicAuth (username password : Text) : Text :=
  "Basic " ++ Base64.encode (Utf8.encode (username ++ ':' :: password))

/-- Credentials are sent for a user with a name; a missing password is an empty one. -/
def authorization? (request : Request) : Option Text :=
  match request.username with
  | none => none
  | some [] => none
  | some username => some ("Authorization: " ++ basicAuth username (request.password.getD []))

def lines (request : Request) : List Text :=
  ["GET " ++ request.path ++ " HTTP/1.1", "Host: " ++ request.hostHeader, "Connection: close",
    "User-Agent: " ++ userAgent, "Accept: application/json, text/plain, */*"]
    ++ request.authorization?.toList

def render (request : Request) : Bytes :=
  Utf8.encode (List.intercalate lineEnd request.lines ++ lineEnd ++ lineEnd)

/-- The name and the password that are written, in characters. Behind the name is a colon. -/
def spokenCredentials (request : Request α) : Except Utf8.Unencodable (Option (Text × Text)) :=
  match request.username with
  | none => .ok none
  | some [] => .ok none
  | some username => do
    let name ← Letter.characters 0 username
    let secret ← Letter.characters (username.length + 1) (request.password.getD [])
    return some (name, secret)

/-- All that is written of a request, in characters. Name and password are put into bytes by themselves,
before the head is, and the path stands behind the method. -/
def spoken (request : Request α) : Except Utf8.Unencodable Request := do
  let credentials ← request.spokenCredentials
  let path ← Letter.characters "GET ".length request.path
  return {
    host := request.host
    port := request.port
    path
    tls := request.tls
    timeout := request.timeout
    username := credentials.map Prod.fst
    password := credentials.map Prod.snd }

/-- What is sent for a request, if it can be put into bytes. -/
def payload (request : Request α) : Except Fault Bytes :=
  (request.spoken.map render).mapError .unencodable

end Request
end ServiceProbe.Http
