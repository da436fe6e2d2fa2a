import ServiceProbe.Fallback
import ServiceProbe.Http.Request
import ServiceProbe.Http.Response
import ServiceProbe.Transport
/-!
One request over one connection. A failed exchange is a reply with status 0, never a fault.
-/
namespace ServiceProbe.Http

def logSource : Text := "netmon.http_client"

variable {α : Type} [Letter α]

def Request.carrying (request : Request α) (payload : Bytes) : Wire where
  host := request.host
  port := request.port
  payload := payload
  timeout := .real request.timeout
  tls := request.tls

def Request.wire (request : Request) : Wire := request.carrying request.render

def sendingText (request : Request α) : Text :=
  "GET " ++ request.scheme ++ "://" ++ request.hostHeader ++ Letter.shown request.path ++ " ("
    ++ Decimal.shortest request.timeout ++ "s timeout)"

def failureText (request : Request α) (message : Text) : Text :=
  "Request to " ++ request.host ++ ":" ++ Text.ofInt request.port ++ " failed: " ++ message

def receivedText (response : Response) : Text :=
  "Got status " ++ Text.ofInt response.status ++ " with " ++ Text.ofNat response.body.length
    ++ " characters of body"

/-- A request that asks for TLS where there is none is sent without. -/
def withoutMissingTls (transport : Transport) (request : Request α) : Run (Request α) :=
  if request.tls && !transport.tls.available then do
    let reason := transport.tls.reason ++ ". Sending request unencrypted."
    Run.note (.remark (Fallback.featureWarning "HTTPS" reason))
    return { request with tls := false }
  else return request

def receive (request : Request α) (exchange : Run Bytes) : Run Response :=
  let answered : Run Response := do
    let response := Response.parse (← exchange)
    Run.record logSource Log.debug (receivedText response)
    return response
  answered.orElse fun fault =>
    if fault.isTransport then do
      Run.record logSource Log.verbose (failureText request fault.message)
      return Response.ofError fault.message
    else Run.throw fault

/-- Writes a request and sends it. -/
def send (transport : Transport) (request : Request α) : Run Bytes := do
  let payload ← Run.ofExcept request.payload
  transport.exchange (request.carrying payload)

def get (transport : Transport) (request : Request α) : Run Response := do
  let request ← withoutMissingTls transport request
  Run.record logSource Log.debug (sendingText request)
  receive request (send transport request)

/-- An empty name is no user. -/
def nonEmpty (text : Option (List α)) : Option (List α) := text.filter (!·.isEmpty)

def getAuth [DecidableEq α] (transport : Transport) (draft : Draft α) : Run Response := do
  let request ← Run.ofExcept { draft with username := nonEmpty draft.username }.build
  get transport request

end ServiceProbe.Http
