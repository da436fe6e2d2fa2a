import ServiceProbe.CommandLine.Basic
import ServiceProbe.Http.Request
import ServiceProbe.Level
import ServiceProbe.PasswordStore
/-!
What can be asked of a probe. Each probe offers some of the options on its command line and keeps
the defaults of the others.
-/
namespace ServiceProbe.Probe

/-- Which part of a service to look at. -/
inductive Subject where
  | health
  | api
  | version
  | leader
  | members
  | services
  | seal
  | status
  deriving DecidableEq, Repr

def Subject.name : Subject → Text
  | .health => "health"
  | .api => "api"
  | .version => "version"
  | .leader => "leader"
  | .members => "members"
  | .services => "services"
  | .seal => "seal"
  | .status => "status"

/-- The fields that take a value, in the order in which they are looked at. -/
inductive Field where
  | hostname
  | port
  | timeout
  | username
  | password
  | reference
  | url
  | subject
  | statusPath
  | pingPath
  | queue
  | vhost
  | warning
  | critical
  deriving DecidableEq, Repr

def Field.name : Field → Text
  | .hostname => "hostname"
  | .port => "port"
  | .timeout => "timeout"
  | .username => "username"
  | .password => "password"
  | .reference => "password_reference"
  | .url => "url"
  | .subject => "check"
  | .statusPath => "status_path"
  | .pingPath => "ping_path"
  | .queue => "queue"
  | .vhost => "vhost"
  | .warning => "warning"
  | .critical => "critical"

structure Options where
  hostname : Text := []
  port : Int
  timeout : Double := Double.ofRatio false 10 1
  tls : Bool := false
  username : Option Text := none
  password : Option Text := none
  reference : Option Text := none
  verbosity : Nat := 0
  debug : Bool := false
  url : Text := "/server-status?auto"
  subject : Subject := .health
  ping : Bool := false
  statusPath : Text := "/status"
  pingPath : Text := "/ping"
  queue : Option Text := none
  vhost : Text := ['/']
  levels : Levels := {}
  /-- Fields that were given no value at all. -/
  void : List Field := []

/-- One thing that a command line says. -/
inductive Setting where
  | hostname (text : Text)
  | port (number : Int)
  | timeout (seconds : Double)
  | tls
  | username (text : Text)
  | password (text : Text)
  | reference (text : Text)
  | louder
  | debug
  | url (text : Text)
  | subject (subject : Subject)
  | ping
  | statusPath (text : Text)
  | pingPath (text : Text)
  | queue (text : Text)
  | vhost (text : Text)
  | warning (bound : Bound)
  | critical (bound : Bound)
  | void (field : Field)

namespace Options

/-- A field has a value again. -/
def fill (options : Options) (field : Field) : Options :=
  { options with void := options.void.filter (· != field) }

/-- The last setting of a field counts; verbosity adds up. -/
def apply (options : Options) : Setting → Options
  | .hostname text => { options.fill .hostname with hostname := text }
  | .port number => { options.fill .port with port := number }
  | .timeout seconds => { options.fill .timeout with timeout := seconds }
  | .tls => { options with tls := true }
  | .username text => { options.fill .username with username := some text }
  | .password text => { options.fill .password with password := some text }
  | .reference text => { options.fill .reference with reference := some text }
  | .louder => { options with verbosity := options.verbosity + 1 }
  | .debug => { options with debug := true }
  | .url text => { options.fill .url with url := text }
  | .subject subject => { options.fill .subject with subject }
  | .ping => { options with ping := true }
  | .statusPath text => { options.fill .statusPath with statusPath := text }
  | .pingPath text => { options.fill .pingPath with pingPath := text }
  | .queue text => { options.fill .queue with queue := some text }
  | .vhost text => { options.fill .vhost with vhost := text }
  | .warning bound =>
    { options.fill .warning with levels := { options.levels with warn := some bound } }
  | .critical bound =>
    { options.fill .critical with levels := { options.levels with crit := some bound } }
  | .void field => { options.fill field with void := field :: (options.fill field).void }

def ofSettings (defaults : Options) (settings : List Setting) : Options :=
  settings.foldl apply defaults

def hostnameReason? (hostname : Text) : Option Reason :=
  if hostname.isEmpty then some .empty else none

/-- Why a field without a value is refused. -/
def voidReason (subjects : List Text) : Field → Reason
  | .port => .noInteger
  | .timeout => .noNumber
  | .subject => .noneOf subjects
  | .warning => .noLevel
  | .critical => .noLevel
  | _ => .noText

/-- What is wrong with a field that has a value. -/
def valueReason? (options : Options) : Field → Option Reason
  | .hostname => hostnameReason? options.hostname
  | .port => Http.Draft.portReason? options.port
  | .timeout => Http.Draft.timeoutReason? options.timeout
  | _ => none

def fields : List Field :=
  [.hostname, .port, .timeout, .username, .password, .reference, .url, .subject, .statusPath,
    .pingPath, .queue, .vhost, .warning, .critical]

/-- What is wrong with the options, in the order of the fields. -/
def rejections (options : Options) (subjects : List Text) : List Rejection :=
  fields.filterMap fun field =>
    (if options.void.contains field then some (voidReason subjects field)
    else options.valueReason? field).map (⟨field.name, ·⟩)

/-- A reference to a password goes before a password. -/
def resolvePassword (options : Options) (files : Files) : Except Fault (Option Text) :=
  match options.reference with
  | none => .ok options.password
  | some reference =>
    match PasswordStore.splitReference? reference with
    | none => .error (.unusableReference reference)
    | some (id, path) => some <$> PasswordStore.lookup files path id

/-- A user without a name is none, and needs no password. -/
def user? (options : Options) : Option Text := options.username.filter (!·.isEmpty)

def request (options : Options) (files : Files) (path : Text) : Except Fault Http.Request := do
  let password ← if options.user?.isSome then options.resolvePassword files else pure none
  Http.Draft.build
    { host := .value options.hostname
      port := .value (.int options.port)
      path := .value path
      tls := .value options.tls
      timeout := .value (.real options.timeout)
      username := options.user?
      password }

end Options
end ServiceProbe.Probe
