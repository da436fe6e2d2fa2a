import ServiceProbe.CommandLine.Help
import ServiceProbe.CommandLine.Parse
import ServiceProbe.Number.Numeral
import ServiceProbe.Probe.Options
/-!
The command line of a probe: the options that all probes have, those of its own, and levels if it
measures something.
-/
namespace ServiceProbe.Probe

open ServiceProbe.CommandLine (Opt)

abbrev ProbeOption := Opt Setting

namespace Offer

def text (field : Field) (make : Text → Setting) (placeholder : Text) :
    CommandLine.Takes Setting :=
  .value placeholder "str" (fun text => some (make text)) (.void field)

def help : ProbeOption where
  names := ["-h", "--help"]
  takes := .help
  help := "show this help message and exit"

def hostname : ProbeOption where
  names := ["-H", "--hostname"]
  takes := text .hostname .hostname "HOST"
  help := "Host name or IP address of the service"
  required := true

def port (default : Int) : ProbeOption where
  names := ["-p", "--port"]
  takes := .value "PORT" "int" (fun text => (Numeral.readInt? text).map .port) (.void .port)
  help := "Port of the service (default: " ++ Text.ofInt default ++ ")"

def timeout : ProbeOption where
  names := ["-t", "--timeout"]
  takes :=
    .value "SECONDS" "float" (fun text => (Numeral.readDouble? text).map .timeout) (.void .timeout)
  help := "Seconds before the connection times out (default: 10)"

def tls : ProbeOption where
  names := ["-S", "--ssl"]
  takes := .nothing .tls
  help := "Use HTTPS"

def username : ProbeOption where
  names := ["-u", "--username"]
  takes := text .username .username "USERNAME"
  help := "Username for HTTP basic authentication"

/-- Texts of at most one character of the first 256 are not told apart from the default. -/
def isSameText (default : Option Text) (text : Text) : Bool :=
  default == some text && text.length ≤ 1 && text.all (·.toNat < 0x100)

def password (default : Option Text) : ProbeOption where
  names := ["-P", "--password"]
  takes := text .password .password "PASSWORD"
  help := "Password for HTTP basic authentication"
  exclusive := true
  isDefault := isSameText default

def reference : ProbeOption where
  names := ["--password-reference"]
  takes := text .reference .reference "ID:FILE"
  help := "Password store reference to the password for HTTP basic authentication"
  exclusive := true

def louder : ProbeOption where
  names := ["-v", "--verbose"]
  takes := .nothing .louder
  help := "Log to stderr, repeat for more details"

def debug : ProbeOption where
  names := ["--debug"]
  takes := .nothing .debug
  help := "Debug mode: let Python exceptions come through"

/-- The options of every probe. -/
def common (defaults : Options) : List ProbeOption :=
  [help, hostname, port defaults.port, timeout, tls, username, password defaults.password,
    reference, louder, debug]

/-- The options that a level belongs to. -/
def levelGroup : Value := .collection "_ArgumentGroup" "<argparse._ArgumentGroup object>"

/-- What the help of a level may name. -/
def levelFacts (field : Field) (names : List Text) (placeholder help : Text) :
    List (Text × Value) :=
  [("option_strings", .list (names.map .text)), ("dest", .text field.name), ("nargs", .nothing),
    ("const", .nothing), ("default", .nothing), ("type", .text "parse_bound"),
    ("choices", .nothing), ("required", .truth false), ("help", .text help),
    ("metavar", .text placeholder), ("container", levelGroup)]

def level (field : Field) (make : Bound → Setting) (names : List Text) (help : Text) :
    ProbeOption where
  names := names
  takes := .value "LEVEL" "parse_bound" (fun text => (Bound.parse? text).map make) (.void field)
  help := help
  facts := levelFacts field names "LEVEL" help

/-- The levels for a measured value. -/
def levels (what : Text) : List ProbeOption :=
  [level .warning .warning ["-w", "--warning"]
      ("Warning level for " ++ what ++ " (number or percentage, e.g. 80 or 10%%)"),
    level .critical .critical ["-c", "--critical"]
      ("Critical level for " ++ what ++ " (number or percentage, e.g. 90 or 5%%)")]

/-- One of some subjects. -/
def subject (subjects : List Subject) (help : Text) : ProbeOption where
  names := ["--check"]
  takes := .choice (subjects.map fun subject => (subject.name, .subject subject)) (.void .subject)
  help := help

end Offer

/-- What a command line needs to know of its probe. -/
structure Offer where
  program : Text
  description : Text
  defaults : Options
  subjects : List Subject := []
  /-- Options of its own. -/
  own : List ProbeOption := []
  /-- What levels are for, if they are offered. -/
  measured : Option Text := none

namespace Offer

def options (offer : Offer) : List ProbeOption :=
  common offer.defaults ++ offer.own ++ (offer.measured.map levels).getD []

def parse (offer : Offer) (words : List Text) : Except CommandLine.Stop Options :=
  (CommandLine.parse offer.options words).map offer.defaults.ofSettings

def usage (offer : Offer) : Text := CommandLine.usage offer.program offer.options

def helpText (offer : Offer) : Except Template.Failure Text :=
  CommandLine.helpText offer.program offer.description offer.options

def rejections (offer : Offer) (options : Options) : List Rejection :=
  options.rejections (offer.subjects.map Subject.name)

end Offer
end ServiceProbe.Probe
