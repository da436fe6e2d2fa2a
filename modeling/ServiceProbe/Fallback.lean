import ServiceProbe.Journal
/-!
Doing without what is not available: a warning goes to the error stream, and the run goes on in a
plainer way.
-/
namespace ServiceProbe.Fallback

def dependencyWarning (plugin dependency fallback : Text) : Text :=
  let warning : Text := "WARNING: " ++ plugin ++ " requires " ++ dependency
    ++ " but it is not available.\n"
  if fallback.isEmpty then warning
  else warning ++ "         Falling back to: " ++ fallback ++ "\n"

def featureWarning (feature reason : Text) : Text :=
  "WARNING: " ++ feature ++ " is not available: " ++ reason ++ "\n"

def plainWarning (plugin : Text) : Text :=
  dependencyWarning plugin "TLS support" "HTTP connection only (HTTPS not available)"

/-- The usual port of HTTPS gives way to that of HTTP. -/
def plainPort (port : Int) : Int := if port = 443 then 80 else port

def toPlain (plugin : Text) (tls : Bool) (port : Int) (capability : Capability) :
    Run (Bool × Int) :=
  if !tls || capability.available then return (tls, port)
  else do
    Run.note (.remark (plainWarning plugin))
    return (false, plainPort port)

end ServiceProbe.Fallback
