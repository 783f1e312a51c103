import Vigil.Settings.Basic
import Vigil.Files.Path
import Vigil.Number.Reading

/-!
# Settings from the environment

Variables of the environment take the place of some default settings.
-/

namespace Vigil

/-- The variables of an environment. -/
abbrev Environment := List (String × String)

namespace Environment

/-- The text of a variable, or a default. -/
def text (env : Environment) (name default : String) : String := (env.lookup name).getD default

/-- The seconds a variable tells, or a default. -/
def seconds (env : Environment) (name : String) (default : Float) : Except Mishap Float :=
  match env.lookup name with
  | none => .ok default
  | some text =>
    match Number.readFloat text.toList with
    | some x => .ok x
    | none => .error (.noFloat text)

/-- The settings of an environment. -/
def settings (env : Environment) : Except Mishap Settings := do
  let plain : Settings := {}
  let connectTimeout ← env.seconds "PROCGUARD_CONNECT_TIMEOUT" plain.connectTimeout
  let heartbeatInterval ← env.seconds "PROCGUARD_HEARTBEAT_INTERVAL" plain.heartbeatInterval
  pure { plain with
    connectTimeout
    heartbeatInterval
    serviceName := env.text "PROCGUARD_SERVICE_NAME" plain.serviceName
    pipeName := env.text "PROCGUARD_PIPE_NAME" plain.pipeName
    logLevel := Text.upperString (env.text "PROCGUARD_LOG_LEVEL" plain.logLevel)
    logFile := env.text "PROCGUARD_LOG_FILE" plain.logFile }

/-- Where an environment says that the file of overrides is. -/
def overridesPath? (env : Environment) : Option FilePath :=
  (env.lookup "PROCGUARD_OVERRIDES").map .of

end Environment

end Vigil
