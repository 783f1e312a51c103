import Vigil.Client.Executable
import Vigil.Channel.Pipe
import Vigil.Protocol.Item

/-!
# Settings

What a client can be told about its surroundings. Every setting has a name; some of them may be
changed by the file of overrides.
-/

namespace Vigil

/-- The settings that can differ from one client to the next. -/
structure Settings where
  serviceName : String := "ProcessGuardService"
  serviceDisplay : String := "Process Guard Service"
  pipeName : String := "ProcessGuardService"
  pipeBufferSize : Int := 65536
  connectTimeout : Float := 5.0
  pollAttempts : Int := 60
  pollInterval : Float := 0.5
  stopGrace : Float := 1.0
  itemTimeout : Int := defaultHeartbeatTimeout
  heartbeatInterval : Float := 0.5
  logLevel : String := "INFO"
  logFile : String := ""
  logFileMaxBytes : Int := 5 * 1024 * 1024
  logFileBackups : Int := 3

/-- The milliseconds the supervisor waits for a heartbeat of a client that watches itself:
a day. -/
def selfHeartbeatTimeout : Int := 24 * 3600 * 1000

/-- The value of a setting. -/
inductive Setting where
  | whole (n : Int)
  | seconds (x : Float)
  | text (s : String)
  | flag (b : Bool)
  | names (names : List String)

/-- The kinds of value that a setting may be given. -/
inductive SettingKind where
  | whole
  | seconds
  | text
  deriving Repr, DecidableEq

/-- The settings that the file of overrides may change. -/
inductive Modifiable where
  | connectTimeout
  | itemTimeout
  | heartbeatInterval
  | logFile
  | logLevel
  | pollAttempts
  | pollInterval
  | stopGrace
  deriving Repr, DecidableEq

namespace Modifiable

/-- The settings that may be changed, sorted by their names. -/
def all : List Modifiable :=
  [.connectTimeout, .itemTimeout, .heartbeatInterval, .logFile, .logLevel, .pollAttempts,
    .pollInterval, .stopGrace]

/-- The name of a setting. -/
def name : Modifiable → String
  | .connectTimeout => "CONNECT_TIMEOUT"
  | .itemTimeout => "DEFAULT_HEARTBEAT_TIMEOUT_MS"
  | .heartbeatInterval => "HEARTBEAT_INTERVAL"
  | .logFile => "LOG_FILE_PATH"
  | .logLevel => "LOG_LEVEL"
  | .pollAttempts => "SERVICE_POLL_ATTEMPTS"
  | .pollInterval => "SERVICE_POLL_INTERVAL"
  | .stopGrace => "UNINSTALL_STOP_GRACE"

/-- The kind of value a setting has. -/
def kind : Modifiable → SettingKind
  | .connectTimeout | .heartbeatInterval | .pollInterval | .stopGrace => .seconds
  | .itemTimeout | .pollAttempts => .whole
  | .logFile | .logLevel => .text

/-- The setting of a name. -/
def ofName? (name : String) : Option Modifiable := all.find? fun m => m.name = name

end Modifiable

namespace Settings

/-- The value of a setting that may be changed. -/
def value (s : Settings) : Modifiable → Setting
  | .connectTimeout => .seconds s.connectTimeout
  | .itemTimeout => .whole s.itemTimeout
  | .heartbeatInterval => .seconds s.heartbeatInterval
  | .logFile => .text s.logFile
  | .logLevel => .text s.logLevel
  | .pollAttempts => .whole s.pollAttempts
  | .pollInterval => .seconds s.pollInterval
  | .stopGrace => .seconds s.stopGrace

/-- The settings with another value of one of them. A value of another kind changes nothing. -/
def assign (s : Settings) : Modifiable → Setting → Settings
  | .connectTimeout, .seconds x => { s with connectTimeout := x }
  | .itemTimeout, .whole n => { s with itemTimeout := n }
  | .heartbeatInterval, .seconds x => { s with heartbeatInterval := x }
  | .logFile, .text t => { s with logFile := t }
  | .logLevel, .text t => { s with logLevel := t }
  | .pollAttempts, .whole n => { s with pollAttempts := n }
  | .pollInterval, .seconds x => { s with pollInterval := x }
  | .stopGrace, .seconds x => { s with stopGrace := x }
  | _, _ => s

/-- All settings with a value of their own, by their names. -/
def entries (s : Settings) : List (String × Setting) :=
  Modifiable.all.map (fun m => (m.name, s.value m)) ++
  [("LOG_FILE_BACKUP_COUNT", .whole s.logFileBackups),
    ("LOG_FILE_MAX_BYTES", .whole s.logFileMaxBytes),
    ("MODIFIABLE_SETTINGS", .names (Modifiable.all.map (·.name))),
    ("PIPE_BUFFER_SIZE", .whole s.pipeBufferSize),
    ("PIPE_BUSY_RETRY_DELAY", .seconds Pipe.retryDelay),
    ("PIPE_NAME", .text s.pipeName),
    ("SELF_MONITOR_DEFAULT_NAME", .text Executable.defaultName),
    ("SELF_MONITOR_HEARTBEAT_TIMEOUT_MS", .whole selfHeartbeatTimeout),
    ("SERVICE_DISPLAY_NAME", .text s.serviceDisplay),
    ("SERVICE_NAME", .text s.serviceName),
    ("VERBOSE_LOGGING", .flag false)]

/-- The names of settings that say where files are. -/
def placeNames : List String := ["BASE_DIR", "OVERRIDES_JSON_PATH"]

/-- The value of the setting of a name. -/
def get? (s : Settings) (name : String) : Option Setting := s.entries.lookup name

end Settings

end Vigil
