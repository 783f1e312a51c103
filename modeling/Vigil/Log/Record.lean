import Vigil.Text.Loose

/-!
# Log records

What is worth telling, from which part of the client, how important, and on which thread.
-/

namespace Vigil

/-- The part of the client a record comes from. -/
inductive Source where
  | session
  | pipe
  | controller
  | manager
  | codec
  | reporters
  | client
  | selfMonitor
  | display
  | commands
  | overrides
  | console
  | root
  | named (name : String)
  deriving Repr, DecidableEq

/-- The name of a source in a log line. -/
def Source.label : Source → String
  | .session => "procguard.channel.session"
  | .pipe => "procguard.channel.pipe"
  | .controller => "procguard.service.controller"
  | .manager => "procguard.service.scm"
  | .codec => "procguard.protocol.codec"
  | .reporters => "procguard.heartbeat.supervisor"
  | .client => "procguard.client.facade"
  | .selfMonitor => "procguard.client.self_monitor"
  | .display => "procguard.console.handler"
  | .commands => "procguard.console.process"
  | .overrides => "procguard.config"
  | .console => "console"
  | .root => "root"
  | .named name => name

/-- Who is acting: the main thread or a reporter, with its number and its item's id. -/
inductive Speaker where
  | main
  | reporter (number : Nat) (id : String)
  deriving Repr, DecidableEq

/-- What the names of reporter threads start with. -/
def reporterMark : String := "HeartbeatThread-"

/-- The name of a thread. -/
def Speaker.thread : Speaker → String
  | .main => "MainThread"
  | .reporter _ id => reporterMark ++ id

namespace Level

/-- The levels with a name. -/
def debug : Int := 10

@[inherit_doc debug]
def info : Int := 20

@[inherit_doc debug]
def warning : Int := 30

@[inherit_doc debug]
def error : Int := 40

@[inherit_doc debug]
def critical : Int := 50

/-- The name of a level in a log line. -/
def label (level : Int) : String :=
  if level = critical then "CRITICAL"
  else if level = error then "ERROR"
  else if level = warning then "WARNING"
  else if level = info then "INFO"
  else if level = debug then "DEBUG"
  else if level = 0 then "NOTSET"
  else s!"Level {level}"

/-- The level that a name in the settings stands for. Two levels have a second name. -/
def ofName? (name : String) : Option Int :=
  if name = "CRITICAL" ∨ name = "FATAL" then some critical
  else if name = "ERROR" then some error
  else if name = "WARNING" ∨ name = "WARN" then some warning
  else if name = "INFO" then some info
  else if name = "DEBUG" then some debug
  else if name = "NOTSET" then some 0
  else none

end Level

/-- A log record. Its message may hold texts of the supervisor. `traced` says that the failure it
tells of is shown with it. -/
structure Record where
  source : Source
  level : Int
  message : LooseText
  thread : String
  time : Float
  traced : Bool := false

/-- Whether a record comes from a reporter. -/
def Record.fromReporter (r : Record) : Bool := reporterMark.toList.isPrefixOf r.thread.toList

/-- Whether a console shows a record: what reporters say at the lowest level would drown all
else. -/
def Record.shown (r : Record) : Bool := r.level > Level.debug || !r.fromReporter

end Vigil
