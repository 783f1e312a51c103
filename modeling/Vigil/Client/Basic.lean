import Vigil.Channel.Session
import Vigil.Fault.Error
import Vigil.Protocol.Response
import Vigil.Reporter.Watch
import Vigil.Service.Controller
import Vigil.Settings.Basic

/-!
# The client

What a client holds: a session over the pipe, the controller of the service, whether the last use
of the channel found the supervisor, the id under which it watches itself, and two callbacks. It
works in a watch, beside the registry of its reporters.
-/

namespace Vigil

/-- What a callback does: for each time it is called, the list of what it does then, one thing after
the other. When the calls are used up it does nothing. -/
abbrev Callback := List (List CallbackAction)

/-- A client. -/
structure Client where
  session : Session
  controller : Controller
  connectTimeout : Float
  heartbeatInterval : Float
  connected : Bool := false
  selfId : String := ""
  heartbeatCallback : Option Callback := none
  connectionCallback : Option Callback := none

/-- What may be said about a new client besides its settings. -/
structure ClientOptions where
  pipeName : String := ""
  connectTimeout : Option Float := none
  heartbeatInterval : Option Float := none

/-- A new client. Without a name of its own for the pipe, or with an empty one, it takes the one of
the settings. -/
def Client.create (s : Settings) (options : ClientOptions) : Client where
  session :=
    { path := Pipe.path (if options.pipeName = "" then s.pipeName else options.pipeName)
      bufferSize := s.pipeBufferSize }
  controller :=
    { name := s.serviceName
      display := s.serviceDisplay
      attempts := s.pollAttempts
      interval := s.pollInterval
      grace := s.stopGrace }
  connectTimeout := options.connectTimeout.getD s.connectTimeout
  heartbeatInterval := options.heartbeatInterval.getD s.heartbeatInterval

/-- An action of a client. -/
abbrev Deed (α : Type) := Act (Watch Client) α

namespace Client

variable {α : Type}

/-- The client as it is. -/
def current : Deed Client := return (← Act.own).host

/-- Changes the client. -/
def alter (f : Client → Client) : Deed Unit :=
  Act.update fun watch => { watch with host := f watch.host }

/-- Runs an action of the session. -/
def onSession (x : Act Session α) : Deed α :=
  Watch.hosted (Act.within (·.session) (fun session client => { client with session }) x)

/-- Runs an action of the controller. -/
def onController (x : Act Controller α) : Deed α :=
  Watch.hosted (Act.within (·.controller) (fun controller client => { client with controller }) x)

/-- Logs a message. -/
def log (level : Int) (message : LooseText) (traced : Bool := false) : Deed Unit :=
  Act.log .client level message traced

/-! ## The parts of a client in the world -/

/-- The session of a client in the world. -/
def sessionOf (s : Scene (Watch Client)) : Scene Session := ⟨s.world, s.own.host.session⟩

/-- The controller of a client in the world. -/
def controllerOf (s : Scene (Watch Client)) : Scene Controller := ⟨s.world, s.own.host.controller⟩

theorem outcome_onSession (x : Act Session α) (s : Scene (Watch Client)) :
    Act.outcome (onSession x) s = Act.outcome x (sessionOf s) := by
  simp only [onSession, Watch.hosted, Act.outcome_within, sessionOf]

theorem after_onSession (x : Act Session α) (s : Scene (Watch Client)) :
    Act.after (onSession x) s =
      ⟨(Act.after x (sessionOf s)).world,
        { s.own with host := { s.own.host with session := (Act.after x (sessionOf s)).own } }⟩ := by
  simp only [onSession, Watch.hosted, Act.after_within, sessionOf]

theorem outcome_onController (x : Act Controller α) (s : Scene (Watch Client)) :
    Act.outcome (onController x) s = Act.outcome x (controllerOf s) := by
  simp only [onController, Watch.hosted, Act.outcome_within, controllerOf]

theorem after_onController (x : Act Controller α) (s : Scene (Watch Client)) :
    Act.after (onController x) s =
      ⟨(Act.after x (controllerOf s)).world,
        { s.own with
          host := { s.own.host with controller := (Act.after x (controllerOf s)).own } }⟩ := by
  simp only [onController, Watch.hosted, Act.after_within, controllerOf]

end Client

end Vigil
