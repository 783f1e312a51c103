import Vigil.Fault.Mishap

/-!
# What the outside sees

The calls a client makes to the pipe, the service manager, the clock and its callbacks, each with
what came of it. Two further events mark beginnings: that of an exchange and that of a reporter's
heartbeat. And it is marked what a callback does while it is called.
-/

namespace Vigil

/-- A thing that a callback does while it is called. `stopArgument` stops the reporter of the id
that the callback got, if it got one. -/
inductive CallbackAction where
  | fail
  | stopArgument
  | stop (id : String)
  | stopAll
  | disconnect
  | unset
  deriving Repr, DecidableEq

/-- A call to the outside. Handles are numbered in the order in which they were given out. -/
inductive Event where
  | exchange (payload : Bytes)
  | openPipe (path : String) (handle : Option Nat)
  | write (handle : Nat) (payload : Bytes) (result : Except Mishap Int)
  | read (handle : Nat) (limit : Int) (result : Except Mishap Bytes)
  | close (handle : Nat) (result : Option Mishap)
  | wait (path : String) (millis : Nat)
  | sleep (seconds : Float)
  | openManager (access : Nat) (handle : Option Nat)
  | openService (manager : Nat) (name : String) (access : Nat) (handle : Option Nat)
  | createService (manager : Nat) (name display path : String) (handle : Option Nat)
  | deleteService (service : Nat) (done : Bool)
  | startService (service : Nat) (done : Bool)
  | controlService (service : Nat) (done : Bool)
  | queryStatus (service : Nat) (state : Option UInt32)
  | closeHandle (handle : Nat) (done : Bool)
  | beat (id : String)
  | stopped (done : Bool)
  | running (yes : Bool)
  | park (thread : String) (interval : Float)
  | heartbeatCallback (id : String)
  | connectionCallback (connected : Bool)
  /-- A callback that was called with the id, if with any, does this next. -/
  | reacts (id : Option String) (action : CallbackAction)

end Vigil
