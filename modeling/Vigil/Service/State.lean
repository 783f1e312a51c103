/-!
# States of a service

The states a service may report, and the numbers the service manager has for them. Other numbers
stand for no state.
-/

namespace Vigil

/-- A state of a service. -/
inductive ServiceState where
  | stopped
  | startPending
  | stopPending
  | running
  | continuePending
  | pausePending
  | paused
  deriving Repr, DecidableEq

namespace ServiceState

/-- The state a number stands for. -/
def ofNumber? (n : UInt32) : Option ServiceState :=
  match n.toNat with
  | 1 => some .stopped
  | 2 => some .startPending
  | 3 => some .stopPending
  | 4 => some .running
  | 5 => some .continuePending
  | 6 => some .pausePending
  | 7 => some .paused
  | _ => none

/-- The name of a state. -/
def label : ServiceState → String
  | .stopped => "STOPPED"
  | .startPending => "START_PENDING"
  | .stopPending => "STOP_PENDING"
  | .running => "RUNNING"
  | .continuePending => "CONTINUE_PENDING"
  | .pausePending => "PAUSE_PENDING"
  | .paused => "PAUSED"

/-- The name of the last state that was seen, if any was. -/
def labelOr : Option ServiceState → String
  | some state => state.label
  | none => "UNKNOWN"

end ServiceState

end Vigil
