import Vigil.Reporter.Watch

/-!
# Scripted heartbeats

Heartbeats that follow a script: for each id, what its heartbeats do one after the other. A script
that is used up does nothing more.
-/

namespace Vigil

/-- What a scripted heartbeat does. -/
inductive BeatAction where
  | nothing
  | fail
  | stop (id : String)
  | stopAll
  | askRunning (id : String)
  deriving Repr, DecidableEq

/-- The heartbeats of each id that are still to come. -/
structure Routine where
  actions : List (String × List BeatAction) := []
  deriving Repr, DecidableEq

namespace Routine

/-- The next heartbeat of an id. -/
def next (r : Routine) (id : String) : BeatAction :=
  ((r.actions.lookup id).bind (·.head?)).getD .nothing

/-- The script without the next heartbeat of an id. -/
def rest (r : Routine) (id : String) : Routine :=
  ⟨r.actions.map fun e => if e.1 = id then (e.1, e.2.tail) else e⟩

/-- Does what the script says for one heartbeat. -/
def send (id : String) : Act (Watch Routine) Unit := do
  let action := (← Act.own).host.next id
  Act.update fun watch => { watch with host := watch.host.rest id }
  match action with
  | .nothing => pure ()
  | .fail => Act.stumble (.raised "heartbeat" s!"send failed for {id}")
  | .stop other => do Act.note (.stopped (← Watch.stop other))
  | .stopAll => Watch.stopAll
  | .askRunning other => do Act.note (.running (← Watch.isRunning other))

end Routine

end Vigil
