import Vigil.Number.Shortest
import Vigil.Reporter.Registry
import Vigil.World.Act

/-!
# Reporters at work

Starting and stopping reporters, and letting their intervals elapse. What a heartbeat does is a
parameter, `send`: it may fail, and it may stop any reporter, the one it runs on included. A
reporter that stops itself is not waited for; it exits when its heartbeat is done.
-/

namespace Vigil

/-- A registry beside the state of the part of the client that sends the heartbeats. -/
structure Watch (σ : Type) where
  registry : Registry := {}
  host : σ

namespace Watch

variable {σ α : Type}

/-- Runs an action of the host. -/
def hosted (x : Act σ α) : Act (Watch σ) α :=
  Act.within (·.host) (fun host watch => { watch with host }) x

/-- The registry as it is. -/
def current : Act (Watch σ) Registry := return (← Act.own).registry

/-- Changes the registry. -/
def alter (f : Registry → Registry) : Act (Watch σ) Unit :=
  Act.update fun watch => { watch with registry := f watch.registry }

/-- Logs a message. -/
def log (level : Int) (message : LooseText) (traced : Bool := false) : Act (Watch σ) Unit :=
  Act.log .reporters level message traced

/-- Logs a message as the reporter of a number. -/
def logAs (number : Nat) (id : String) (message : String) : Act (Watch σ) Unit :=
  Act.speaking (.reporter number id) (log Level.debug message)

/-- A reporter comes to its end. -/
def leave (number : Nat) (reporter : Reporter) : Act (Watch σ) Unit := do
  alter (·.enter number .exited)
  logAs number reporter.id s!"Heartbeat reporter for '{reporter.id}' has stopped."

/-- Waits for a cancelled reporter to exit. One that is beating is not waited for: it is the one
that waits. -/
def join (number : Nat) : Act (Watch σ) Unit := do
  if let some reporter := (← current).reporter? number then
    if reporter.phase = .parked then leave number reporter

/-- A reporter sends a heartbeat and then waits for its interval; if it was cancelled meanwhile, it
exits at once. A heartbeat that fails is logged. The interval is one that the system can wait for,
and not beyond its clock: the wait for a longer one would fail and end the reporter. An interval
that is negative has elapsed at once. -/
def beat (send : String → Act (Watch σ) Unit) (number : Nat) : Act (Watch σ) Unit := do
  if let some reporter := (← current).reporter? number then
    let id := reporter.id
    alter (·.enter number .beating)
    Act.speaking (.reporter number id) do
      Act.note (.beat id)
      if let .error raised ← Act.attempt (send id) then
        log Level.error (s!"Heartbeat for '{id}' raised unexpectedly: " ++ raised.message) true
    Act.note (.park (reporterMark ++ id) reporter.interval)
    if (← current).isLive number then alter (·.enter number .parked)
    else leave number reporter

/-- Starts a reporter for an id, which sends its first heartbeat, unless one is running. -/
def start (send : String → Act (Watch σ) Unit) (id : String) (interval : Float) :
    Act (Watch σ) Bool := do
  if (← current).isRunning id then pure false
  else
    if let some number := (← current).number? id then join number
    let number := (← current).reporters.length
    alter (·.enlist id interval)
    log Level.info s!"Heartbeat thread started for '{id}'."
    logAs number id
      s!"Heartbeat reporter for '{id}' started (interval {Number.plain.render interval}s)."
    beat send number
    pure true

/-- Stops the reporter of an id, and tells whether there was one. -/
def stop (id : String) : Act (Watch σ) Bool := do
  match (← current).number? id with
  | none => pure false
  | some number =>
    alter (·.cancel number)
    join number
    alter (·.discharge id number)
    log Level.info s!"Heartbeat thread stopped for '{id}'."
    pure true

/-- Stops all reporters. -/
def stopAll : Act (Watch σ) Unit := do
  let entries := (← current).entries
  entries.forM fun e => alter (·.cancel e.2)
  entries.forM fun e => join e.2
  entries.forM fun e => alter (·.discharge e.1 e.2)
  unless entries.isEmpty do
    log Level.info s!"Stopped {entries.length} heartbeat thread(s)."

/-- Whether a reporter of an id is running. -/
def isRunning (id : String) : Act (Watch σ) Bool := return (← current).isRunning id

/-- The ids whose reporters are running, in the order in which they were started. -/
def activeIds : Act (Watch σ) (List String) := return (← current).activeIds

/-- Lets the interval of the reporter that waits under an id elapse, and tells whether there was
one. -/
def tick (send : String → Act (Watch σ) Unit) (id : String) : Act (Watch σ) Bool := do
  match (← current).parked? id with
  | none => pure false
  | some number =>
    beat send number
    pure true

/-- What may be asked of the reporters. -/
inductive Step where
  | start (id : String) (interval : Float)
  | stop (id : String)
  | stopAll
  | isRunning (id : String)
  | tick (id : String)

/-- Takes a step, and gives its answer if it has one. -/
def take (send : String → Act (Watch σ) Unit) : Step → Act (Watch σ) (Option Bool)
  | .start id interval => some <$> start send id interval
  | .stop id => some <$> stop id
  | .stopAll => do
    stopAll
    pure none
  | .isRunning id => some <$> isRunning id
  | .tick id => some <$> tick send id

end Watch

end Vigil
