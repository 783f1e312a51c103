/-!
# Reporters

A reporter sends heartbeats for one item until it is cancelled. The registry holds every reporter
that was ever started, numbered in that order, and says which of them is in charge of which id.
Reporters run in turn: one beats until it waits for its interval or has exited, and only then does
the next one run.
-/

namespace Vigil

/-- What a reporter does: it sends a heartbeat, waits for its interval, or has come to its end. -/
inductive Phase where
  | beating
  | parked
  | exited
  deriving Repr, DecidableEq

/-- One reporter. -/
structure Reporter where
  id : String
  interval : Float
  cancelled : Bool := false
  phase : Phase := .beating

/-- The reporters, and the numbers of those in charge of an id, in the order in which they were
put in charge. -/
structure Registry where
  reporters : List Reporter := []
  entries : List (String × Nat) := []

namespace Registry

/-- The number of the reporter in charge of an id. -/
def number? (r : Registry) (id : String) : Option Nat := r.entries.lookup id

/-- The reporter of a number. -/
def reporter? (r : Registry) (number : Nat) : Option Reporter := r.reporters[number]?

/-- Whether the reporter of a number is not cancelled. -/
def isLive (r : Registry) (number : Nat) : Bool :=
  match r.reporter? number with
  | some reporter => !reporter.cancelled
  | none => false

/-- Whether a reporter is in charge of an id and is not cancelled. -/
def isRunning (r : Registry) (id : String) : Bool :=
  match r.number? id with
  | some number => r.isLive number
  | none => false

/-- The ids whose reporters are not cancelled. -/
def activeIds (r : Registry) : List String := (r.entries.filter fun e => r.isLive e.2).map (·.1)

/-- The number of the reporter that waits for its interval under an id. -/
def parked? (r : Registry) (id : String) : Option Nat :=
  r.reporters.findIdx? fun reporter => reporter.id = id && reporter.phase = .parked

/-- Puts a number in charge of an id; an id that has an entry keeps its place. -/
def charge (id : String) (number : Nat) : List (String × Nat) → List (String × Nat)
  | [] => [(id, number)]
  | e :: rest => if e.1 = id then (id, number) :: rest else e :: charge id number rest

/-- The registry with a new reporter, which is in charge of its id. -/
def enlist (r : Registry) (id : String) (interval : Float) : Registry :=
  ⟨r.reporters ++ [{ id := id, interval := interval }], charge id r.reporters.length r.entries⟩

/-- The registry with one reporter changed. -/
def change (r : Registry) (number : Nat) (f : Reporter → Reporter) : Registry :=
  { r with reporters := r.reporters.modify number f }

/-- The registry with one reporter cancelled. -/
def cancel (r : Registry) (number : Nat) : Registry :=
  r.change number fun reporter => { reporter with cancelled := true }

/-- The registry with one reporter in another phase. -/
def enter (r : Registry) (number : Nat) (phase : Phase) : Registry :=
  r.change number fun reporter => { reporter with phase }

/-- The registry with nobody in charge of an id, if it was this reporter. -/
def discharge (r : Registry) (id : String) (number : Nat) : Registry :=
  { r with entries := r.entries.filter fun e => e ≠ (id, number) }

/-! ## What each change does to the look-up of an id -/

theorem lookup_charge (id k : String) (number : Nat) (entries : List (String × Nat)) :
    (charge id number entries).lookup k = if k = id then some number else entries.lookup k := by
  induction entries with
  | nil =>
    by_cases h : k = id
    · simp [charge, h]
    · simp [charge, List.lookup_cons, h, beq_false_of_ne h]
  | cons e rest ih =>
    obtain ⟨i, n⟩ := e
    by_cases hi : i = id
    · subst hi
      by_cases hk : k = i
      · simp [charge, hk]
      · simp [charge, List.lookup_cons, hk, beq_false_of_ne hk]
    · by_cases hk : k = i
      · subst hk
        simp [charge, hi]
      · simp [charge, hi, List.lookup_cons, beq_false_of_ne hk, ih]

/-- A new reporter is in charge of its id, and of no other. -/
theorem number?_enlist (r : Registry) (id k : String) (interval : Float) :
    (r.enlist id interval).number? k =
      if k = id then some r.reporters.length else r.number? k :=
  lookup_charge id k r.reporters.length r.entries

@[simp] theorem number?_change (r : Registry) (number : Nat) (f : Reporter → Reporter)
    (id : String) : (r.change number f).number? id = r.number? id := rfl

@[simp] theorem length_change (r : Registry) (number : Nat) (f : Reporter → Reporter) :
    (r.change number f).reporters.length = r.reporters.length := by
  simp [change]

theorem reporter?_change (r : Registry) (number k : Nat) (f : Reporter → Reporter) :
    (r.change number f).reporter? k =
      if number = k then (r.reporter? k).map f else r.reporter? k := by
  simp only [change, reporter?, List.getElem?_modify]
  split <;> simp

/-- A cancelled reporter is not live. -/
theorem isLive_cancel (r : Registry) (number : Nat) : (r.cancel number).isLive number = false := by
  unfold isLive cancel
  rw [reporter?_change]
  cases r.reporter? number <;> simp

end Registry

end Vigil
