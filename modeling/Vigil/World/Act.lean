import Vigil.World.Basic

/-!
# Actions

What a part of the client does: it changes its own state and the world, and ends with a value or
with what was raised. What it did before it failed stays done. An action that names no state of
its own changes the world alone.
-/

namespace Vigil

/-- A part of the client in the world. -/
structure Scene (σ : Type) where
  world : World
  own : σ

/-- An action of a part of the client. -/
abbrev Act (σ α : Type) := EStateM Raised (Scene σ) α

namespace Act

variable {σ τ α : Type}

/-- The world as it is. -/
def world : Act σ World := fun s => .ok s.world s

/-- The own state as it is. -/
def own : Act σ σ := fun s => .ok s.own s

/-- Changes the world. -/
def alter (f : World → World) : Act σ Unit := fun s => .ok () { s with world := f s.world }

/-- Changes the own state. -/
def update (f : σ → σ) : Act σ Unit := fun s => .ok () { s with own := f s.own }

/-- Puts an event into the journal. -/
def note (e : Event) : Act σ Unit := alter (·.note e)

/-- Logs a message. -/
def log (source : Source) (level : Int) (message : LooseText) (traced : Bool := false) :
    Act σ Unit :=
  alter (·.log source level message traced)

/-- Prints a line. What is printed is encoded in strict UTF-8, which has bytes for every string. -/
def print (line : String) : Act σ Unit := alter (·.say (line ++ "\n"))

/-- Sleeps. The length is one that the system can sleep for: neither negative nor a NaN nor beyond
its clock. A sleep of such a length lasts as long as it says. -/
def sleep (seconds : Float) : Act σ Unit := alter (·.sleep seconds)

/-- Ends with an error of the client. -/
def fail (e : Error) : Act σ α := throw (.error e)

/-- Ends with a mishap. -/
def stumble (m : Mishap) : Act σ α := throw (.mishap m)

/-- The value of a computation that may end in a mishap. -/
def orStumble : Except Mishap α → Act σ α
  | .ok a => pure a
  | .error m => stumble m

/-- Prints a text as a line. A torn text cannot be encoded: nothing of it is printed, and that is
what goes wrong. -/
def printText (text : LooseText) : Act σ Unit := do
  print (← orStumble (text.string.mapError .torn))

/-- Runs an action and tells how it ended. What the pipe, a transport and a callback raise is an
ordinary failure, whatever its label; what ends the whole program, as an interrupt does, is none,
and no action ends with it. -/
def attempt (x : Act σ α) : Act σ (Except Raised α) := fun s =>
  match x s with
  | .ok a s => .ok (.ok a) s
  | .error e s => .ok (.error e) s

/-- Runs an action and, however it ended, a second one after it. If both fail, the second failure
is the one that is told. -/
def ensure (x : Act σ α) (last : Act σ Unit) : Act σ α := fun s =>
  match x s with
  | .ok a s =>
    match last s with
    | .ok () s => .ok a s
    | .error e s => .error e s
  | .error e s =>
    match last s with
    | .ok () s => .error e s
    | .error e s => .error e s

/-- Runs an action with another speaker. -/
def speaking (speaker : Speaker) (x : Act σ α) : Act σ α := fun s =>
  let before := s.world.speaker
  match x { s with world := { s.world with speaker } } with
  | .ok a t => .ok a { t with world := { t.world with speaker := before } }
  | .error e t => .error e { t with world := { t.world with speaker := before } }

/-- Runs an action of a part of the own state. -/
def within (part : σ → τ) (put : τ → σ → σ) (x : Act τ α) : Act σ α := fun s =>
  match x ⟨s.world, part s.own⟩ with
  | .ok a t => .ok a ⟨t.world, put t.own s.own⟩
  | .error e t => .error e ⟨t.world, put t.own s.own⟩

/-- The milliseconds of the wall clock. -/
def epochMillis : Act σ Int := do
  orStumble ((← world).epochMillis.mapError .notWhole)

/-! ## What an action comes to

`outcome` and `after` are the two halves of a run. Every combinator has one equation for each. -/

/-- What an action ends with. -/
def outcome (x : Act σ α) (s : Scene σ) : Except Raised α :=
  match x s with
  | .ok a _ => .ok a
  | .error e _ => .error e

/-- The scene after an action. -/
def after (x : Act σ α) (s : Scene σ) : Scene σ :=
  match x s with
  | .ok _ t => t
  | .error _ t => t

/-- What comes to the same in every scene is the same. -/
theorem eq_of_runs {x y : Act σ α}
    (h : ∀ s, outcome x s = outcome y s ∧ after x s = after y s) : x = y := by
  funext s
  obtain ⟨ends, leads⟩ := h s
  unfold outcome after at *
  cases hx : x s <;> cases hy : y s <;> simp_all

/-- Runs actions one after the other, whatever each of them comes to. -/
def inTurn : List (Act σ α) → Act σ Unit
  | [] => pure ()
  | x :: rest => do
    discard (attempt x)
    inTurn rest

variable {β : Type} (s : Scene σ)

@[simp] theorem outcome_pure (a : α) : outcome (pure a : Act σ α) s = .ok a := rfl

@[simp] theorem after_pure (a : α) : after (pure a : Act σ α) s = s := rfl

theorem outcome_bind (x : Act σ α) (f : α → Act σ β) :
    outcome (x >>= f) s =
      match outcome x s with
      | .ok a => outcome (f a) (after x s)
      | .error e => .error e := by
  simp only [outcome, after, bind, EStateM.bind]
  cases x s <;> rfl

theorem after_bind (x : Act σ α) (f : α → Act σ β) :
    after (x >>= f) s =
      match outcome x s with
      | .ok a => after (f a) (after x s)
      | .error _ => after x s := by
  simp only [outcome, after, bind, EStateM.bind]
  cases x s <;> rfl

@[simp] theorem outcome_map (f : α → β) (x : Act σ α) :
    outcome (f <$> x) s = (outcome x s).map f := by
  simp only [outcome, Functor.map, EStateM.map]
  cases x s <;> rfl

@[simp] theorem after_map (f : α → β) (x : Act σ α) : after (f <$> x) s = after x s := by
  simp only [after, Functor.map, EStateM.map]
  cases x s <;> rfl

@[simp] theorem outcome_discard (x : Act σ α) :
    outcome (discard x) s = (outcome x s).map fun _ => () :=
  outcome_map s _ x

@[simp] theorem after_discard (x : Act σ α) : after (discard x) s = after x s := after_map s _ x

@[simp] theorem outcome_throw (e : Raised) : outcome (throw e : Act σ α) s = .error e := rfl

@[simp] theorem after_throw (e : Raised) : after (throw e : Act σ α) s = s := rfl

@[simp] theorem outcome_fail (e : Error) : outcome (fail e : Act σ α) s = .error (.error e) := rfl

@[simp] theorem after_fail (e : Error) : after (fail e : Act σ α) s = s := rfl

@[simp] theorem outcome_stumble (m : Mishap) :
    outcome (stumble m : Act σ α) s = .error (.mishap m) := rfl

@[simp] theorem after_stumble (m : Mishap) : after (stumble m : Act σ α) s = s := rfl

@[simp] theorem outcome_orStumble (r : Except Mishap α) :
    outcome (orStumble r : Act σ α) s = r.mapError .mishap := by
  cases r <;> rfl

@[simp] theorem after_orStumble (r : Except Mishap α) :
    after (orStumble r : Act σ α) s = s := by
  cases r <;> rfl

@[simp] theorem outcome_world : outcome world s = .ok s.world := rfl

@[simp] theorem after_world : after world s = s := rfl

/-- A reading that may be refused is got as it is, or not at all. -/
theorem outcome_orStumble_eq_ok_iff {ε : Type} (r : Except ε α) (name : ε → Mishap) (a : α) :
    outcome (orStumble (r.mapError name)) s = .ok a ↔ r = .ok a := by
  cases r with
  | ok b =>
    show (Except.ok b : Except Raised α) = .ok a ↔ (Except.ok b : Except ε α) = .ok a
    rw [Except.ok.injEq, Except.ok.injEq]
  | error e => exact ⟨nofun, nofun⟩

/-- The clock gives a time to the action just as it gives one to the world. -/
theorem outcome_epochMillis_eq_ok_iff (n : Int) :
    outcome epochMillis s = .ok n ↔ s.world.epochMillis = .ok n := by
  rw [epochMillis, outcome_bind, outcome_world, after_world]
  exact outcome_orStumble_eq_ok_iff s s.world.epochMillis .notWhole n

@[simp] theorem after_epochMillis : after epochMillis s = s := by
  rw [epochMillis, after_bind, outcome_world, after_world]
  exact after_orStumble s _

@[simp] theorem outcome_own : outcome own s = .ok s.own := rfl

@[simp] theorem after_own : after own s = s := rfl

@[simp] theorem outcome_alter (f : World → World) : outcome (alter f) s = .ok () := rfl

@[simp] theorem after_alter (f : World → World) :
    after (alter f) s = { s with world := f s.world } := rfl

@[simp] theorem outcome_update (f : σ → σ) : outcome (update f) s = .ok () := rfl

@[simp] theorem after_update (f : σ → σ) : after (update f) s = { s with own := f s.own } := rfl

@[simp] theorem outcome_note (e : Event) : outcome (note e) s = .ok () := rfl

@[simp] theorem after_note (e : Event) :
    after (note e) s = { s with world := s.world.note e } := rfl

@[simp] theorem outcome_log (source : Source) (level : Int) (message : LooseText) (traced : Bool) :
    outcome (log source level message traced) s = .ok () := rfl

@[simp] theorem after_log (source : Source) (level : Int) (message : LooseText) (traced : Bool) :
    after (log source level message traced) s =
      { s with world := s.world.log source level message traced } := rfl

@[simp] theorem outcome_sleep (seconds : Float) : outcome (sleep seconds) s = .ok () := rfl

@[simp] theorem after_sleep (seconds : Float) :
    after (sleep seconds) s = { s with world := s.world.sleep seconds } := rfl

@[simp] theorem outcome_print (line : String) : outcome (print line) s = .ok () := rfl

@[simp] theorem after_print (line : String) :
    after (print line) s = { s with world := s.world.say (line ++ "\n") } := rfl

/-- A text that is a string is printed like one. -/
@[simp] theorem printText_ofString (line : String) :
    (printText (LooseText.ofString line) : Act σ Unit) = print line := by
  rw [printText, LooseText.string_ofString]
  rfl

/-- **An attempt never fails**, and does what the action does. -/
@[simp] theorem outcome_attempt (x : Act σ α) : outcome (attempt x) s = .ok (outcome x s) := by
  simp only [outcome, attempt]
  cases x s <;> rfl

@[simp] theorem after_attempt (x : Act σ α) : after (attempt x) s = after x s := by
  simp only [after, attempt]
  cases x s <;> rfl

/-- What comes last is done in any case. -/
@[simp] theorem after_ensure (x : Act σ α) (last : Act σ Unit) :
    after (ensure x last) s = after last (after x s) := by
  cases hx : x s with
  | ok a t => cases hl : last t <;> simp [after, ensure, hx, hl]
  | error e t => cases hl : last t <;> simp [after, ensure, hx, hl]

/-- The failure of what comes last takes the place of what the action came to. -/
theorem outcome_ensure (x : Act σ α) (last : Act σ Unit) :
    outcome (ensure x last) s =
      match outcome last (after x s) with
      | .ok () => outcome x s
      | .error e => .error e := by
  cases hx : x s with
  | ok a t => cases hl : last t <;> simp [outcome, after, ensure, hx, hl]
  | error e t => cases hl : last t <;> simp [outcome, after, ensure, hx, hl]

@[simp] theorem outcome_speaking (speaker : Speaker) (x : Act σ α) :
    outcome (speaking speaker x) s = outcome x { s with world := { s.world with speaker } } := by
  simp only [outcome, speaking]
  cases x { s with world := { s.world with speaker } } <;> rfl

theorem after_speaking (speaker : Speaker) (x : Act σ α) :
    after (speaking speaker x) s =
      let t := after x { s with world := { s.world with speaker } }
      { t with world := { t.world with speaker := s.world.speaker } } := by
  simp only [after, speaking]
  cases x { s with world := { s.world with speaker } } <;> rfl

@[simp] theorem outcome_within (part : σ → τ) (put : τ → σ → σ) (x : Act τ α) :
    outcome (within part put x) s = outcome x ⟨s.world, part s.own⟩ := by
  simp only [outcome, within]
  cases x ⟨s.world, part s.own⟩ <;> rfl

@[simp] theorem after_within (part : σ → τ) (put : τ → σ → σ) (x : Act τ α) :
    after (within part put x) s =
      ⟨(after x ⟨s.world, part s.own⟩).world, put (after x ⟨s.world, part s.own⟩).own s.own⟩ := by
  simp only [after, within]
  cases x ⟨s.world, part s.own⟩ <;> rfl

end Act

end Vigil
