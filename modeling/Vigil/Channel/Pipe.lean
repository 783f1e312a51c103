import Vigil.World.Act

/-!
# The pipe

The client end of a named pipe: opening it, and waiting for it when all its instances are busy.
`Pipe.reach` opens it with retries: it waits after every attempt that found the pipe busy, until
the deadline.
-/

namespace Vigil

/-- A connection that was given out: its number and what happens on it. -/
structure Connection where
  number : Nat
  line : Line

/-- The world after an attempt to open the pipe that came to `o`, with the openings that are left
after it. -/
def World.opened (w : World) (path : String) (o : Opening) (rest : List Opening) : World :=
  let w := { w with pipe := rest, mono := o.clock.getD w.mono }
  match o.result with
  | .ok _ => World.note { w with lines := w.lines + 1 } (.openPipe path (some w.lines))
  | .error _ => w.note (.openPipe path none)

/-- The world after a wait of `millis` milliseconds for the pipe that came to `answer`. -/
def World.waited (w : World) (path : String) (millis : Nat) (answer : Waiting) : World :=
  let w := { w with waits := w.waits.tail }.note (.wait path millis)
  w.advance (answer.advance.getD ((Number.quotient? millis 1000).getD 0))

namespace Pipe

/-- The path of the pipe of a name. -/
def path (name : String) : String := "\\\\.\\pipe\\" ++ name

/-- The code for a pipe whose instances are all busy. -/
def busyCode : Int := 231

/-- The code for a wait that lasted to its end. -/
def timeoutCode : Int := 121

/-- The seconds between two attempts where the system cannot wait for a pipe. -/
def retryDelay : Float := 0.05

/-- Why an attempt gave no connection. -/
inductive OpenFault where
  | busy
  | missing
  | system (fault : OsFault)
  | other (mishap : Mishap)

/-- What a failed open means. -/
def OpenFault.of : Mishap → OpenFault
  | .os fault =>
    if fault.code = some busyCode then .busy
    else if fault.missing then .missing
    else .system fault
  | mishap => .other mishap

variable {σ : Type}

/-- Attempts to open the pipe once, with the outcome `o`. -/
def tryOpen (path : String) (o : Opening) (rest : List Opening) :
    Act σ (Except OpenFault Connection) := do
  let number := (← Act.world).lines
  Act.alter (·.opened path o rest)
  match o.result with
  | .ok line => pure (.ok ⟨number, line⟩)
  | .error mishap => pure (.error (.of mishap))

/-- The milliseconds the system is asked to wait for. Zero would mean a time of the server's own
choice, so that it is at least one. -/
def waitMillis (seconds : Float) : Except Number.NotWhole Nat :=
  (Number.truncate (seconds * 1000)).map fun millis => (max 1 millis).toNat

/-- Waits until the pipe may be free, for some seconds at most. -/
def wait (path : String) (seconds : Float) : Act σ Unit := do
  match (← Act.world).platform with
  | .other => Act.sleep (if retryDelay < seconds then retryDelay else seconds)
  | .windows =>
    let millis ← Act.orStumble ((waitMillis seconds).mapError .notWhole)
    let answer := (← Act.world).waits.headD {}
    Act.alter (·.waited path millis answer)
    match answer.fault with
    | some mishap => Act.stumble mishap
    | none =>
      if answer.code ≠ 0 ∧ answer.code ≠ timeoutCode then
        Act.log .pipe Level.debug s!"WaitNamedPipeW on '{path}' returned error {answer.code}"

/-- Opens the pipe, whose next openings are given. While it is busy and the deadline is not
reached, it waits for as long as is left and tries again. -/
def reach (path : String) (timeout deadline : Float) : List Opening → Act σ Connection
  | [] => do
    Act.alter (·.opened path .absent [])
    Act.fail (.channel .pipeMissing)
  | o :: rest => do
    match ← tryOpen path o rest with
    | .ok connection => pure connection
    | .error .busy =>
      let remaining := deadline - (← Act.world).mono
      if remaining ≤ 0 then Act.fail (.channel (.stayedBusy timeout))
      else
        wait path remaining
        reach path timeout deadline rest
    | .error .missing => Act.fail (.channel .pipeMissing)
    | .error (.system fault) => Act.fail (.channel (.cannotOpen fault))
    | .error (.other mishap) => Act.stumble mishap

/-! ## Who uses the pipe is not changed by it -/

theorem after_wait_own (path : String) (seconds : Float) (s : Scene σ) :
    (Act.after (wait path seconds) s).own = s.own := by
  unfold wait
  simp only [Act.after_bind, Act.outcome_world, Act.after_world]
  split
  · simp
  · simp only [Act.after_bind, Act.outcome_orStumble, Act.after_orStumble]
    split
    · simp only [Act.outcome_world, Act.after_world, Act.outcome_alter, Act.after_alter]
      split
      · simp
      · split <;> simp
    · rfl

theorem after_reach_own (path : String) (timeout deadline : Float) (openings : List Opening)
    (s : Scene σ) : (Act.after (reach path timeout deadline openings) s).own = s.own := by
  induction openings generalizing s with
  | nil => simp [reach, Act.after_bind]
  | cons o rest ih =>
    unfold reach tryOpen
    simp only [Act.after_bind, Act.outcome_bind, Act.outcome_world, Act.after_world,
      Act.outcome_alter, Act.after_alter]
    cases o.result with
    | ok line => simp
    | error mishap =>
      simp only [Act.outcome_pure, Act.after_pure]
      split
      · simp
      · simp only [Act.after_bind, Act.outcome_world, Act.after_world]
        split
        · simp
        · simp only [Act.after_bind]
          split
          · rw [ih, after_wait_own]
          · rw [after_wait_own]
      all_goals simp

end Pipe

end Vigil
