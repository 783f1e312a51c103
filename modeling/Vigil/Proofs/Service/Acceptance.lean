import Vigil.Proofs.Service.Polling

/-!
# Starting and stopping succeed when they are accepted

To start or to stop a service is to tell the service manager and then to wait. The command is
accepted if the service can be opened and the call is carried out, or is refused because the
service already is what it is told to be. What the waiting sees is not meant to matter; it does
matter where a state is reported that there is none for.

* `Controller.Order.Ends`: what starting and stopping come to.
* **`Controller.order_returns_iff`**: they return exactly if they are accepted and the waiting does
  not fail.
* `Controller.start_fails_after_acceptance`: an accepted start that does not return.
-/

namespace Vigil

open Act

namespace Service

variable {σ : Type} {s : Scene σ} {p : Primitive} {event : Bool → Event} {action : String}

/-- A call that does something fails as the service manager says. -/
theorem outcome_doing :
    outcome (doing p event action) s =
      match (s.world.manager.next p).1 with
      | .failed code => .error (.error (.service (.call action code)))
      | _ => .ok () := by
  unfold doing
  rw [outcome_bind, outcome_ask]
  cases (s.world.manager.next p).1 <;> rfl

/-- A call that does something uses up its own answer alone. -/
theorem after_doing (s : Scene σ) (p : Primitive) (event : Bool → Event) (action : String) :
    (after (doing p event action) s).own = s.own ∧
      Manager.AgreeBut p s.world.manager (after (doing p event action) s).world.manager := by
  have agree := Manager.AgreeBut.next s.world.manager p
  unfold doing
  rw [after_bind, outcome_ask, after_ask]
  dsimp only
  cases (s.world.manager.next p).1 <;> exact ⟨rfl, agree.answers, agree.state⟩

end Service

namespace Controller

/-- The commands whose effect is waited for. -/
inductive Order where
  | start
  | stop
  deriving Repr, DecidableEq

namespace Order

/-- What is asked of the controller. -/
def call : Order → Call
  | .start => .start
  | .stop => .stop

/-- The call that gives the command to the service manager. -/
def primitive : Order → Primitive
  | .start => .startService
  | .stop => .controlService

/-- The code that says that the service already is what it is told to be. -/
def settledCode : Order → Int
  | .start => alreadyRunningCode
  | .stop => notActiveCode

/-- The state that is waited for. -/
def target : Order → ServiceState
  | .start => .running
  | .stop => .stopped

/-- What the service manager says to the command. -/
def answer (o : Order) (s : Scene Controller) : Answer := (s.world.manager.next o.primitive).1

/-- The command is accepted: the service can be opened, and the call does not fail, or fails
because the service already is what it is told to be. -/
structure Accepted (o : Order) (s : Scene Controller) : Prop extends OpensService s where
  taken : ∀ code, o.answer s = .failed code → code = o.settledCode

/-- An accepted start is always waited for, an accepted stop only if the call was carried out. -/
structure Awaited (o : Order) (s : Scene Controller) : Prop extends Accepted o s where
  stops : o = .stop → ∀ code, o.answer s ≠ .failed code

/-- What the service manager reports while the effect is waited for. -/
def sees (s : Scene Controller) : List (Option UInt32) :=
  s.world.manager.reports s.own.attempts.toNat

/-- What an accepted command lets out: that for which the waiting fails. -/
structure LetsOut (o : Order) (s : Scene Controller) (why : Mishap) : Prop extends Awaited o s where
  fails : WaitFails o.target s.own.attempts (sees s) why

/-- How a command ends: it is refused, what it lets out gets out, or it is done. -/
inductive Ends {α : Type} (o : Order) (s : Scene Controller) : Except Raised α → Prop
  | refused (h : ¬o.Accepted s) (fault : ServiceFault) : Ends o s (.error (.error (.service fault)))
  | spoilt {why : Mishap} (h : o.LetsOut s why) : Ends o s (.error (.mishap why))
  | done (h : o.Accepted s) (sound : ∀ why, ¬o.LetsOut s why) (a : α) : Ends o s (.ok a)

variable {α β : Type} {o : Order} {s t u : Scene Controller}

/-- What follows and always returns changes nothing of how a command ends. -/
theorem Ends.bind {x : Act Controller α} {f : α → Act Controller β} (h : o.Ends s (outcome x t))
    (hf : ∀ a, Returns (fun _ => True) (f a)) : o.Ends s (outcome (x >>= f) t) := by
  rw [outcome_bind]
  cases e : outcome x t with
  | error raised =>
    rw [e] at h
    cases h with
    | refused h fault => exact .refused h fault
    | spoilt h => exact .spoilt h
  | ok a =>
    rw [e] at h
    cases h with
    | done h sound =>
      obtain ⟨b, returns, -⟩ := hf a (after x t)
      dsimp only
      rw [returns]
      exact .done h sound b

/-- To whoever waits for a report, the scene is the same as another: as many attempts are left, and
the manager is to report the same. -/
structure Poised (s u : Scene Controller) : Prop where
  attempts : u.own.attempts = s.own.attempts
  answers : u.world.manager.answers .queryStatus = s.world.manager.answers .queryStatus
  state : u.world.manager.state = s.world.manager.state

theorem Poised.sees (h : Poised s u) : Order.sees u = Order.sees s := by
  rw [Order.sees, Order.sees, h.attempts, Manager.reports_congr h.answers h.state]

/-- A command that cannot open the service is refused. -/
theorem Ends.withService {access : Nat} {x : Nat → Act Controller α}
    (h : ∀ service t, OpensService s → Opened s t → o.Ends s (outcome (x service) t)) :
    o.Ends s (outcome (withService access x) s) := by
  rcases withService_cases access x s with ⟨opens, service, t, ht, opened⟩ | ⟨closed, fault, he⟩
  · rw [ht]
    exact h service t opens opened
  · rw [he]
    exact .refused (fun accepted => closed accepted.toOpensService) fault

/-- The opening of the service uses up no answer to the call of a command. -/
theorem answer_of_opened (opened : Opened s t) : o.answer t = o.answer s :=
  opened.next_fst (by cases o <;> decide) (by cases o <;> decide)

/-- The call of a command leaves the scene as it was to whoever waits. -/
theorem Poised.of_doing (opened : Opened s t) (event : Bool → Event) (action : String) :
    Poised s (after (guarded (Service.doing o.primitive event action)) t) := by
  have hq : Primitive.queryStatus ≠ o.primitive := by cases o <;> decide
  obtain ⟨own, agree⟩ := Service.after_doing t o.primitive event action
  rw [after_guarded]
  refine ⟨?_, ?_, agree.state.trans opened.state⟩
  · rw [own, opened.own]
  · rw [agree.answers _ hq, opened.answers _ (by decide) (by decide)]

/-- The call of a command is carried out or fails with a code. -/
theorem Ends.command {event : Bool → Event} {action : String}
    {f : Except ServiceFault Unit → Act Controller α} (opened : Opened s t)
    (carried : (∀ code, o.answer s ≠ .failed code) → ∀ u, Poised s u →
      o.Ends s (outcome (f (.ok ())) u))
    (failed : ∀ code, o.answer s = .failed code → ∀ u, Poised s u →
      o.Ends s (outcome (f (.error (.call action code))) u)) :
    o.Ends s (outcome (guarded (Service.doing o.primitive event action) >>= f) t) := by
  have answer : (t.world.manager.next o.primitive).1 = o.answer s := answer_of_opened opened
  have poised := Poised.of_doing (o := o) opened event action
  rw [outcome_bind, outcome_guarded, Service.outcome_doing, answer]
  cases e : o.answer s with
  | failed code => exact failed code e _ poised
  | done => exact carried (fun code h => nomatch e.symm.trans h) _ poised
  | state value => exact carried (fun code h => nomatch e.symm.trans h) _ poised

/-- Waiting ends an accepted command that is waited for. -/
theorem Ends.await (h : o.Awaited s) (poised : Poised s u) (service : Nat) :
    o.Ends s (outcome (awaitState service o.target) u) := by
  have same : WaitFails o.target u.own.attempts (sees u) =
      WaitFails o.target s.own.attempts (sees s) := by rw [poised.sees, poised.attempts]
  rcases awaitState_cases service o.target u with ⟨why, fails, e⟩ | ⟨sound, seen, e⟩
  · rw [e]
    exact .spoilt ⟨h, same ▸ fails⟩
  · rw [e]
    exact .done h.toAccepted (fun why out => sound why (same ▸ out.fails)) seen

/-- A failed call is an accepted command only with the code that says that there is nothing to
do. -/
theorem not_accepted_of_failed {code : Int} (h : o.answer s = .failed code)
    (hc : code ≠ o.settledCode) : ¬o.Accepted s := fun accepted => hc (accepted.taken code h)

theorem log_returns (level : Int) (message : String) :
    Returns (fun _ => True) (log level message) := fun _ => ⟨(), rfl, trivial⟩

theorem Poised.log (h : Poised s u) (level : Int) (message : String) :
    Poised s (after (Controller.log level message) u) := by
  have manager : (after (Controller.log level message) u).world.manager = u.world.manager :=
    World.manager_log ..
  exact ⟨h.attempts, manager ▸ h.answers, manager ▸ h.state⟩

/-- How starting ends. -/
theorem start_ends (s : Scene Controller) : Order.start.Ends s (outcome Controller.start s) := by
  rw [Controller.start, outcome_bind, outcome_own, after_own]
  refine Ends.bind (Ends.withService fun service t opens opened => ?_) fun _ =>
    (log_returns _ _).bind fun _ _ => .pure trivial
  refine Ends.command (o := .start) opened (fun carried u poised => ?_)
    fun code failed u poised => ?_
  · exact Ends.await ⟨⟨opens, fun code h => absurd h (carried code)⟩, nofun⟩ poised service
  · dsimp only
    split
    · rename_i hc
      exact .refused (not_accepted_of_failed failed hc) _
    · rename_i hc
      have settled : code = alreadyRunningCode := Decidable.not_not.mp hc
      have accepted : Order.start.Accepted s := ⟨opens, fun other h => by
        cases failed.symm.trans h
        exact settled⟩
      exact Ends.await ⟨accepted, nofun⟩ (poised.log _ _) service

/-- How stopping ends. -/
theorem stop_ends (s : Scene Controller) : Order.stop.Ends s (outcome Controller.stop s) := by
  rw [Controller.stop, outcome_bind, outcome_own, after_own]
  refine Ends.bind (Ends.withService fun service t opens opened => ?_) fun result => ?_
  · refine Ends.command (o := .stop) opened (fun carried u poised => ?_)
      fun code failed u poised => ?_
    · have accepted : Order.stop.Accepted s := ⟨opens, fun code h => absurd h (carried code)⟩
      exact Ends.bind (Ends.await ⟨accepted, fun _ => carried⟩ poised service) fun _ =>
        .pure trivial
    · dsimp only
      split
      · rename_i hc
        exact .refused (not_accepted_of_failed failed hc) _
      · rename_i hc
        have settled : code = notActiveCode := Decidable.not_not.mp hc
        have accepted : Order.stop.Accepted s := ⟨opens, fun other h => by
          cases failed.symm.trans h
          exact settled⟩
        exact .done accepted (fun why out => out.stops rfl code failed) _
  · split
    split
    · exact (log_returns _ _).bind fun _ _ => .pure trivial
    · exact .pure trivial

theorem Ends.map {ending : Except Raised α} (h : o.Ends s ending) (f : α → β) :
    o.Ends s (ending.map f) := by
  cases h with
  | refused h fault => exact .refused h fault
  | spoilt h => exact .spoilt h
  | done h sound a => exact .done h sound (f a)

/-- How a command ends, whichever it is. -/
theorem ends (o : Order) (s : Scene Controller) : o.Ends s (outcome (perform o.call) s) := by
  cases o with
  | start => exact (outcome_map s Reply.state _) ▸ (start_ends s).map Reply.state
  | stop => exact (outcome_map s Reply.state _) ▸ (stop_ends s).map Reply.state

/-- A command lets out one thing. -/
theorem LetsOut.unique {why other : Mishap} (h : o.LetsOut s why) (h' : o.LetsOut s other) :
    why = other := h.fails.unique h'.fails

/-- What a command lets out is what gets out. -/
theorem LetsOut.outcome {why : Mishap} (h : o.LetsOut s why) :
    outcome (perform o.call) s = .error (.mishap why) := by
  have ends := o.ends s
  generalize Act.outcome (perform o.call) s = ending at ends ⊢
  cases ends with
  | refused closed fault => exact absurd h.toAccepted closed
  | spoilt h' => rw [h.unique h']
  | done accepted sound reply => exact absurd h (sound why)

end Order

/-- **Starting and stopping return exactly if the command is accepted and the waiting does not
fail.** What makes the waiting fail is what then gets out, and the service's errors are those of
the commands that are not accepted. -/
theorem order_returns_iff (o : Order) (s : Scene Controller) :
    ((∃ reply, outcome (perform o.call) s = .ok reply) ↔
        o.Accepted s ∧ ∀ why, ¬o.LetsOut s why) ∧
      (∀ why, outcome (perform o.call) s = .error (.mishap why) ↔ o.LetsOut s why) ∧
      ((∃ fault, outcome (perform o.call) s = .error (.error (.service fault))) ↔
        ¬o.Accepted s) := by
  have ends := o.ends s
  refine ⟨⟨?_, ?_⟩, fun why => ⟨?_, Order.LetsOut.outcome⟩, ?_, ?_⟩
  · rintro ⟨reply, e⟩
    rw [e] at ends
    cases ends with
    | done accepted sound => exact ⟨accepted, sound⟩
  · rintro ⟨accepted, sound⟩
    generalize outcome (perform o.call) s = ending at ends ⊢
    cases ends with
    | refused closed fault => exact absurd accepted closed
    | spoilt out => exact absurd out (sound _)
    | done _ _ reply => exact ⟨reply, rfl⟩
  · intro e
    rw [e] at ends
    cases ends with
    | spoilt out => exact out
  · rintro ⟨fault, e⟩
    rw [e] at ends
    cases ends with
    | refused closed => exact closed
  · intro closed
    generalize outcome (perform o.call) s = ending at ends ⊢
    cases ends with
    | refused _ fault => exact ⟨fault, rfl⟩
    | spoilt out => exact absurd out.toAccepted closed
    | done accepted => exact absurd accepted closed

/-- A start that is accepted does not return where a state is reported that there is none for. -/
theorem start_fails_after_acceptance :
    let s : Scene Controller := ⟨{ manager := { state := 9 } }, { attempts := 1 }⟩
    Order.start.Accepted s ∧ outcome (perform .start) s = .error (.mishap (.unknownState 9)) := by
  intro s
  have accepted : Order.start.Accepted s := ⟨⟨⟨.inr rfl, nofun⟩, nofun⟩, nofun⟩
  exact ⟨accepted, Order.LetsOut.outcome (o := .start) ⟨⟨accepted, nofun⟩, .strange rfl rfl⟩⟩

end Controller

end Vigil
