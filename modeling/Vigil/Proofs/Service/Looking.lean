import Vigil.Proofs.Service.Handles
import Vigil.Proofs.Service.Polling

/-!
# What the controller looks at and what it changes

Most calls of the service manager only look: they open a service or give it back, or ask for its
state. An operation that changes something makes one call that does, at most. What the two questions
are answered is told by what the service manager has in store, and neither they nor an installation
use up a report.

* `AtMost`: an action adds no more events of a kind than this, whatever it comes to.
* `Controller.isInstalled_iff`, `Controller.isRunning_iff`: when the two questions are answered with
  yes.
* `Controller.atMost_install`, `Controller.atMost_start`: one creation, and one start.
-/

namespace Vigil

open Act

namespace Event

/-- The call opens a handle or gives it back, asks for the state of the service or waits for it. -/
def isLook : Event → Bool
  | .openManager .. | .openService .. | .queryStatus .. | .closeHandle .. | .sleep _ => true
  | _ => false

/-- The call creates a service. -/
def isCreation : Event → Bool
  | .createService .. => true
  | _ => false

/-- The call starts a service. -/
def isStart : Event → Bool
  | .startService .. => true
  | _ => false

/-- The call asks for the state of the service. -/
def isQuery : Event → Bool
  | .queryStatus .. => true
  | _ => false

theorem isCreation_of_isLook {e : Event} (h : e.isLook = true) : e.isCreation = false := by
  cases e <;> first | rfl | cases h

theorem isStart_of_isLook {e : Event} (h : e.isLook = true) : e.isStart = false := by
  cases e <;> first | rfl | cases h

end Event

/-! ## Counting events -/

/-- Between two scenes no more events of a kind were added than this. -/
def Added {σ : Type} (p : Event → Bool) (n : Nat) (s t : Scene σ) : Prop :=
  ∃ l, t.world.events = s.world.events ++ l ∧ l.countP p ≤ n

/-- Whatever the action comes to, it adds no more events of a kind than this. -/
def AtMost {σ α : Type} (p : Event → Bool) (n : Nat) (x : Act σ α) : Prop :=
  ∀ s, Added p n s (after x s)

theorem Added.refl {σ : Type} {p : Event → Bool} (s : Scene σ) : Added p 0 s s :=
  ⟨[], (List.append_nil _).symm, Nat.le_refl 0⟩

theorem Added.trans {σ : Type} {p : Event → Bool} {m n : Nat} {s t u : Scene σ}
    (h : Added p m s t) (h' : Added p n t u) : Added p (m + n) s u := by
  obtain ⟨l, events, few⟩ := h
  obtain ⟨l', events', few'⟩ := h'
  refine ⟨l ++ l', by rw [events', events, List.append_assoc], ?_⟩
  rw [List.countP_append]
  exact Nat.add_le_add few few'

theorem Added.mono {σ : Type} {p : Event → Bool} {m n : Nat} {s t : Scene σ} (h : Added p m s t)
    (hmn : m ≤ n) : Added p n s t := by
  obtain ⟨l, events, few⟩ := h
  exact ⟨l, events, Nat.le_trans few hmn⟩

/-- The events that were added are counted by what may be added. -/
theorem Added.countP_le {σ : Type} {p : Event → Bool} {n : Nat} {s t : Scene σ} {l : List Event}
    (h : Added p n s t) (events : t.world.events = s.world.events ++ l) : l.countP p ≤ n := by
  obtain ⟨l', events', few⟩ := h
  exact List.append_cancel_left (events.symm.trans events') ▸ few

/-- What adds no event of a kind has none. -/
theorem Added.not_of_zero {σ : Type} {p : Event → Bool} {s t : Scene σ} {l : List Event}
    (h : Added p 0 s t) (events : t.world.events = s.world.events ++ l) {e : Event} (he : e ∈ l) :
    p e ≠ true :=
  List.countP_eq_zero.mp (Nat.le_zero.mp (h.countP_le events)) e he

theorem Added.events {σ : Type} {p : Event → Bool} {n : Nat} {s t : Scene σ}
    (h : Added p n s t) : ∃ l, t.world.events = s.world.events ++ l := by
  obtain ⟨l, events, -⟩ := h
  exact ⟨l, events⟩

namespace AtMost

variable {σ τ α β : Type} {p : Event → Bool} {m n : Nat}

/-- What leaves the events as they are adds none. -/
theorem of_same {x : Act σ α} (h : ∀ s, (after x s).world.events = s.world.events) :
    AtMost p 0 x := fun s => ⟨[], by rw [h, List.append_nil], Nat.le_refl 0⟩

/-- One event counts as one or as nothing. -/
theorem of_one {x : Act σ α} (h : ∀ s, ∃ e, (after x s).world.events = s.world.events ++ [e] ∧
    [e].countP p ≤ n) : AtMost p n x := fun s => by
  obtain ⟨e, events, few⟩ := h s
  exact ⟨[e], events, few⟩

theorem pure (a : α) : AtMost p 0 (Pure.pure a : Act σ α) := of_same fun _ => rfl

theorem throw (e : Raised) : AtMost p 0 (MonadExcept.throw e : Act σ α) := of_same fun _ => rfl

theorem own : AtMost p 0 (Act.own : Act σ σ) := of_same fun _ => rfl

theorem log (source : Source) (level : Int) (message : LooseText) (traced : Bool) :
    AtMost p 0 (Act.log source level message traced : Act σ Unit) :=
  of_same fun s => World.events_log s.world source level message traced

theorem mono {x : Act σ α} (h : AtMost p m x) (hmn : m ≤ n) : AtMost p n x :=
  fun s => (h s).mono hmn

theorem bind {x : Act σ α} {f : α → Act σ β} (hx : AtMost p m x) (hf : ∀ a, AtMost p n (f a)) :
    AtMost p (m + n) (x >>= f) := by
  intro s
  rw [after_bind]
  split
  · exact (hx s).trans (hf _ _)
  · exact (hx s).mono (Nat.le_add_right m n)

/-- What comes first may add nothing. -/
theorem quiet_bind {x : Act σ α} {f : α → Act σ β} (hx : AtMost p 0 x)
    (hf : ∀ a, AtMost p n (f a)) : AtMost p n (x >>= f) :=
  (bind hx hf).mono (Nat.le_of_eq (Nat.zero_add n))

/-- What comes last may add nothing. -/
theorem bind_quiet {x : Act σ α} {f : α → Act σ β} (hx : AtMost p n x)
    (hf : ∀ a, AtMost p 0 (f a)) : AtMost p n (x >>= f) := bind hx hf

theorem attempt {x : Act σ α} (hx : AtMost p n x) : AtMost p n (Act.attempt x) := by
  intro s
  rw [after_attempt]
  exact hx s

theorem ensure {x : Act σ α} {last : Act σ Unit} (hx : AtMost p n x) (hl : AtMost p 0 last) :
    AtMost p n (Act.ensure x last) := by
  intro s
  rw [after_ensure]
  exact (hx s).trans (hl _)

theorem within {part : σ → τ} {put : τ → σ → σ} {x : Act τ α} (h : AtMost p n x) :
    AtMost p n (Act.within part put x) := by
  intro s
  rw [after_within]
  exact h ⟨s.world, part s.own⟩

end AtMost

/-! ## The calls of the service manager -/

/-- The call was carried out. -/
def Answer.carriedOut : Answer → Bool
  | .failed _ => false
  | _ => true

/-- No event of the kind is one that only looks. -/
def Quiet (p : Event → Bool) : Prop := ∀ e, e.isLook = true → p e = false

/-- What a creation and what a start count as, where nothing that only looks counts. -/
structure Weighs (p : Event → Bool) (m n : Nat) : Prop where
  quiet : Quiet p
  creation : ∀ e, e.isCreation = true → [e].countP p ≤ m
  start : ∀ e, e.isStart = true → [e].countP p ≤ n

theorem weighs_isCreation : Weighs Event.isCreation 1 0 where
  quiet _ := Event.isCreation_of_isLook
  creation e _ := List.countP_le_length
  start e h := by cases e <;> first | exact Nat.le_refl 0 | cases h

theorem weighs_isStart : Weighs Event.isStart 0 1 where
  quiet _ := Event.isStart_of_isLook
  creation e h := by cases e <;> first | exact Nat.le_refl 0 | cases h
  start e _ := List.countP_le_length

theorem Quiet.countP {p : Event → Bool} (h : Quiet p) {e : Event} (look : e.isLook = true) :
    [e].countP p ≤ 0 := by
  rw [List.countP_singleton, h e look]
  exact Nat.le_refl 0

namespace Service

variable {σ : Type} {p : Event → Bool} {n : Nat}

/-- A query is one call, which shows what it was told. -/
theorem after_query (service : Nat) (s : Scene σ) :
    (after (query service) s).own = s.own ∧
      (after (query service) s).world.events =
        s.world.events ++ [.queryStatus service s.world.manager.reported?] := by
  have read (t : Scene σ) : (after (readState service) t).own = t.own ∧
      (after (readState service) t).world.events =
        t.world.events ++ [.queryStatus service (some t.world.manager.state)] := by
    unfold readState
    simp only [after_bind, outcome_world, after_world, outcome_note, after_note]
    split <;> exact ⟨rfl, World.events_note _ _⟩
  have state : (s.world.manager.next .queryStatus).2.state = s.world.manager.state :=
    (Manager.AgreeBut.next _ _).state
  unfold query Manager.reported?
  simp only [after_bind, outcome_ask, after_ask]
  cases e : (s.world.manager.next .queryStatus).1 with
  | failed code => exact ⟨rfl, World.events_note _ _⟩
  | done =>
    obtain ⟨own, events⟩ := read { s with world.manager := (s.world.manager.next .queryStatus).2 }
    exact ⟨own, state ▸ events⟩
  | state value => exact read _

/-- A call that does something is one call, which shows whether it was carried out. -/
theorem events_doing (primitive : Primitive) (event : Bool → Event) (action : String)
    (s : Scene σ) :
    (after (doing primitive event action) s).world.events =
      s.world.events ++ [event (s.world.manager.next primitive).1.carriedOut] := by
  unfold doing
  rw [after_bind, outcome_ask, after_ask]
  dsimp only
  cases (s.world.manager.next primitive).1 <;> exact World.events_note _ _

theorem atMost_doing {primitive : Primitive} {event : Bool → Event} {action : String}
    (h : ∀ done, [event done].countP p ≤ n) :
    AtMost p n (doing primitive event action : Act σ Unit) :=
  .of_one fun _ => ⟨_, events_doing .., h _⟩

theorem atMost_opening {primitive : Primitive} {event : Option Nat → Event} {action : String}
    (h : ∀ handle, [event handle].countP p ≤ n) :
    AtMost p n (opening primitive event action : Act σ Nat) :=
  .of_one fun s => by
    rcases opening_cases primitive event action s with ⟨_, -, events⟩ | ⟨_, -, events, -⟩
    · exact ⟨_, events, h _⟩
    · exact ⟨_, events, h _⟩

theorem atMost_closeHandle (quiet : Quiet p) (handle : Nat) :
    AtMost p 0 (closeHandle handle : Act σ Unit) :=
  .of_one fun s => by
    obtain ⟨done, events⟩ := events_closeHandle handle s
    exact ⟨_, events, quiet.countP rfl⟩

theorem atMost_query (quiet : Quiet p) (service : Nat) :
    AtMost p 0 (query service : Act σ ServiceState) :=
  .of_one fun s => ⟨_, (after_query service s).2, quiet.countP rfl⟩

end Service

namespace Controller

variable {α : Type} {p : Event → Bool} {m n : Nat}

theorem atMost_log (level : Int) (message : String) : AtMost p 0 (log level message) := .log _ _ _ _

theorem atMost_guarded {x : Act Controller α} (h : AtMost p n x) : AtMost p n (guarded x) := by
  refine .bind_quiet (.attempt h) fun r => ?_
  split
  · exact .pure _
  · exact .pure _
  · exact .throw _

theorem atMost_withManager (quiet : Quiet p) {access : Nat} {x : Nat → Act Controller α}
    (hx : ∀ manager, AtMost p n (x manager)) : AtMost p n (withManager access x) := by
  have prepared : AtMost p 0 prepare := .of_same fun s => (silent_prepare s).1
  exact .quiet_bind prepared fun _ => .quiet_bind
    (Service.atMost_opening fun _ => quiet.countP rfl) fun manager =>
      .ensure (hx manager) (Service.atMost_closeHandle quiet manager)

theorem atMost_withService (quiet : Quiet p) {access : Nat} {x : Nat → Act Controller α}
    (hx : ∀ service, AtMost p n (x service)) : AtMost p n (withService access x) :=
  atMost_withManager quiet fun _ => .quiet_bind .own fun _ => .quiet_bind
    (Service.atMost_opening fun _ => quiet.countP rfl) fun service =>
      .ensure (hx service) (Service.atMost_closeHandle quiet service)

theorem atMost_isInstalled (quiet : Quiet p) : AtMost p 0 isInstalled := by
  refine .quiet_bind .own fun c => .quiet_bind
    (atMost_guarded (atMost_withService quiet fun _ => .pure _)) fun r => ?_
  split
  · exact .pure _
  · split
    · exact .quiet_bind (atMost_log _ _) fun _ => .pure _
    · exact .pure _

theorem atMost_isRunning (quiet : Quiet p) : AtMost p 0 isRunning := by
  refine .bind_quiet ?_ fun _ => .pure _
  refine .quiet_bind .own fun c => .quiet_bind
    (atMost_guarded (atMost_withService quiet fun _ => Service.atMost_query quiet _)) fun r => ?_
  split
  · exact .pure _
  · exact .quiet_bind (atMost_log _ _) fun _ => .pure _

/-- An installation creates one service at most. -/
theorem atMost_install (w : Weighs p m n) (path : String) : AtMost p m (install path) := by
  have rest : AtMost p m (do
      let c ← Act.own
      withManager Access.createService fun manager => do
        let service ← Service.create manager c.name c.display path
        Service.closeHandle service
      log Level.info s!"Service '{c.name}' installed for '{path}'.") :=
    .quiet_bind .own fun c => .bind_quiet (atMost_withManager w.quiet fun _ => .bind_quiet
      (Service.atMost_opening fun _ => w.creation _ rfl) (Service.atMost_closeHandle w.quiet))
      fun _ => atMost_log _ _
  unfold install
  split
  · exact .quiet_bind (.throw _) fun _ => rest
  · exact rest

theorem atMost_poll (quiet : Quiet p) (service : Nat) (target : ServiceState) (attempts : Nat)
    (seen : Option ServiceState) : AtMost p 0 (poll service target attempts seen) := by
  have slept (seconds : Float) : AtMost p 0 (Act.sleep seconds : Act Controller Unit) :=
    .of_one fun _ => ⟨_, World.events_sleep _ _, quiet.countP rfl⟩
  induction attempts generalizing seen with
  | zero => exact .pure _
  | succ attempts ih =>
    refine .quiet_bind (atMost_guarded (Service.atMost_query quiet service)) fun r => ?_
    split
    · split
      · exact .pure _
      · exact .quiet_bind .own fun _ => .quiet_bind (slept _) fun _ => ih _
    · exact .quiet_bind (atMost_log _ _) fun _ => .quiet_bind .own fun _ =>
        .quiet_bind (slept _) fun _ => ih _

theorem atMost_awaitState (quiet : Quiet p) (service : Nat) (target : ServiceState) :
    AtMost p 0 (awaitState service target) := by
  refine .quiet_bind .own fun c => .quiet_bind (atMost_poll quiet service target _ _) fun seen => ?_
  dsimp only
  split
  · exact .pure _
  · exact .quiet_bind (.of_same fun s => by rw [after_orStumble]) fun _ =>
      .quiet_bind (atMost_log _ _) fun _ => .pure _

/-- A start starts the service once at most. -/
theorem atMost_start (w : Weighs p m n) : AtMost p n start := by
  refine .quiet_bind .own fun c => .bind_quiet (atMost_withService w.quiet fun service => ?_)
    fun _ => .quiet_bind (atMost_log _ _) fun _ => .pure _
  have waits : AtMost p 0 (awaitState service .running) := atMost_awaitState w.quiet _ _
  refine .bind_quiet (atMost_guarded (Service.atMost_doing fun _ => w.start _ rfl)) fun r => ?_
  split
  · split
    · exact .quiet_bind (.throw _) fun _ => .quiet_bind (atMost_log _ _) fun _ => waits
    · exact .quiet_bind (atMost_log _ _) fun _ => waits
  · exact waits

/-! ## What the two questions are answered -/

/-- The service can be opened, and the state that is reported for it is that it runs. -/
structure SeenRunning (s : Scene Controller) : Prop extends OpensService s where
  runs : s.world.manager.reported?.bind ServiceState.ofNumber? = some .running

/-- **The service is said to be installed exactly if it can be opened.** -/
theorem isInstalled_iff (s : Scene Controller) :
    outcome isInstalled s = .ok true ↔ OpensService s := by
  have ends : outcome isInstalled s =
      (outcome (guarded (withService Access.queryStatus fun _ => pure ())) s).map
        fun r => r.toOption.isSome := by
    unfold isInstalled
    simp only [outcome_bind, outcome_own, after_own]
    cases outcome (guarded (withService Access.queryStatus fun _ => pure ())) s with
    | ok r =>
      cases r with
      | ok u => rfl
      | error fault =>
        dsimp only
        split <;> rfl
    | error raised => rfl
  rw [ends, outcome_guarded]
  rcases withService_cases Access.queryStatus (fun _ => pure ()) s with
    ⟨opens, service, t, returns, -⟩ | ⟨closed, fault, fails⟩
  · rw [returns]
    exact iff_of_true rfl opens
  · rw [fails]
    exact iff_of_false nofun closed

/-- **The service is said to run exactly if it can be opened and reports that it runs.** -/
theorem isRunning_iff (s : Scene Controller) :
    outcome isRunning s = .ok true ↔ SeenRunning s := by
  rw [outcome_isRunning, outcome_guarded]
  rcases withService_cases Access.queryStatus Service.query s with
    ⟨opens, service, t, returns, opened⟩ | ⟨closed, fault, fails⟩
  · have asked := Service.outcome_query service (s := t)
    rw [opened.reported?] at asked
    rw [returns]
    cases reported : s.world.manager.reported? with
    | none =>
      rw [reported] at asked
      obtain ⟨fault, fails⟩ := asked
      rw [fails]
      refine iff_of_false nofun fun h => ?_
      cases (congrArg (·.bind ServiceState.ofNumber?) reported).symm.trans h.runs
    | some value =>
      have read := congrArg (·.bind ServiceState.ofNumber?) reported
      rw [reported] at asked
      dsimp only [Service.told] at asked
      rw [asked]
      cases state : ServiceState.ofNumber? value with
      | none => exact iff_of_false nofun fun h => nomatch (read.trans state).symm.trans h.runs
      | some state' =>
        have read : _ = some state' := read.trans state
        by_cases running : state' = .running
        · subst running
          exact iff_of_true rfl ⟨opens, read⟩
        · refine iff_of_false (fun h => running ?_) fun h =>
            running (Option.some.inj (read.symm.trans h.runs))
          simpa [Except.map, Except.toOption] using h
  · rw [fails]
    exact iff_of_false nofun fun h => closed h.toOpensService

end Controller

/-! ## What is left to report -/

/-- Uses up no report, leaves the state of the service as it is, and makes no query. -/
def reporting {σ : Type} : Frame (Scene σ) where
  holds a b := b.world.manager.answers .queryStatus = a.world.manager.answers .queryStatus ∧
    b.world.manager.state = a.world.manager.state ∧ Added Event.isQuery 0 a b
  refl a := ⟨rfl, rfl, .refl a⟩
  trans hab hbc := ⟨hbc.1.trans hab.1, hbc.2.1.trans hab.2.1, hab.2.2.trans hbc.2.2⟩

/-- What an action does that adds no event and leaves the service manager as it is. -/
theorem reporting_of_same {σ α : Type} {x : Act σ α}
    (manager : ∀ s, (after x s).world.manager = s.world.manager)
    (events : ∀ s, (after x s).world.events = s.world.events) : Respects reporting x := fun s =>
  ⟨congrArg (Manager.answers · _) (manager s), congrArg Manager.state (manager s),
    AtMost.of_same events s⟩

theorem reporting_note {σ : Type} {e : Event} (h : e.isQuery = false) :
    Respects reporting (Act.note e : Act σ Unit) := fun s =>
  ⟨rfl, rfl, [e], World.events_note _ _, by simp [h]⟩

namespace Service

variable {σ : Type}

theorem reporting_log (source : Source) (level : Int) (message : LooseText) (traced : Bool) :
    Respects reporting (Act.log source level message traced : Act σ Unit) :=
  reporting_of_same (fun s => World.manager_log s.world source level message traced)
    fun s => World.events_log s.world source level message traced

theorem reporting_ask {p : Primitive} (h : p ≠ .queryStatus) :
    Respects reporting (ask p : Act σ Answer) := fun s =>
  have agree := Manager.AgreeBut.next s.world.manager p
  ⟨agree.answers _ h.symm, agree.state, AtMost.of_same (fun _ => rfl) s⟩

theorem reporting_opening {p : Primitive} {event : Option Nat → Event} {action : String}
    (h : p ≠ .queryStatus) (he : ∀ handle, (event handle).isQuery = false) :
    Respects reporting (opening p event action : Act σ Nat) := by
  have given : Respects reporting (give : Act σ Nat) := fun s =>
    ⟨rfl, rfl, AtMost.of_same (fun _ => rfl) s⟩
  refine .bind (reporting_ask h) fun answer => ?_
  split
  · exact .bind (reporting_note (he _)) fun _ => .fail _
  · exact .bind given fun _ => .bind (reporting_note (he _)) fun _ => .pure _

theorem reporting_closeHandle (handle : Nat) :
    Respects reporting (closeHandle handle : Act σ Unit) := by
  refine .bind (reporting_ask (by decide)) fun answer => ?_
  split
  · exact .bind (reporting_note rfl) fun _ => reporting_log _ _ _ _
  · exact reporting_note rfl

end Service

namespace Controller

variable {α : Type}

theorem reporting_prepare : Respects reporting prepare := by
  refine .bind .own fun c => ?_
  split
  · exact .pure _
  · refine .bind .world fun w => ?_
    split
    · exact reporting_of_same (fun _ => rfl) fun _ => rfl
    · exact .fail _

theorem reporting_openManager (access : Nat) :
    Respects reporting (Service.openManager access : Act Controller Nat) :=
  Service.reporting_opening (by decide) fun _ => rfl

theorem reporting_openService (manager : Nat) (name : String) (access : Nat) :
    Respects reporting (Service.openService manager name access : Act Controller Nat) :=
  Service.reporting_opening (by decide) fun _ => rfl

theorem reporting_withManager {access : Nat} {x : Nat → Act Controller α}
    (hx : ∀ manager, Respects reporting (x manager)) : Respects reporting (withManager access x) :=
  .bind reporting_prepare fun _ => .bind (reporting_openManager access) fun manager =>
    .ensure (hx manager) (Service.reporting_closeHandle manager)

theorem reporting_isInstalled : Respects reporting isInstalled := by
  have looked : Respects reporting (withService Access.queryStatus fun _ => Pure.pure ()) :=
    reporting_withManager fun _ => .bind .own fun _ =>
      .bind (reporting_openService _ _ _) fun service =>
        .ensure (.pure _) (Service.reporting_closeHandle service)
  refine .bind .own fun c => .bind (fun s => ?_) fun r => ?_
  · rw [after_guarded]
    exact looked s
  · split
    · exact .pure _
    · split
      · exact .bind (Service.reporting_log _ _ _ _) fun _ => .pure _
      · exact .pure _

theorem reporting_install (path : String) : Respects reporting (install path) := by
  have rest : Respects reporting (do
      let c ← Act.own
      withManager Access.createService fun manager => do
        let service ← Service.create manager c.name c.display path
        Service.closeHandle service
      log Level.info s!"Service '{c.name}' installed for '{path}'.") :=
    .bind .own fun c => .bind (reporting_withManager fun _ => .bind
      (Service.reporting_opening (by decide) fun _ => rfl) Service.reporting_closeHandle) fun _ =>
        Service.reporting_log _ _ _ _
  unfold install
  split
  · exact .bind (.fail _) fun _ => rest
  · exact rest

end Controller

end Vigil
