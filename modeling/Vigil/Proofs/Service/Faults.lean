import Vigil.Proofs.Act
import Vigil.Service.Controller

/-!
# How the operations of the controller fail

Every error an operation of the controller ends with is one of the service. Whether the service is
installed is always answered; whether it runs is answered unless the service manager reports a
state that there is none for.

* `Controller.install_raises`, `Controller.start_raises`, …: the errors of the commands.
* `Controller.isInstalled_returns`: whether the service is installed is answered.
* `Controller.isRunning_cases`: what the question whether it runs lets out.
-/

namespace Vigil

open Act

/-- What is raised is an error of the service, or one of some mishaps. -/
def OfService (M : Mishap → Prop) : Raised → Prop
  | .error e => ∃ fault, e = .service fault
  | .mishap m => M m

variable {M : Mishap → Prop}

namespace Service

variable {σ : Type}

theorem ask_raises (p : Primitive) : Raises (OfService M) (ask (σ := σ) p) :=
  .step fun s => ⟨(s.world.answer p).1, rfl⟩

theorem opening_raises {p : Primitive} {event : Option Nat → Event} {action : String} :
    Raises (OfService M) (opening (σ := σ) p event action) := by
  refine .bind (ask_raises p) fun answer => ?_
  split
  · exact .bind (.alter _) fun _ => .fail ⟨_, rfl⟩
  · refine .bind (.step fun s => ⟨(s.world.giveHandle).1, rfl⟩) fun _ => .bind (.alter _) fun _ =>
      .pure _

theorem doing_raises {p : Primitive} {event : Bool → Event} {action : String} :
    Raises (OfService M) (doing (σ := σ) p event action) := by
  refine .bind (ask_raises p) fun answer => ?_
  split
  · exact .bind (.alter _) fun _ => .fail ⟨_, rfl⟩
  · exact .alter _

/-- What is read lets out the states that there are none for. -/
theorem readState_raises (service : Nat)
    (hM : ∀ v, ServiceState.ofNumber? v = none → M (.unknownState v)) :
    Raises (OfService M) (readState (σ := σ) service) := by
  refine .bind .world fun w => .bind (.alter _) fun _ => ?_
  split
  · exact .pure _
  · exact .stumble (hM _ ‹_›)

/-- A query lets out the states that there are none for. -/
theorem query_raises (service : Nat)
    (hM : ∀ v, ServiceState.ofNumber? v = none → M (.unknownState v)) :
    Raises (OfService M) (query (σ := σ) service) := by
  refine .bind (ask_raises _) fun answer => ?_
  split
  · exact .bind (.alter _) fun _ => .fail ⟨_, rfl⟩
  · split
    · exact .bind (.alter _) fun _ => readState_raises service hM
    · exact readState_raises service hM

theorem closeHandle_raises (handle : Nat) :
    Raises (OfService M) (closeHandle (σ := σ) handle) := by
  refine .bind (ask_raises _) fun answer => ?_
  split
  · exact .bind (.alter _) fun _ => .alter _
  · exact .alter _

end Service

namespace Controller

variable {α : Type}

theorem prepare_raises : Raises (OfService M) prepare := by
  refine .bind .own fun c => ?_
  split
  · exact .pure _
  · refine .bind .world fun w => ?_
    split
    · exact .update _
    · exact .fail ⟨_, rfl⟩

theorem guarded_raises {x : Act Controller α} (hx : Raises (OfService M) x) :
    Raises (OfService M) (guarded x) := by
  refine .attempt_bind hx fun r hr => ?_
  split
  · exact .pure _
  · exact .pure _
  · exact .throw (hr _ rfl)

theorem withManager_raises (access : Nat) {x : Nat → Act Controller α}
    (hx : ∀ manager, Raises (OfService M) (x manager)) :
    Raises (OfService M) (withManager access x) :=
  .bind prepare_raises fun _ => .bind Service.opening_raises fun manager =>
    .ensure (hx manager) (Service.closeHandle_raises manager)

theorem withService_raises (access : Nat) {x : Nat → Act Controller α}
    (hx : ∀ service, Raises (OfService M) (x service)) :
    Raises (OfService M) (withService access x) :=
  withManager_raises _ fun _ => .bind .own fun _ => .bind Service.opening_raises fun service =>
    .ensure (hx service) (Service.closeHandle_raises service)

theorem log_raises (level : Int) (message : String) : Raises (OfService M) (log level message) :=
  .step fun _ => ⟨(), rfl⟩

theorem install_raises (path : String) : Raises (OfService M) (install path) := by
  have rest : Raises (OfService M) (do
      let c ← Act.own
      withManager Access.createService fun manager => do
        let service ← Service.create manager c.name c.display path
        Service.closeHandle service
      log Level.info s!"Service '{c.name}' installed for '{path}'.") :=
    .bind .own fun c => .bind (withManager_raises _ fun _ => .bind Service.opening_raises
      fun service => Service.closeHandle_raises service) fun _ => log_raises _ _
  unfold install
  split
  · exact .bind (.fail ⟨_, rfl⟩) fun _ => rest
  · exact rest

theorem sleep_raises (seconds : Float) :
    Raises (OfService M) (Act.sleep seconds : Act Controller Unit) := .step fun _ => ⟨(), rfl⟩

theorem stopBefore_raises (service : Nat) :
    Raises (OfService fun _ => True) (stopBefore service) := by
  refine .bind (guarded_raises (Service.query_raises service fun _ _ => trivial)) fun r => ?_
  split
  · exact log_raises _ _
  · split
    · refine .bind (guarded_raises Service.doing_raises) fun r => ?_
      have rest : Raises (OfService fun _ => True)
          (do Act.sleep (← Act.own).grace : Act Controller Unit) :=
        .bind .own fun _ => sleep_raises _
      split
      · exact .bind (log_raises _ _) fun _ => rest
      · exact rest
    · exact .pure _

theorem uninstall_raises : Raises (OfService fun _ => True) uninstall :=
  .bind (withService_raises _ fun service => .bind (stopBefore_raises service) fun _ =>
    Service.doing_raises) fun _ => .bind .own fun _ => log_raises _ _

theorem poll_raises (service : Nat) (target : ServiceState) (attempts : Nat)
    (seen : Option ServiceState) :
    Raises (OfService fun _ => True) (poll service target attempts seen) := by
  induction attempts generalizing seen with
  | zero => exact .pure _
  | succ attempts ih =>
    refine .bind (guarded_raises (Service.query_raises service fun _ _ => trivial)) fun r => ?_
    split
    · split
      · exact .pure _
      · exact .bind .own fun _ => .bind (sleep_raises _) fun _ => ih _
    · exact .bind (log_raises _ _) fun _ => .bind .own fun _ => .bind (sleep_raises _) fun _ => ih _

theorem awaitState_raises (service : Nat) (target : ServiceState) :
    Raises (OfService fun _ => True) (awaitState service target) := by
  refine .bind .own fun c => .bind (poll_raises _ _ _ _) fun seen => ?_
  dsimp only
  split
  · exact .pure _
  · exact .bind (.orStumble fun _ _ => trivial) fun _ => .bind (log_raises _ _) fun _ => .pure _

theorem start_raises : Raises (OfService fun _ => True) start := by
  refine .bind .own fun c => .bind (withService_raises _ fun service => ?_) fun _ =>
    .bind (log_raises _ _) fun _ => .pure _
  refine .bind (guarded_raises Service.doing_raises) fun r => ?_
  split
  · split
    · exact .bind (.fail ⟨_, rfl⟩) fun _ => .bind (log_raises _ _) fun _ => awaitState_raises _ _
    · exact .bind (log_raises _ _) fun _ => awaitState_raises _ _
  · exact awaitState_raises _ _

theorem stop_raises : Raises (OfService fun _ => True) stop := by
  refine .bind .own fun c => .bind (withService_raises _ fun service => ?_) fun p => ?_
  · refine .bind (guarded_raises Service.doing_raises) fun r => ?_
    split
    · exact .bind (awaitState_raises _ _) fun _ => .pure _
    · split
      · exact .bind (.fail ⟨_, rfl⟩) fun _ => .bind (log_raises _ _) fun _ => .pure _
      · exact .bind (log_raises _ _) fun _ => .pure _
  · dsimp only
    split
    · exact .bind (log_raises _ _) fun _ => .pure _
    · exact .pure _

end Controller

/-! ## The question whether the service runs -/

theorem Manager.next_fst (m : Manager) (p : Primitive) :
    (m.next p).1 = (m.answers p).headD .done := by
  unfold next
  cases m.answers p <;> rfl

/-- The state that the service manager reports next. -/
def Manager.reported? (m : Manager) : Option UInt32 :=
  match (m.next .queryStatus).1 with
  | .failed _ => none
  | .state v => some v
  | .done => some m.state

/-- What is reported next is told by the answers to queries and by the state. -/
theorem Manager.reported?_congr {m n : Manager} (answers : n.answers .queryStatus =
    m.answers .queryStatus) (state : n.state = m.state) : n.reported? = m.reported? := by
  unfold reported?
  rw [next_fst, next_fst, answers, state]

/-- Two service managers that are alike but for the answers to one call. -/
structure Manager.AgreeBut (p : Primitive) (m n : Manager) : Prop where
  answers : ∀ q, q ≠ p → n.answers q = m.answers q
  state : n.state = m.state

namespace Manager.AgreeBut

variable {p : Primitive} {m n : Manager}

theorem next (m : Manager) (p : Primitive) : AgreeBut p m (m.next p).2 := by
  unfold Manager.next
  split
  · exact ⟨fun _ _ => rfl, rfl⟩
  · exact ⟨fun q hq => if_neg hq, rfl⟩

theorem next_fst (h : AgreeBut p m n) {q : Primitive} (hq : q ≠ p) :
    (n.next q).1 = (m.next q).1 := by
  rw [Manager.next_fst, Manager.next_fst, h.answers q hq]

end Manager.AgreeBut

namespace Service

variable {σ : Type} {s : Scene σ} {p : Primitive}

theorem outcome_ask : outcome (ask p) s = .ok (s.world.manager.next p).1 := rfl

theorem after_ask :
    after (ask p) s =
      { s with world := { s.world with manager := (s.world.manager.next p).2 } } := rfl

theorem outcome_opening_of_failed {event : Option Nat → Event} {action : String} {code : Int}
    (h : (s.world.manager.next p).1 = .failed code) :
    outcome (opening p event action) s = .error (.error (.service (.call action code))) := by
  simp [opening, outcome_bind, outcome_ask, h]

/-- An opening that does not fail changes nothing but the answers to its own call. -/
theorem outcome_opening {event : Option Nat → Event} {action : String}
    (h : ∀ code, (s.world.manager.next p).1 ≠ .failed code) :
    ∃ handle, outcome (opening p event action) s = .ok handle ∧
      (after (opening p event action) s).own = s.own ∧
      Manager.AgreeBut p s.world.manager (after (opening p event action) s).world.manager := by
  have agree := Manager.AgreeBut.next s.world.manager p
  unfold opening
  simp only [outcome_bind, after_bind, outcome_ask, after_ask]
  cases e : (s.world.manager.next p).1 with
  | failed code => exact absurd e (h code)
  | done => exact ⟨_, rfl, rfl, agree.answers, agree.state⟩
  | state v => exact ⟨_, rfl, rfl, agree.answers, agree.state⟩

theorem outcome_closeHandle (handle : Nat) : outcome (closeHandle handle) s = .ok () := by
  unfold closeHandle
  simp only [outcome_bind, outcome_ask]
  cases (s.world.manager.next .closeHandle).1 <;> rfl

/-- What a reported state comes to. -/
def told (v : UInt32) : Except Raised ServiceState :=
  match ServiceState.ofNumber? v with
  | some state => .ok state
  | none => .error (.mishap (.unknownState v))

theorem outcome_readState (service : Nat) :
    outcome (readState service) s = told s.world.manager.state := by
  unfold readState told
  simp only [outcome_bind, outcome_world, after_world, outcome_note]
  cases ServiceState.ofNumber? s.world.manager.state <;> rfl

/-- A query comes to the state that is reported, or to an error of the service. -/
theorem outcome_query (service : Nat) :
    match s.world.manager.reported? with
    | none => ∃ fault, outcome (query service) s = .error (.error (.service fault))
    | some v => outcome (query service) s = told v := by
  have state : (s.world.manager.next .queryStatus).2.state = s.world.manager.state :=
    (Manager.AgreeBut.next _ _).state
  unfold query Manager.reported?
  simp only [outcome_bind, outcome_ask, after_ask]
  cases e : (s.world.manager.next .queryStatus).1 with
  | failed code => exact ⟨_, rfl⟩
  | done => simp only [outcome_readState, state]
  | state v => simp only [outcome_bind, outcome_alter, after_alter, outcome_readState]

end Service

namespace Controller

variable {s : Scene Controller} {α : Type}

/-- The service manager is found, or was found before. -/
def Finds (s : Scene Controller) : Prop := s.own.ready = true ∨ s.world.platform = .windows

theorem prepare_cases (s : Scene Controller) :
    Finds s ∧ outcome prepare s = .ok () ∧ (after prepare s).world = s.world ∧
        (after prepare s).own = { s.own with ready := true } ∨
      ¬Finds s ∧ ∃ fault, outcome prepare s = .error (.error (.service fault)) := by
  unfold prepare Finds
  cases hr : s.own.ready with
  | true =>
    have same : { s.own with ready := true } = s.own := by rw [← hr]
    simp [outcome_bind, after_bind, hr, same]
  | false =>
    cases hp : s.world.platform <;> simp [outcome_bind, after_bind, hr, hp]

theorem outcome_holding (handle : Nat) (x : Nat → Act Controller α) :
    outcome (holding handle x) s = outcome (x handle) s := by
  rw [holding, outcome_ensure, Service.outcome_closeHandle]

/-- The service manager can be found and opened. -/
structure OpensManager (s : Scene Controller) : Prop where
  found : Finds s
  manager : ∀ code, (s.world.manager.next .openManager).1 ≠ .failed code

/-- The service can be opened. -/
structure OpensService (s : Scene Controller) : Prop extends OpensManager s where
  service : ∀ code, (s.world.manager.next .openService).1 ≠ .failed code

/-- The scene in which something is done with what was opened: the service manager is found, and
what is used up are answers to openings. -/
structure Opened (s t : Scene Controller) : Prop where
  own : t.own = { s.own with ready := true }
  answers : ∀ p, p ≠ .openManager → p ≠ .openService →
    t.world.manager.answers p = s.world.manager.answers p
  state : t.world.manager.state = s.world.manager.state

theorem Opened.next_fst {s t : Scene Controller} (h : Opened s t) {p : Primitive}
    (hm : p ≠ .openManager) (hs : p ≠ .openService) :
    (t.world.manager.next p).1 = (s.world.manager.next p).1 := by
  rw [Manager.next_fst, Manager.next_fst, h.answers p hm hs]

theorem Opened.reported? {s t : Scene Controller} (h : Opened s t) :
    t.world.manager.reported? = s.world.manager.reported? :=
  Manager.reported?_congr (h.answers _ (by decide) (by decide)) h.state

/-- What is done with the service manager is done if it can be opened, and only then. -/
theorem withManager_cases (access : Nat) (x : Nat → Act Controller α) (s : Scene Controller) :
    OpensManager s ∧
      (∃ handle t, outcome (withManager access x) s = outcome (x handle) t ∧
        t.own = { s.own with ready := true } ∧
        Manager.AgreeBut .openManager s.world.manager t.world.manager) ∨
    ¬OpensManager s ∧
      ∃ fault, outcome (withManager access x) s = .error (.error (.service fault)) := by
  rcases prepare_cases s with ⟨hf, hok, hw, ready⟩ | ⟨hf, fault, he⟩
  · rw [withManager, outcome_bind, hok, ← hw]
    dsimp only
    rw [outcome_bind]
    by_cases hm : ∀ code, (s.world.manager.next .openManager).1 ≠ .failed code
    · obtain ⟨handle, ho, own, agree⟩ :
          ∃ handle, outcome (Service.openManager access) (after prepare s) = .ok handle ∧
            (after (Service.openManager access) (after prepare s)).own = (after prepare s).own ∧
            Manager.AgreeBut .openManager (after prepare s).world.manager
              (after (Service.openManager access) (after prepare s)).world.manager :=
        Service.outcome_opening (hw ▸ hm)
      refine .inl ⟨⟨hf, hm⟩, handle, _, ?_, own.trans ready, agree⟩
      rw [ho]
      exact outcome_holding handle x
    · obtain ⟨code, hc⟩ := Classical.not_forall_not.mp hm
      have ho : outcome (Service.openManager access) (after prepare s) = _ :=
        Service.outcome_opening_of_failed (hw ▸ hc)
      exact .inr ⟨fun h => h.manager code hc, _, by rw [ho]⟩
  · refine .inr ⟨fun h => hf h.found, fault, ?_⟩
    rw [withManager, outcome_bind, he]

/-- What is done with the service is done if it can be opened, and only then. -/
theorem withService_cases (access : Nat) (x : Nat → Act Controller α) (s : Scene Controller) :
    OpensService s ∧
      (∃ handle t, outcome (withService access x) s = outcome (x handle) t ∧ Opened s t) ∨
    ¬OpensService s ∧
      ∃ fault, outcome (withService access x) s = .error (.error (.service fault)) := by
  rw [withService]
  rcases withManager_cases Access.connect (fun manager => do
    let service ← Service.openService manager (← Act.own).name access
    holding service x) s with ⟨hm, manager, t, ht, own, agree⟩ | ⟨hm, fault, he⟩
  · rw [ht, outcome_bind, outcome_own, after_own]
    dsimp only
    rw [outcome_bind]
    have next := agree.next_fst (q := .openService) (by decide)
    by_cases hs : ∀ code, (s.world.manager.next .openService).1 ≠ .failed code
    · obtain ⟨service, ho, own', agree'⟩ :
          ∃ service, outcome (Service.openService manager t.own.name access) t = .ok service ∧
            (after (Service.openService manager t.own.name access) t).own = t.own ∧
            Manager.AgreeBut .openService t.world.manager
              (after (Service.openService manager t.own.name access) t).world.manager :=
        Service.outcome_opening (next ▸ hs)
      refine .inl ⟨⟨hm, hs⟩, service, after (Service.openService manager t.own.name access) t,
        ?_, own'.trans own, fun p hm hs => ?_, agree'.state.trans agree.state⟩
      · rw [ho]
        exact outcome_holding service x
      · rw [agree'.answers p hs, agree.answers p hm]
    · obtain ⟨code, hc⟩ := Classical.not_forall_not.mp hs
      have ho : outcome (Service.openService manager t.own.name access) t = _ :=
        Service.outcome_opening_of_failed (next ▸ hc)
      exact .inr ⟨fun h => h.service code hc, _, by rw [ho]⟩
  · exact .inr ⟨fun h => hm h.toOpensManager, fault, he⟩

/-! ### What the two questions come to -/

/-- The service can be opened, and the state reported for it is one that there is none for. -/
structure Unreadable (v : UInt32) (s : Scene Controller) : Prop extends OpensService s where
  reported : s.world.manager.reported? = some v
  unknown : ServiceState.ofNumber? v = none

theorem outcome_guarded (x : Act Controller α) (s : Scene Controller) :
    outcome (guarded x) s =
      match outcome x s with
      | .ok a => .ok (.ok a)
      | .error (.error (.service fault)) => .ok (.error fault)
      | .error raised => .error raised := by
  rw [guarded, outcome_bind, outcome_attempt]
  cases outcome x s with
  | ok a => rfl
  | error raised =>
    cases raised with
    | error e => cases e <;> rfl
    | mishap m => rfl

/-- **Whether the service is installed is always answered.** -/
theorem isInstalled_returns : Returns (fun _ => True) isInstalled := by
  intro s
  have answered :
      ∃ r, outcome (guarded (withService Access.queryStatus fun _ => pure ())) s = .ok r := by
    rw [outcome_guarded]
    rcases withService_cases Access.queryStatus (fun _ => pure ()) s with
      ⟨-, _, t, ht, -⟩ | ⟨-, fault, he⟩
    · exact ⟨_, by rw [ht]; rfl⟩
    · exact ⟨_, by rw [he]⟩
  obtain ⟨r, hr⟩ := answered
  rw [isInstalled, outcome_bind, outcome_own, after_own]
  dsimp only
  rw [outcome_bind, hr]
  cases r with
  | ok u => exact ⟨true, rfl, trivial⟩
  | error fault =>
    refine ⟨false, ?_, trivial⟩
    dsimp only
    split <;> rfl

/-- The service is said to run if a query says so. -/
theorem outcome_isRunning (s : Scene Controller) :
    outcome isRunning s =
      (outcome (guarded (withService Access.queryStatus Service.query)) s).map
        fun r => decide (r.toOption = some ServiceState.running) := by
  unfold isRunning queryState
  simp only [outcome_bind, outcome_own, after_own]
  cases outcome (guarded (withService Access.queryStatus Service.query)) s with
  | ok r => cases r <;> rfl
  | error raised => rfl

/-- **Whether the service runs is answered**, unless a state is reported that there is none for. -/
theorem isRunning_cases (s : Scene Controller) :
    (∃ v, Unreadable v s ∧ outcome isRunning s = .error (.mishap (.unknownState v))) ∨
      (∀ v, ¬Unreadable v s) ∧ ∃ yes, outcome isRunning s = .ok yes := by
  rw [outcome_isRunning, outcome_guarded]
  rcases withService_cases Access.queryStatus Service.query s with
    ⟨hs, service, t, ht, opened⟩ | ⟨hs, fault, he⟩
  · have hq := Service.outcome_query service (s := t)
    rw [ht]
    rw [opened.reported?] at hq
    cases hv : s.world.manager.reported? with
    | none =>
      rw [hv] at hq
      obtain ⟨fault, hq⟩ := hq
      rw [hq]
      exact .inr ⟨fun v h => (nomatch hv.symm.trans h.reported), _, rfl⟩
    | some v =>
      rw [hv] at hq
      dsimp only [Service.told] at hq
      cases hu : ServiceState.ofNumber? v with
      | none =>
        rw [hu] at hq
        rw [hq]
        exact .inl ⟨v, ⟨hs, hv, hu⟩, rfl⟩
      | some state =>
        rw [hu] at hq
        rw [hq]
        refine .inr ⟨fun w h => ?_, _, rfl⟩
        obtain rfl : v = w := Option.some.inj (hv.symm.trans h.reported)
        exact nomatch hu.symm.trans h.unknown
  · rw [he]
    exact .inr ⟨fun v h => hs h.toOpensService, _, rfl⟩

end Controller

end Vigil
