import Vigil.Proofs.Service.Waiting

/-!
# Uninstalling always gets to the deletion

To uninstall a service is to open it, to tell it to stop if it reports that it runs, and to delete
it. What the query and the order to stop come to decides what is done before the deletion, and
never whether it is tried: the errors that get out are those of the opening and of the deletion.

* `Controller.withService_refused`: what happens where the service cannot be opened.
* `Controller.stopBefore_reaches`: what is done before the deletion, and that it always returns.
* **`Controller.uninstall_deletes`**: the calls of an uninstallation, and how it ends.
-/

namespace Vigil

open Act

/-- The call deletes a service. -/
def Event.isDeletion : Event → Bool
  | .deleteService .. => true
  | _ => false

/-- A failure is not followed by anything. -/
theorem Act.Comes.error_bind {σ α β : Type} {s : Scene σ} {x : Act σ α} {f : α → Act σ β}
    {raised : Raised} {t : List Event} (h : Comes s x (.error raised) t) :
    Comes s (x >>= f) (.error raised) t := by
  constructor
  · rw [outcome_bind, h.outcome]
  · rw [after_bind, h.outcome]
    exact h.events

/-- A query uses up no answer to another call. -/
theorem Manager.answers_polled (m : Manager) {p : Primitive} (h : p ≠ .queryStatus) :
    m.polled.answers p = m.answers p := by
  have agree := (Manager.AgreeBut.next m .queryStatus).answers p h
  unfold polled
  cases e : m.next .queryStatus with
  | mk answer rest =>
    rw [e] at agree
    cases answer <;> exact agree

/-- What a call that does something comes to where this is the answer. -/
def Answer.ending (action : String) : Answer → Except Raised Unit
  | .failed code => .error (.error (.service (.call action code)))
  | _ => .ok ()

namespace Service

variable {σ : Type} {s : Scene σ} {p : Primitive}

/-- An opening that fails is one call, which shows no handle. -/
theorem opening_refused {event : Option Nat → Event} {action : String} {code : Int}
    (failed : (s.world.manager.next p).1 = .failed code) :
    Comes s (opening p event action) (.error (.error (.service (.call action code))))
      [event none] := by
  have fails : outcome (opening p event action) s = _ := outcome_opening_of_failed failed
  rcases opening_cases p event action s with ⟨_, -, events⟩ | ⟨_, opens, -⟩
  · exact ⟨fails, events⟩
  · cases fails.symm.trans opens

/-- A call that does something is one call, and comes to what its answer says. -/
theorem doing_comes (s : Scene σ) (p : Primitive) (event : Bool → Event) (action : String) :
    Comes s (doing p event action) ((s.world.manager.next p).1.ending action)
      [event (s.world.manager.next p).1.carriedOut] := by
  refine ⟨?_, events_doing p event action s⟩
  rw [outcome_doing]
  cases (s.world.manager.next p).1 <;> rfl

end Service

namespace Controller

variable {α : Type} {s t : Scene Controller}

/-- A guarded call that does something always returns. -/
theorem guarded_doing (p : Primitive) (event : Bool → Event) (action : String) :
    Reaches s (guarded (Service.doing p event action)) fun _ t =>
      t.own = s.own ∧ Manager.AgreeBut p s.world.manager t.world.manager ∧
        t.world.events = s.world.events ++ [event (s.world.manager.next p).1.carriedOut] := by
  have events := Service.events_doing p event action s
  obtain ⟨own, agree⟩ := Service.after_doing s p event action
  obtain ⟨r, returns⟩ : ∃ r, outcome (guarded (Service.doing p event action)) s = .ok r := by
    rw [outcome_guarded, Service.outcome_doing]
    cases (s.world.manager.next p).1 <;> exact ⟨_, rfl⟩
  refine ⟨r, returns, ?_⟩
  rw [after_guarded]
  exact ⟨own, agree, events⟩

/-! ## Where the service cannot be opened -/

/-- The service could not be opened: the error of the call that failed, and the calls by then. -/
inductive Unopened (access : Nat) (s : Scene Controller) : ServiceFault → List Event → Prop
  | manager {code : Int} (failed : (s.world.manager.next .openManager).1 = .failed code) :
      Unopened access s (.call "open the service control manager" code)
        [.openManager Access.connect none]
  | service {code : Int} (opens : OpensManager s)
      (failed : (s.world.manager.next .openService).1 = .failed code) (manager : Nat)
      (done : Bool) :
      Unopened access s (.call s!"open service '{s.own.name}'" code)
        [.openManager Access.connect (some manager),
          .openService manager s.own.name access none, .closeHandle manager done]

/-- **Nothing is done with a service that cannot be opened**: what gets out is the error of the
opening that failed. -/
theorem withService_refused (access : Nat) (x : Nat → Act Controller α) (found : Finds s)
    (closed : ¬OpensService s) :
    ∃ fault calls, Unopened access s fault calls ∧
      Comes s (withService access x) (.error (.error (.service fault))) calls := by
  obtain ⟨-, prepared, world, ready⟩ := (prepare_cases s).resolve_right fun h => h.1 found
  have prepares : (after prepare s).world.events = s.world.events := congrArg World.events world
  by_cases opens : OpensManager s
  · obtain ⟨code, failed⟩ : ∃ code, (s.world.manager.next .openService).1 = .failed code :=
      Classical.not_forall_not.mp fun h => closed ⟨opens, h⟩
    obtain ⟨manager, hm, own, agree, first⟩ : Reaches (after prepare s)
        (Service.openManager Access.connect) _ := Service.opening_opens (world ▸ opens.manager)
    generalize hu : after (Service.openManager Access.connect) (after prepare s) = u
      at own agree first
    have name : u.own.name = s.own.name := by rw [own, ready]
    have next : (u.world.manager.next .openService).1 = .failed code := by
      rw [agree.next_fst (by decide), world, failed]
    have inside : Comes u (do
        let service ← Service.openService manager (← Act.own).name access
        holding service x) _ _ :=
      .silent_bind ⟨u.own, rfl, rfl, .error_bind (Service.opening_refused next)⟩
    obtain ⟨done, outer⟩ := comes_holding manager (x := fun manager => do
      let service ← Service.openService manager (← Act.own).name access
      holding service x) inside
    rw [name] at outer
    exact ⟨_, _, .service opens failed manager done, .silent_bind ⟨(), prepared, prepares,
      .bind (t := [_]) ⟨manager, hm, hu ▸ first, hu ▸ outer⟩⟩⟩
  · obtain ⟨code, failed⟩ : ∃ code, (s.world.manager.next .openManager).1 = .failed code :=
      Classical.not_forall_not.mp fun h => opens ⟨found, h⟩
    have next : ((after prepare s).world.manager.next .openManager).1 = .failed code := by
      rw [world, failed]
    exact ⟨_, _, .manager failed, .silent_bind ⟨(), prepared, prepares,
      .error_bind (Service.opening_refused next)⟩⟩

/-! ## The calls of an uninstallation -/

/-- What is done before the service is deleted: its state is asked for, and if it is told that it
runs, one order to stop is given, whatever comes of it, and one sleep follows. -/
def beforeDeletion (s : Scene Controller) (service : Nat) : List Event :=
  .queryStatus service s.world.manager.reported? ::
    if ServiceState.running.reachedBy s.world.manager.reported? then
      [.controlService service (s.world.manager.next .controlService).1.carriedOut,
        .sleep s.own.grace]
    else []

theorem beforeDeletion_eq (opened : Opened s t) (service : Nat) :
    beforeDeletion t service = beforeDeletion s service := by
  have grace : t.own.grace = s.own.grace := by rw [opened.own]
  unfold beforeDeletion
  rw [opened.reported?, opened.next_fst (by decide) (by decide), grace]

/-- The order to stop and the sleep behind it: they are followed by what follows, whatever comes
of the order. -/
theorem stopBefore_running {service : Nat} :
    Reaches s (do
      if let .error fault ← guarded (Service.stop service) then
        log Level.warning s!"Stop request before uninstall failed: {fault.message}"
      Act.sleep (← Act.own).grace) fun _ t =>
      t.world.manager.answers .deleteService = s.world.manager.answers .deleteService ∧
        t.world.events = s.world.events ++
          [.controlService service (s.world.manager.next .controlService).1.carriedOut,
            .sleep s.own.grace] := by
  refine .bind ((guarded_doing .controlService (.controlService service) "stop service").mono ?_)
  rintro r t ⟨own, agree, events⟩
  have slept (w : World) (manager : w.manager = t.world.manager)
      (same : w.events = t.world.events) :
      Reaches ⟨w, t.own⟩ (do Act.sleep (← Act.own).grace : Act Controller Unit) fun _ u =>
        u.world.manager.answers .deleteService = s.world.manager.answers .deleteService ∧
          u.world.events = s.world.events ++
            [.controlService service (s.world.manager.next .controlService).1.carriedOut,
              .sleep s.own.grace] := by
    refine .bind ⟨t.own, rfl, (), rfl, ?_, ?_⟩
    · exact (congrArg (Manager.answers · _) manager).trans (agree.answers _ (by decide))
    · rw [after_own, after_sleep, World.events_sleep, same, events, own, List.append_assoc]
      rfl
  cases r with
  | ok u => exact slept t.world rfl rfl
  | error fault => exact .bind ⟨(), rfl, slept _ (World.manager_log ..) (World.events_log ..)⟩

/-- **What is done before the deletion always returns**, and uses up no answer to the deletion. -/
theorem stopBefore_reaches (service : Nat)
    (known : ∀ value, s.world.manager.reported? = some value →
      (ServiceState.ofNumber? value).isSome = true) :
    Reaches s (stopBefore service) fun _ t =>
      t.world.manager.answers .deleteService = s.world.manager.answers .deleteService ∧
        t.world.events = s.world.events ++ beforeDeletion s service := by
  refine .bind ((guarded_query service known).mono ?_)
  rintro r t ⟨read, own, manager, events⟩
  have kept {p : Primitive} (h : p ≠ .queryStatus) :
      t.world.manager.answers p = s.world.manager.answers p := by
    rw [manager, Manager.answers_polled _ h]
  unfold beforeDeletion
  cases r with
  | error fault =>
    have read : none = ServiceState.ofReport? s.world.manager.reported? := read
    have halted : ServiceState.running.reachedBy s.world.manager.reported? = false :=
      decide_eq_false fun h => nomatch read.trans h
    rw [halted, if_neg (by decide)]
    refine ⟨(), rfl, ?_, (World.events_log ..).trans events⟩
    exact (congrArg (Manager.answers · _) (World.manager_log ..)).trans (kept (by decide))
  | ok state =>
    have read : some state = ServiceState.ofReport? s.world.manager.reported? := read
    dsimp only
    split
    · rename_i running
      subst running
      have runs : ServiceState.running.reachedBy s.world.manager.reported? = true :=
        decide_eq_true read.symm
      rw [runs, if_pos rfl]
      refine stopBefore_running.mono fun _ u ⟨kept', events'⟩ => ⟨?_, ?_⟩
      · rw [kept', kept (by decide)]
      · rw [events', events, own, Manager.next_fst, Manager.next_fst, kept (by decide),
          List.append_assoc]
        rfl
    · rename_i other
      have halted : ServiceState.running.reachedBy s.world.manager.reported? = false :=
        decide_eq_false fun h => other (Option.some.inj (read.trans h))
      rw [halted, if_neg (by decide)]
      exact .pure ⟨kept (by decide), events⟩

/-- The rights that the service is opened with to be deleted. -/
def removalAccess : Nat := Access.stop ||| Access.queryStatus ||| Access.delete

/-- What is done with the service that is opened to be deleted. -/
def removalCalls (s : Scene Controller) (service : Nat) : List Event :=
  beforeDeletion s service ++
    [.deleteService service (s.world.manager.next .deleteService).1.carriedOut]

/-- With the service the deletion is always come to. -/
theorem removal_comes (opened : Opened s t) (service : Nat)
    (known : ∀ value, s.world.manager.reported? = some value →
      (ServiceState.ofNumber? value).isSome = true) :
    Comes t (do
      stopBefore service
      Service.delete service)
      ((s.world.manager.next .deleteService).1.ending "delete service")
      (removalCalls s service) := by
  have reaches := stopBefore_reaches (s := t) service (opened.reported? ▸ known)
  rw [beforeDeletion_eq opened] at reaches
  refine .bind (reaches.mono fun _ u ⟨kept, events⟩ => ⟨events, ?_⟩)
  have same : (u.world.manager.next .deleteService).1 =
      (s.world.manager.next .deleteService).1 := by
    rw [Manager.next_fst, kept, ← Manager.next_fst, opened.next_fst (by decide) (by decide)]
  exact same ▸ Service.doing_comes u .deleteService (.deleteService service) "delete service"

/-- What is done with the service, and a message if it was done, are an uninstallation. -/
theorem uninstall_comes {ending : Except Raised Unit} {calls : List Event}
    (h : Comes s (withService removalAccess fun service => do
      stopBefore service
      Service.delete service) ending calls) :
    Comes s (perform .uninstall) (ending.map fun _ => Reply.nothing) calls := by
  have logged : Comes s uninstall (ending.map id) calls :=
    h.bind_silent fun _ _ => ⟨rfl, World.events_log ..⟩
  rw [show ending.map id = ending from congrFun Except.map_id ending] at logged
  exact logged.bind_silent fun _ _ => ⟨rfl, rfl⟩

/-! ## The theorem -/

/-- The errors that keep a service from being deleted: that of the opening that failed, and that of
the deletion. -/
inductive Prevents (s : Scene Controller) : ServiceFault → Prop
  | opening {fault : ServiceFault} {calls : List Event}
      (unopened : Unopened removalAccess s fault calls) : Prevents s fault
  | deletion {code : Int} (opens : OpensService s)
      (failed : (s.world.manager.next .deleteService).1 = .failed code) :
      Prevents s (.call "delete service" code)

theorem Unopened.no_deletion {access : Nat} {fault : ServiceFault} {calls : List Event}
    (h : Unopened access s fault calls) : ∀ e ∈ calls, e.isDeletion = false := by
  cases h <;> simp [Event.isDeletion]

/-- The one deletion among the calls of a service that was opened. -/
theorem deletions_withinService (name : String) (access manager service : Nat) (done done' : Bool) :
    (withinService name access manager service done done' (removalCalls s service)).filter
        Event.isDeletion =
      [.deleteService service (s.world.manager.next .deleteService).1.carriedOut] := by
  unfold withinService removalCalls beforeDeletion
  split <;> rfl

/-- The service is deleted exactly if the deletion was carried out. -/
theorem deleted_iff (name : String) (access manager service : Nat) (done done' : Bool) :
    (∃ number, .deleteService number true ∈ withinService name access manager service done done'
        (removalCalls s service)) ↔
      (s.world.manager.next .deleteService).1.carriedOut = true := by
  have among (number : Nat) : .deleteService number true ∈ withinService name access manager service
      done done' (removalCalls s service) ↔ (.deleteService number true : Event) ∈
        [.deleteService service (s.world.manager.next .deleteService).1.carriedOut] := by
    rw [← deletions_withinService, List.mem_filter]
    exact ⟨fun h => ⟨h, rfl⟩, And.left⟩
  simp only [among, List.mem_singleton, Event.deleteService.injEq]
  exact ⟨fun ⟨_, _, h⟩ => h.symm, fun h => ⟨service, rfl, h.symm⟩⟩

/-- **An uninstallation deletes the service once if it can be opened, and never otherwise.** Before
the deletion stand the query and, exactly if that is told that the service runs, one order to stop
and one sleep behind it. It ends well if the service was deleted; otherwise it ends with the error
of the opening or of the deletion that failed, never with that of the query or of the order. -/
theorem uninstall_deletes (s : Scene Controller) (found : Finds s)
    (known : ∀ value, s.world.manager.reported? = some value →
      (ServiceState.ofNumber? value).isSome = true) :
    ∃ t, (after (perform .uninstall) s).world.events = s.world.events ++ t ∧
      (OpensService s → (t.filter Event.isDeletion).length = 1 ∧
        ∃ manager service done done', t = withinService s.own.name removalAccess manager service
          done done' (removalCalls s service)) ∧
      (¬OpensService s → (t.filter Event.isDeletion).length = 0 ∧
        ∃ fault, Unopened removalAccess s fault t) ∧
      (outcome (perform .uninstall) s = .ok .nothing ∧ (∃ service, .deleteService service true ∈ t) ∨
        ∃ fault, outcome (perform .uninstall) s = .error (.error (.service fault)) ∧
          Prevents s fault ∧ ∀ service, .deleteService service true ∉ t) := by
  by_cases opens : OpensService s
  · obtain ⟨manager, service, done, done', within⟩ := withService_comes removalAccess opens
      fun service t opened => removal_comes opened service known
    have comes := uninstall_comes within
    have deleted := deleted_iff (s := s) s.own.name removalAccess manager service done done'
    refine ⟨_, comes.events, fun _ => ⟨by rw [deletions_withinService]; rfl, _, _, _, _, rfl⟩,
      fun closed => absurd opens closed, ?_⟩
    rw [comes.outcome, deleted]
    cases e : (s.world.manager.next .deleteService).1 with
    | failed code =>
      refine .inr ⟨_, rfl, .deletion opens e, fun number h => ?_⟩
      exact nomatch e ▸ deleted.mp ⟨number, h⟩
    | done => exact .inl ⟨rfl, rfl⟩
    | state value => exact .inl ⟨rfl, rfl⟩
  · obtain ⟨fault, t, unopened, within⟩ := withService_refused removalAccess (fun service => do
      stopBefore service
      Service.delete service) found opens
    have comes := uninstall_comes within
    have none := unopened.no_deletion
    refine ⟨t, comes.events, fun h => absurd h opens, fun _ => ⟨?_, fault, unopened⟩,
      .inr ⟨fault, comes.outcome, .opening unopened, fun service h => ?_⟩⟩
    · rw [List.filter_eq_nil_iff.mpr fun e he => by simp [none e he], List.length_nil]
    · exact nomatch none _ h

/-- A service that runs and refuses to stop is deleted all the same. -/
theorem uninstall_deletes_unstopped :
    let manager : Manager :=
      { answers := fun p => if p = .controlService then [.failed 5] else [], state := 4 }
    let s : Scene Controller := ⟨{ manager }, {}⟩
    Finds s ∧ (∀ value, s.world.manager.reported? = some value →
        (ServiceState.ofNumber? value).isSome = true) ∧
      outcome (perform .uninstall) s = .ok .nothing := by
  intro manager s
  have found : Finds s := .inr rfl
  have reported : s.world.manager.reported? = some 4 := rfl
  have known : ∀ value, s.world.manager.reported? = some value →
      (ServiceState.ofNumber? value).isSome = true := fun value h => by
    obtain rfl : 4 = value := Option.some.inj (reported.symm.trans h)
    rfl
  refine ⟨found, known, ?_⟩
  obtain ⟨t, -, -, -, ⟨returns, -⟩ | ⟨fault, -, prevents, -⟩⟩ := uninstall_deletes s found known
  · exact returns
  · cases prevents with
    | opening unopened =>
      cases unopened with
      | manager failed => cases failed
      | service opens failed => cases failed
    | deletion opens failed => cases failed

end Controller

end Vigil
