import Vigil.Proofs.Service.Waiting

/-!
# The last state that was told

The states that queries are told stand among the events, one after the other, whichever operation
makes the queries. What the controller says of the state of the service is the last one of them: the
question for the state gives the state that it was told, and so does a start that was waited for. An
operation that is told none says nothing new.

* `Manager.Orderly`: the service manager tells states that there are, or fails.
* `lastState`: the last state that queries were told.
* `Controller.isRunning_follows`: whether the service runs is answered with what was told last.
* `Controller.start_follows`: a start that returns gives what was told last, and it is that the
  service runs exactly if some report is.
-/

namespace Vigil

open Act

/-! ## States that there are -/

/-- The service manager tells states that there are, or fails: its answers to queries are such, and
so is the state the service is in. -/
structure Manager.Orderly (m : Manager) : Prop where
  state : (ServiceState.ofNumber? m.state).isSome = true
  answers : ∀ value, .state value ∈ m.answers .queryStatus →
    (ServiceState.ofNumber? value).isSome = true

namespace Manager.Orderly

variable {m n : Manager}

theorem congr (h : m.Orderly) (answers : n.answers .queryStatus = m.answers .queryStatus)
    (state : n.state = m.state) : n.Orderly :=
  ⟨state ▸ h.state, fun value hv => h.answers value (answers ▸ hv)⟩

theorem known (h : m.Orderly) {value : UInt32} (reported : m.reported? = some value) :
    (ServiceState.ofNumber? value).isSome = true := by
  unfold reported? at reported
  rw [next_fst] at reported
  cases e : m.answers .queryStatus with
  | nil =>
    rw [e] at reported
    exact Option.some.inj reported ▸ h.state
  | cons answer rest =>
    rw [e, List.headD_cons] at reported
    cases answer with
    | done => exact Option.some.inj reported ▸ h.state
    | failed code => cases reported
    | state told =>
      exact Option.some.inj reported ▸ h.answers _ (e ▸ List.mem_cons_self)

theorem polled (h : m.Orderly) : m.polled.Orderly := by
  unfold Manager.polled next
  cases e : m.answers .queryStatus with
  | nil => exact h
  | cons answer rest =>
    have left (value : UInt32) (hv : .state value ∈ rest) :
        (ServiceState.ofNumber? value).isSome = true :=
      h.answers value (e ▸ List.mem_cons_of_mem _ hv)
    cases answer with
    | done => exact ⟨h.state, by simpa using left⟩
    | failed code => exact ⟨h.state, by simpa using left⟩
    | state told => exact ⟨h.answers told (e ▸ List.mem_cons_self), by simpa using left⟩

/-- However often it is asked, it tells states that there are. -/
theorem told (h : m.Orderly) (queries : Nat) : ServiceState.Told (m.reports queries) := by
  induction queries generalizing m with
  | zero => exact fun _ hv => (List.not_mem_nil hv).elim
  | succ queries ih =>
    intro value hv
    rcases List.mem_cons.mp hv with reported | hv
    · exact h.known reported.symm
    · exact ih h.polled value hv

end Manager.Orderly

/-! ## What events tell -/

/-- What a query was told, if the event is one. -/
def Event.report? : Event → Option (Option UInt32)
  | .queryStatus _ report => some report
  | _ => none

/-- The last state that the queries among some events were told. -/
def lastState (events : List Event) : Option ServiceState :=
  ServiceState.lastOf (events.filterMap Event.report?)

section

variable {l : List Event} {service : Nat} {interval : Float} {target : ServiceState}
  {reports : List (Option UInt32)}

theorem lastState_append (l later : List Event) :
    lastState (l ++ later) = (lastState later).or (lastState l) := by
  rw [lastState, List.filterMap_append, ServiceState.lastOf_append]
  rfl

theorem lastState_of_no_query (h : l.countP Event.isQuery = 0) : lastState l = none := by
  have none_told : l.filterMap Event.report? = [] := by
    refine List.filterMap_eq_nil_iff.mpr fun e he => ?_
    have other := List.countP_eq_zero.mp h e he
    cases e <;> first | rfl | exact absurd rfl other
  rw [lastState, none_told]
  rfl

theorem lastState_query (service : Nat) (report : Option UInt32) (later : List Event) :
    lastState (.queryStatus service report :: later) =
      (lastState later).or (ServiceState.ofReport? report) := ServiceState.lastOf_cons _ _

/-- Polling is told the target, or the last of the states. -/
theorem lastState_pollCalls :
    lastState (pollCalls service interval target reports) =
      if reports.any target.reachedBy then some target else ServiceState.lastOf reports := by
  induction reports with
  | nil => rfl
  | cons report reports ih =>
    cases h : target.reachedBy report with
    | true =>
      rw [pollCalls_reached h, lastState_query, of_decide_eq_true h]
      simp [h, lastState, ServiceState.lastOf]
    | false =>
      have slept (calls : List Event) :
          lastState (.sleep interval :: calls) = lastState calls := rfl
      rw [pollCalls_vain h, lastState_query, slept, ih, ServiceState.lastOf_cons, List.any_cons, h,
        Bool.false_or]
      split <;> rfl

/-- The calls around what is done with the service tell nothing. -/
theorem lastState_withinService (name : String) (access manager service : Nat) (done done' : Bool)
    (calls : List Event) :
    lastState (Controller.withinService name access manager service done done' calls) =
      lastState calls := by
  have opening : lastState [.openManager Access.connect (some manager),
      .openService manager name access (some service)] = none := rfl
  have closing : lastState [.closeHandle service done, .closeHandle manager done'] = none := rfl
  rw [Controller.withinService, lastState_append, lastState_append, closing, opening,
    Option.none_or, Option.or_none]

/-- Waiting that ends gives what it was told last; that is the target exactly if a report is. -/
theorem eq_of_waitEnding (service : Nat) (interval : Float) {attempts : Int} {state : Option ServiceState}
    (ends : Controller.waitEnding target attempts reports = .ok state) :
    lastState (pollCalls service interval target reports) = state ∧
      (state = some target ↔ ∃ report ∈ reports, target.reachedBy report = true) := by
  rw [lastState_pollCalls]
  unfold Controller.waitEnding at ends
  by_cases reached : reports.any target.reachedBy = true
  · rw [if_pos reached] at ends ⊢
    cases ends
    exact ⟨rfl, iff_of_true rfl (List.any_eq_true.mp reached)⟩
  · rw [if_neg reached] at ends ⊢
    cases seconds : Number.ofInt? attempts with
    | none =>
      rw [seconds] at ends
      cases ends
    | some value =>
      rw [seconds] at ends
      cases ends
      refine ⟨rfl, fun last => ?_, fun told => absurd (List.any_eq_true.mpr told) reached⟩
      obtain ⟨report, hr, told⟩ := List.mem_filterMap.mp (List.mem_of_getLast? last)
      exact ⟨report, hr, decide_eq_true told⟩

end

/-! ## What is told along an operation -/

/-- Since some events this is the last state that was told, and the states that are to be told are
ones that there are. -/
structure Following {σ : Type} (before : List Event) (seen : Option ServiceState)
    (s : Scene σ) : Prop where
  orderly : s.world.manager.Orderly
  told : ∃ l, s.world.events = before ++ l ∧ lastState l = seen

/-- Nothing was told yet. -/
theorem Following.start {σ : Type} {s : Scene σ} (h : s.world.manager.Orderly) :
    Following s.world.events none s := ⟨h, [], (List.append_nil _).symm, rfl⟩

/-- What uses up no report tells nothing. -/
theorem Following.of_reporting {σ : Type} {before : List Event} {seen : Option ServiceState}
    {s t : Scene σ} (h : Following before seen s) (hr : reporting.holds s t) :
    Following before seen t := by
  obtain ⟨answers, state, l', events', no_query⟩ := hr
  obtain ⟨l, events, last⟩ := h.told
  refine ⟨h.orderly.congr answers state, l ++ l', by rw [events', events, List.append_assoc], ?_⟩
  rw [lastState_append, lastState_of_no_query (Nat.le_zero.mp no_query), last]
  rfl

variable {σ α : Type} {before : List Event} {seen : Option ServiceState}

theorem triple_of_reporting {x : Act σ α} (h : Respects reporting x) :
    Triple (Following before seen) x (fun _ => Following before seen) (Following before seen) :=
  .of_after fun s hs => hs.of_reporting (h s)

namespace Service

/-- A query returns the state that it is told. -/
theorem toOption_query (service : Nat) (s : Scene σ) :
    (outcome (query service) s).toOption = ServiceState.ofReport? s.world.manager.reported? := by
  have asked := outcome_query service (s := s)
  cases reported : s.world.manager.reported? with
  | none =>
    rw [reported] at asked
    obtain ⟨fault, fails⟩ := asked
    rw [fails]
    rfl
  | some value =>
    rw [reported] at asked
    dsimp only [told] at asked
    rw [asked, ServiceState.ofReport?, Option.bind_some]
    cases ServiceState.ofNumber? value <;> rfl

/-- A query tells the state that it returns, and nothing if it fails. -/
theorem query_follows (service : Nat) :
    Triple (Following before seen) (query service : Act σ ServiceState)
      (fun state => Following before (some state)) (Following before seen) := by
  have leads (s : Scene σ) (h : Following before seen s) :
      Following before ((outcome (query service) s).toOption.or seen)
        (after (query service) s) := by
    obtain ⟨l, events, last⟩ := h.told
    have queried := (after_query service s).2
    rw [events, List.append_assoc] at queried
    refine ⟨manager_query service s ▸ h.orderly.polled, _, queried, ?_⟩
    rw [lastState_append, last, toOption_query, lastState_query]
    rfl
  refine .intro (fun s state hs returns => ?_) fun s raised hs fails => ?_
  · have h := leads s hs
    rwa [returns] at h
  · have h := leads s hs
    rwa [fails] at h

/-- Handles are given back without fail, and that tells nothing. -/
theorem closeHandle_follows (handle : Nat) {E : Scene σ → Prop} :
    Triple (Following before seen) (closeHandle handle : Act σ Unit)
      (fun _ => Following before seen) E :=
  .intro (fun s _ hs _ => hs.of_reporting (reporting_closeHandle handle s)) fun _ _ _ fails =>
    nomatch (outcome_closeHandle handle).symm.trans fails

end Service

namespace Controller

theorem holding_follows {x : Nat → Act Controller α} {f : α → Option ServiceState} {handle : Nat}
    (h : Triple (Following before seen) (x handle) (fun a => Following before (f a))
      (Following before seen)) :
    Triple (Following before seen) (holding handle x) (fun a => Following before (f a))
      (Following before seen) :=
  h.ensure (fun _ => Service.closeHandle_follows handle) (Service.closeHandle_follows handle)

theorem withService_follows (access : Nat) {x : Nat → Act Controller α}
    {f : α → Option ServiceState}
    (h : ∀ service, Triple (Following before seen) (x service) (fun a => Following before (f a))
      (Following before seen)) :
    Triple (Following before seen) (withService access x) (fun a => Following before (f a))
      (Following before seen) :=
  .bind (triple_of_reporting reporting_prepare) fun _ =>
    .bind (triple_of_reporting (reporting_openManager _)) fun manager => holding_follows <|
      .bind (triple_of_reporting .own) fun c =>
        .bind (triple_of_reporting (reporting_openService manager c.name access)) fun service =>
          holding_follows (h service)

theorem guarded_follows {x : Act Controller α} {f : α → Option ServiceState}
    {E : Scene Controller → Prop}
    (h : Triple (Following before seen) x (fun a => Following before (f a))
      (Following before seen)) (hE : ∀ s, Following before seen s → E s) :
    Triple (Following before seen) (guarded x)
      (fun r => Following before ((r.toOption.map f).getD seen)) E := by
  refine .bind (E := E) (h.attempt (Q := fun r => Following before ((r.toOption.map f).getD seen))
    fun _ _ hs => hs) fun r => ?_
  split
  · exact .pure fun _ hs => hs
  · exact .pure fun _ hs => hs
  · exact .throw hE

/-- The question for the state gives what it was told. -/
theorem queryState_follows :
    Triple (Following before seen) queryState
      (fun state => Following before (state.or seen)) (Following before seen) := by
  have asked : Triple (Following before seen)
      (guarded (withService Access.queryStatus Service.query))
      (fun r => Following before ((r.toOption.map some).getD seen)) (Following before seen) :=
    guarded_follows (withService_follows _ Service.query_follows) fun _ hs => hs
  refine .bind (triple_of_reporting .own) fun c => .bind asked fun r => ?_
  split
  · exact .pure fun _ hs => hs
  · exact .bind (triple_of_reporting (Service.reporting_log _ _ _ _)) fun _ => .pure fun _ hs => hs

/-- **Whether the service runs is answered with what was told last.** -/
theorem isRunning_follows {s : Scene Controller} {running : Bool}
    (h : Following before none s) (answered : outcome isRunning s = .ok running) :
    ∃ state, Following before state (after isRunning s) ∧
      (running = true ↔ state = some .running) := by
  have asked : Triple (Following before none) isRunning
      (fun running t => ∃ state, Following before state t ∧
        (running = true ↔ state = some .running)) (Following before none) := by
    refine .bind queryState_follows fun state => .pure fun t ht => ⟨state, ?_, decide_eq_true_iff⟩
    rwa [Option.or_none] at ht
  exact asked.of_ok h answered

/-- **A start that returns gives what was told last**, if anything was told; and it is that the
service runs exactly if a report says so while it is waited for. -/
theorem start_follows {s : Scene Controller} {state : Option ServiceState}
    (h : Following before seen s) (returns : outcome Controller.start s = .ok state) :
    (∃ l, (after Controller.start s).world.events = before ++ l ∧
        lastState l = state.or seen) ∧
      (state = some .running ↔
        ∃ report ∈ Order.sees s, ServiceState.running.reachedBy report = true) := by
  have accepted : Order.start.Accepted s := by
    have ends := Order.start_ends s
    rw [returns] at ends
    cases ends with
    | done accepted => exact accepted
  obtain ⟨manager, service, done, done', comes⟩ :=
    Order.start_observes ⟨accepted, nofun⟩ (h.orderly.told _)
  have ending : waitEnding .running s.own.attempts (Order.sees s) = .ok state :=
    comes.outcome.symm.trans returns
  obtain ⟨last, runs⟩ := eq_of_waitEnding service s.own.interval ending
  obtain ⟨l, events, seen_last⟩ := h.told
  refine ⟨⟨l ++ _, comes.events.trans (by rw [events, List.append_assoc]), ?_⟩, runs⟩
  have commanded (done : Bool) (calls : List Event) :
      lastState (Order.start.event service done :: calls) = lastState calls := rfl
  rw [lastState_append, seen_last, lastState_withinService, Order.calls, commanded]
  exact congrArg (·.or seen) last

end Controller

end Vigil
