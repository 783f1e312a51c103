import Mathlib.Data.List.TakeWhile
import Vigil.Proofs.Service.Acceptance
import Vigil.Proofs.Service.Looking

/-!
# What waiting for a state observes

A command that was accepted is waited for: the state is asked for, a bounded number of times, until
it is the awaited one. Every query that was in vain is followed by one sleep, and one that was told
the awaited state ends the waiting. What is told in the end is the awaited state if it was seen, and
otherwise the last state that was, whatever queries failed behind it.

* `Controller.poll_observes`: polling makes these calls and ends like this.
* `Controller.withService_comes`: what is done with the service, between the calls that open it and
  those that give the handles back.
* `Controller.order_observes`: so does an accepted command, unless the seconds that it waited cannot
  be told.
-/

namespace Vigil

open Act

namespace ServiceState

/-- The state that a query was told; it was told none if it failed. -/
def ofReport? (report : Option UInt32) : Option ServiceState := report.bind ofNumber?

/-- The query was told the state. -/
def reachedBy (target : ServiceState) (report : Option UInt32) : Bool :=
  ofReport? report = some target

/-- The last state that queries were told, whatever queries failed. -/
def lastOf (reports : List (Option UInt32)) : Option ServiceState :=
  (reports.filterMap ofReport?).getLast?

/-- The queries are told states that there are, or fail. -/
def Told (reports : List (Option UInt32)) : Prop :=
  ∀ value, some value ∈ reports → (ofNumber? value).isSome = true

theorem lastOf_cons (report : Option UInt32) (reports : List (Option UInt32)) :
    lastOf (report :: reports) = (lastOf reports).or (ofReport? report) := by
  unfold lastOf
  cases h : ofReport? report with
  | none => rw [List.filterMap_cons_none h, Option.or_none]
  | some state => rw [List.filterMap_cons_some h, List.getLast?_cons, Option.or_some]

/-- The last state that later queries were told decides, if they were told one. -/
theorem lastOf_append (before later : List (Option UInt32)) :
    lastOf (before ++ later) = (lastOf later).or (lastOf before) := by
  unfold lastOf
  rw [List.filterMap_append, List.getLast?_append]

end ServiceState

/-! ## Endings and events -/

/-- An action ends like this, and these are the events that it adds. -/
structure Act.Comes {σ α : Type} (s : Scene σ) (x : Act σ α) (ending : Except Raised α)
    (t : List Event) : Prop where
  outcome : Act.outcome x s = ending
  events : (after x s).world.events = s.world.events ++ t

namespace Act.Comes

variable {σ α β : Type} {s : Scene σ} {ending : Except Raised β} {t u : List Event}

theorem silent {x : Act σ β} (outcome : Act.outcome x s = ending)
    (events : (after x s).world.events = s.world.events) : Comes s x ending [] :=
  ⟨outcome, events.trans (List.append_nil _).symm⟩

/-- What comes first adds its events in front. -/
theorem bind {x : Act σ α} {f : α → Act σ β}
    (h : Reaches s x fun a s' => s'.world.events = s.world.events ++ t ∧ Comes s' (f a) ending u) :
    Comes s (x >>= f) ending (t ++ u) := by
  obtain ⟨a, returns, first, rest⟩ := h
  constructor
  · rw [outcome_bind, returns]
    exact rest.outcome
  · rw [after_bind, returns]
    exact rest.events.trans (by rw [first, List.append_assoc])

/-- What comes first may add nothing. -/
theorem silent_bind {x : Act σ α} {f : α → Act σ β}
    (h : Reaches s x fun a s' => s'.world.events = s.world.events ∧ Comes s' (f a) ending u) :
    Comes s (x >>= f) ending u :=
  bind (t := []) (h.mono fun _ _ ⟨first, rest⟩ => ⟨first.trans (List.append_nil _).symm, rest⟩)

/-- What comes last may add nothing and turn a result into another one. -/
theorem bind_silent {x : Act σ α} {f : α → Act σ β} {ending : Except Raised α} {g : α → β}
    (h : Comes s x ending t)
    (hf : ∀ a s', Act.outcome (f a) s' = .ok (g a) ∧
      (after (f a) s').world.events = s'.world.events) :
    Comes s (x >>= f) (ending.map g) t := by
  have outcome := h.outcome
  constructor
  · rw [outcome_bind, outcome]
    cases ending with
    | ok a => exact (hf a _).1
    | error raised => rfl
  · rw [after_bind, outcome]
    cases ending with
    | ok a => exact (hf a _).2.trans h.events
    | error raised => exact h.events

end Act.Comes

/-! ## The calls of polling -/

/-- The calls of queries in vain: a query for each report, and a sleep after it. -/
def vainCalls (service : Nat) (interval : Float) (reports : List (Option UInt32)) : List Event :=
  reports.flatMap fun report => [.queryStatus service report, .sleep interval]

/-- The calls that are made while a state is awaited, where the queries are told these reports: in
vain up to the first report that is of the state, and a query for that. -/
def pollCalls (service : Nat) (interval : Float) (target : ServiceState)
    (reports : List (Option UInt32)) : List Event :=
  vainCalls service interval (reports.takeWhile fun report => !target.reachedBy report) ++
    (reports.find? target.reachedBy).toList.map (.queryStatus service)

section

variable {service : Nat} {interval : Float} {target : ServiceState} {report : Option UInt32}
  {reports : List (Option UInt32)}

theorem pollCalls_reached (h : target.reachedBy report = true) :
    pollCalls service interval target (report :: reports) = [.queryStatus service report] := by
  simp [pollCalls, vainCalls, h]

theorem pollCalls_vain (h : target.reachedBy report = false) :
    pollCalls service interval target (report :: reports) =
      .queryStatus service report :: .sleep interval ::
        pollCalls service interval target reports := by
  simp [pollCalls, vainCalls, h]

theorem pollCalls_of_first {before later : List (Option UInt32)}
    (vain : ∀ r ∈ before, target.reachedBy r = false) (h : target.reachedBy report = true) :
    pollCalls service interval target (before ++ report :: later) =
      vainCalls service interval before ++ [.queryStatus service report] := by
  have passed : ∀ r ∈ before, (!target.reachedBy r) = true := fun r hr => by simp [vain r hr]
  have missed : before.find? target.reachedBy = none :=
    List.find?_eq_none.mpr fun r hr => by simp [vain r hr]
  rw [pollCalls, List.takeWhile_append_of_pos passed, List.find?_append, missed]
  simp [h]

theorem pollCalls_of_none (vain : ∀ r ∈ reports, target.reachedBy r = false) :
    pollCalls service interval target reports = vainCalls service interval reports := by
  have passed : ∀ r ∈ reports, (!target.reachedBy r) = true := fun r hr => by simp [vain r hr]
  have missed : reports.find? target.reachedBy = none :=
    List.find?_eq_none.mpr fun r hr => by simp [vain r hr]
  rw [pollCalls, List.takeWhile_eq_self_iff.mpr passed, missed]
  exact List.append_nil _

end

namespace Controller

variable {α : Type} {s : Scene Controller}

/-- A guarded query returns the state it was told, if it was told one that there is. -/
theorem guarded_query (service : Nat)
    (known : ∀ value, s.world.manager.reported? = some value →
      (ServiceState.ofNumber? value).isSome = true) :
    Reaches s (guarded (Service.query service)) fun r t =>
      r.toOption = ServiceState.ofReport? s.world.manager.reported? ∧
        t.own = s.own ∧ t.world.manager = s.world.manager.polled ∧
        t.world.events = s.world.events ++ [.queryStatus service s.world.manager.reported?] := by
  obtain ⟨own, events⟩ := Service.after_query service s
  have manager := Service.manager_query service s
  have asked := Service.outcome_query service (s := s)
  unfold Reaches
  rw [outcome_guarded, after_guarded]
  cases reported : s.world.manager.reported? with
  | none =>
    rw [reported] at asked events
    obtain ⟨fault, fails⟩ := asked
    rw [fails]
    exact ⟨.error fault, rfl, rfl, own, manager, events⟩
  | some value =>
    rw [reported] at asked events
    obtain ⟨state, hs⟩ := Option.isSome_iff_exists.mp (known value reported)
    dsimp only [Service.told] at asked
    rw [hs] at asked
    rw [asked]
    exact ⟨.ok state, rfl, hs.symm, own, manager, events⟩

/-- What polling gives: the target if a query was told it, and otherwise the last state that was
told, or that was seen before. -/
def pollResult (target : ServiceState) (reports : List (Option UInt32))
    (seen : Option ServiceState) : Option ServiceState × Bool :=
  if reports.any target.reachedBy then (some target, true)
  else ((ServiceState.lastOf reports).or seen, false)

/-- Polling led from one scene to another: its result and its calls are those that the reports call
for. -/
structure Polled (service : Nat) (target : ServiceState) (reports : List (Option UInt32))
    (seen : Option ServiceState) (s : Scene Controller) (result : Option ServiceState × Bool)
    (t : Scene Controller) : Prop where
  result_eq : result = pollResult target reports seen
  own : t.own = s.own
  events : t.world.events =
    s.world.events ++ pollCalls service s.own.interval target reports

section

variable {service : Nat} {target : ServiceState} {seen : Option ServiceState}
  {report : Option UInt32} {reports : List (Option UInt32)} {t u : Scene Controller}

/-- The first report is of the target. -/
theorem Polled.reached (h : target.reachedBy report = true) (own : t.own = s.own)
    (events : t.world.events = s.world.events ++ [.queryStatus service report]) :
    Polled service target (report :: reports) seen s (some target, true) t :=
  ⟨by simp [pollResult, h], own, by rw [events, pollCalls_reached h]⟩

/-- The first report is not of the target, and polling goes on behind a sleep with what was seen by
then. -/
theorem Polled.vain {result : Option ServiceState × Bool}
    (h : target.reachedBy report = false) (own : t.own = s.own)
    (events : t.world.events = s.world.events ++ [.queryStatus service report])
    (rest : Polled service target reports ((ServiceState.ofReport? report).or seen)
      { t with world := t.world.sleep t.own.interval } result u) :
    Polled service target (report :: reports) seen s result u where
  result_eq := by
    rw [rest.result_eq, pollResult, pollResult, ServiceState.lastOf_cons, Option.or_assoc,
      List.any_cons, h, Bool.false_or]
  own := rest.own.trans own
  events := by
    rw [rest.events, World.events_sleep, events, own, pollCalls_vain h]
    simp

end

/-- **Polling makes the calls that its reports call for**, and gives the last state they tell. -/
theorem poll_observes (service : Nat) (target : ServiceState) (queries : Nat)
    (seen : Option ServiceState) {reports : List (Option UInt32)}
    (told : s.world.manager.reports queries = reports) (known : ServiceState.Told reports) :
    Reaches s (poll service target queries seen) (Polled service target reports seen s) := by
  induction queries generalizing s seen reports with
  | zero =>
    subst told
    exact .pure ⟨rfl, rfl, (List.append_nil _).symm⟩
  | succ queries ih =>
    subst told
    have first (value : UInt32) (h : s.world.manager.reported? = some value) :=
      known value (h ▸ List.mem_cons_self)
    refine .bind ((guarded_query service first).mono ?_)
    rintro r t ⟨read, own, manager, events⟩
    have rest (later : Option ServiceState) (w : World) (hw : w.manager = t.world.manager) :
        Reaches ⟨w.sleep t.own.interval, t.own⟩ (poll service target queries later)
          (Polled service target (s.world.manager.polled.reports queries) later
            ⟨w.sleep t.own.interval, t.own⟩) := by
      refine ih later ?_ fun value h => known value (List.mem_cons_of_mem _ h)
      show w.manager.reports queries = _
      rw [hw, manager]
    cases r with
    | ok state =>
      have read : ServiceState.ofReport? s.world.manager.reported? = some state := read.symm
      dsimp only
      split
      · rename_i reached
        subst reached
        exact .pure (.reached (decide_eq_true read) own events)
      · rename_i missed
        refine .bind ⟨t.own, rfl, .bind ⟨(), rfl, (rest (some state) t.world rfl).mono ?_⟩⟩
        intro result u polled
        refine .vain ?_ own events (by rw [read]; exact polled)
        exact decide_eq_false fun same => missed (Option.some.inj (read.symm.trans same))
    | error fault =>
      have read : ServiceState.ofReport? s.world.manager.reported? = none := read.symm
      refine .bind ⟨(), rfl, .bind ⟨t.own, rfl, .bind ⟨(), rfl, ?_⟩⟩⟩
      refine (rest seen _ (World.manager_log ..)).mono fun result u polled => ?_
      have missed : target.reachedBy s.world.manager.reported? = false :=
        decide_eq_false fun same => nomatch read.symm.trans same
      refine .vain (t := ⟨t.world.log .controller Level.debug _, t.own⟩) missed own ?_
        (by rw [read]; exact polled)
      exact (World.events_log ..).trans events

/-- What waiting for a state comes to, where the queries are told these reports. -/
def waitEnding (target : ServiceState) (attempts : Int) (reports : List (Option UInt32)) :
    Except Raised (Option ServiceState) :=
  if reports.any target.reachedBy then .ok (some target)
  else match Number.ofInt? attempts with
    | some _ => .ok (ServiceState.lastOf reports)
    | none => .error (.mishap .integerTooLarge)

/-- Waiting makes the calls of polling, and gives what polling gave. -/
theorem awaitState_comes (service : Nat) (target : ServiceState)
    {reports : List (Option UInt32)}
    (told : s.world.manager.reports s.own.attempts.toNat = reports)
    (known : ServiceState.Told reports) :
    Comes s (awaitState service target) (waitEnding target s.own.attempts reports)
      (pollCalls service s.own.interval target reports) := by
  obtain ⟨result, returns, polled⟩ := poll_observes service target _ none told known
  have result_eq := polled.result_eq
  rw [← List.append_nil (pollCalls ..), awaitState]
  refine .silent_bind ⟨s.own, rfl, rfl, .bind ⟨result, returns, polled.events, ?_⟩⟩
  unfold waitEnding
  by_cases reached : reports.any target.reachedBy = true
  · rw [pollResult, if_pos reached] at result_eq
    rw [result_eq, if_pos reached]
    exact .silent rfl rfl
  · rw [pollResult, if_neg reached, Option.or_none] at result_eq
    rw [result_eq, if_neg reached]
    cases seconds : Number.ofInt? s.own.attempts with
    | none =>
      simp only [patience, seconds]
      exact .silent rfl rfl
    | some attempts =>
      simp only [patience, seconds]
      exact .silent rfl (World.events_log ..)

end Controller

namespace Service

variable {σ : Type} {s : Scene σ} {p : Primitive}

/-- An opening that does not fail is one call, which shows the handle. -/
theorem opening_opens {event : Option Nat → Event} {action : String}
    (h : ∀ code, (s.world.manager.next p).1 ≠ .failed code) :
    Reaches s (opening p event action) fun handle t =>
      t.own = s.own ∧ Manager.AgreeBut p s.world.manager t.world.manager ∧
        t.world.events = s.world.events ++ [event (some handle)] := by
  obtain ⟨handle, opens, own, agree⟩ : ∃ handle, outcome (opening p event action) s = .ok handle ∧
      (after (opening p event action) s).own = s.own ∧
      Manager.AgreeBut p s.world.manager (after (opening p event action) s).world.manager :=
    outcome_opening h
  rcases opening_cases p event action s with ⟨_, fails, -⟩ | ⟨number, opens', events, -⟩
  · cases opens.symm.trans fails
  · cases opens.symm.trans opens'
    exact ⟨handle, opens, own, agree, events⟩

end Service

namespace Controller

variable {α : Type} {s : Scene Controller}

/-- What is done with a handle is followed by the call that gives it back. -/
theorem comes_holding (handle : Nat) {x : Nat → Act Controller α} {ending : Except Raised α}
    {t : List Event} (h : Comes s (x handle) ending t) :
    ∃ done, Comes s (holding handle x) ending (t ++ [.closeHandle handle done]) := by
  obtain ⟨done, closes⟩ := Service.events_closeHandle handle (after (x handle) s)
  refine ⟨done, (outcome_holding handle x).trans h.outcome, ?_⟩
  rw [holding, after_ensure, closes, h.events, List.append_assoc]

/-- The calls around what is done with the service: those that open the service manager and the
service, and those that give the handles back. -/
def withinService (name : String) (access manager service : Nat) (done done' : Bool)
    (t : List Event) : List Event :=
  [.openManager Access.connect (some manager), .openService manager name access (some service)] ++
    t ++ [.closeHandle service done, .closeHandle manager done']

/-- **What is done with the service stands between the calls that open it and those that give the
handles back**, if it can be opened. -/
theorem withService_comes (access : Nat) {x : Nat → Act Controller α} (opens : OpensService s)
    {ending : Nat → Except Raised α} {t : Nat → List Event}
    (h : ∀ service s', Opened s s' → Comes s' (x service) (ending service) (t service)) :
    ∃ manager service done done', Comes s (withService access x) (ending service)
      (withinService s.own.name access manager service done done' (t service)) := by
  obtain ⟨-, prepared, world, ready⟩ := (prepare_cases s).resolve_right fun h => h.1 opens.found
  obtain ⟨manager, hm, own, agree, first⟩ : Reaches (after prepare s)
      (Service.openManager Access.connect) _ := Service.opening_opens (world ▸ opens.manager)
  generalize hu : after (Service.openManager Access.connect) (after prepare s) = u at own agree first
  have next := agree.next_fst (q := .openService) (by decide)
  obtain ⟨service, hs, own', agree', second⟩ : Reaches u
      (Service.openService manager u.own.name access) _ :=
    Service.opening_opens (by rw [next, world]; exact opens.service)
  generalize hv : after (Service.openService manager u.own.name access) u = v at own' agree' second
  have opened : Opened s v :=
    ⟨own'.trans (own.trans ready), fun p hm hs => by rw [agree'.answers p hs, agree.answers p hm, world],
      agree'.state.trans (agree.state.trans (world ▸ rfl))⟩
  obtain ⟨done, inner⟩ := comes_holding service (h service v opened)
  have inside : Comes u (do
      let service ← Service.openService manager (← Act.own).name access
      holding service x) (ending service) _ :=
    .silent_bind ⟨u.own, rfl, rfl, .bind ⟨service, hs, hv ▸ second, hv ▸ inner⟩⟩
  obtain ⟨done', outer⟩ := comes_holding manager (x := fun manager => do
    let service ← Service.openService manager (← Act.own).name access
    holding service x) inside
  have all : Comes s (withService access x) (ending service) _ :=
    .silent_bind ⟨(), prepared, congrArg World.events world, .bind ⟨manager, hm, hu ▸ first, hu ▸ outer⟩⟩
  have name : u.own.name = s.own.name := by rw [own, ready]
  refine ⟨manager, service, done, done', all.outcome, ?_⟩
  rw [all.events, hu, name, withinService]
  simp

namespace Order

variable {β : Type} {o : Order} {t u : Scene Controller}

/-- The rights that the service is opened with. -/
def access : Order → Nat
  | .start => Access.start ||| Access.queryStatus
  | .stop => Access.stop ||| Access.queryStatus

/-- What is seen of the call that gives the command to the service manager. -/
def event : Order → Nat → Bool → Event
  | .start => .startService
  | .stop => .controlService

/-- What is seen of an accepted command, between the calls around it. -/
def calls (o : Order) (s : Scene Controller) (service : Nat) : List Event :=
  o.event service (o.answer s).carriedOut ::
    pollCalls service s.own.interval o.target (sees s)

/-- What an accepted command that is waited for comes to. -/
def ending (o : Order) (s : Scene Controller) : Except Raised (Option ServiceState) :=
  waitEnding o.target s.own.attempts (sees s)

/-- The call of an accepted command, and what is done after it in a scene that is to whoever waits
as the one the command was given in. -/
theorem comes_command {event : Bool → Event} {action : String}
    {f : Except ServiceFault Unit → Act Controller α} {ending : Except Raised α} {calls : List Event}
    (accepted : o.Accepted s) (opened : Opened s t)
    (h : ∀ r u, (r = .ok () ∨ ∃ code, o.answer s = .failed code ∧ r = .error (.call action o.settledCode)) →
      Poised s u → u.own = { s.own with ready := true } → Comes u (f r) ending calls) :
    Comes t (guarded (Service.doing o.primitive event action) >>= f) ending
      (event (o.answer s).carriedOut :: calls) := by
  have answer : (t.world.manager.next o.primitive).1 = o.answer s := answer_of_opened opened
  have poised := Poised.of_doing (o := o) opened event action
  have events := Service.events_doing o.primitive event action t
  obtain ⟨own, -⟩ := Service.after_doing t o.primitive event action
  have asked : outcome (Service.doing o.primitive event action) t = _ := Service.outcome_doing
  rw [answer] at asked events
  rw [← after_guarded] at events own
  have own : _ = { s.own with ready := true } := own.trans opened.own
  refine .bind (t := [_]) ?_
  unfold Reaches
  rw [outcome_guarded, asked]
  cases e : o.answer s with
  | failed code =>
    obtain rfl := accepted.taken code e
    exact ⟨_, rfl, e ▸ events, h _ _ (.inr ⟨_, e, rfl⟩) poised own⟩
  | done => exact ⟨_, rfl, e ▸ events, h _ _ (.inl rfl) poised own⟩
  | state value => exact ⟨_, rfl, e ▸ events, h _ _ (.inl rfl) poised own⟩

/-- Waiting for the effect of a command. -/
theorem comes_await (poised : Poised s u) (own : u.own = { s.own with ready := true })
    (known : ServiceState.Told (sees s)) (service : Nat) :
    Comes u (awaitState service o.target) (o.ending s)
      (pollCalls service s.own.interval o.target (sees s)) := by
  have comes := awaitState_comes service o.target poised.sees known
  rwa [own] at comes

/-- What an accepted command that is waited for comes to, and the calls that it makes. -/
def Observes (o : Order) (s : Scene Controller) (x : Act Controller α)
    (ending : Except Raised α) : Prop :=
  ∃ manager service done done', Comes s x ending
    (withinService s.own.name o.access manager service done done' (o.calls s service))

theorem Observes.own_bind {f : Controller → Act Controller α} {ending : Except Raised α}
    (h : o.Observes s (f s.own) ending) : o.Observes s (Act.own >>= f) ending := by
  obtain ⟨manager, service, done, done', comes⟩ := h
  exact ⟨manager, service, done, done', .silent_bind ⟨s.own, rfl, rfl, comes⟩⟩

/-- What is done with the service is observed, and what comes after it makes no call. -/
theorem Observes.withService {x : Nat → Act Controller α} {f : α → Act Controller β} {g : α → β}
    {ending : Except Raised α} (opens : OpensService s)
    (h : ∀ service t, Opened s t → Comes t (x service) ending (o.calls s service))
    (hf : ∀ a t, outcome (f a) t = .ok (g a) ∧ (after (f a) t).world.events = t.world.events) :
    o.Observes s (Controller.withService o.access x >>= f) (ending.map g) := by
  obtain ⟨manager, service, done, done', comes⟩ := withService_comes o.access opens h
  exact ⟨manager, service, done, done', comes.bind_silent hf⟩

theorem start_observes (awaited : Order.start.Awaited s) (known : ServiceState.Told (sees s)) :
    Order.start.Observes s Controller.start (Order.start.ending s) := by
  have same : Order.start.ending s = (Order.start.ending s).map id :=
    (congrFun Except.map_id _).symm
  rw [Controller.start, same]
  refine .own_bind (.withService awaited.toOpensService (fun service t opened => ?_) fun _ _ =>
    ⟨rfl, World.events_log ..⟩)
  refine comes_command (o := .start) awaited.toAccepted opened fun r u hr poised own => ?_
  rcases hr with rfl | ⟨code, -, rfl⟩
  · exact comes_await (o := .start) poised own known service
  · dsimp only
    rw [if_neg fun h => h rfl]
    exact .silent_bind
      ⟨(), rfl, World.events_log .., comes_await (o := .start) (poised.log _ _) own known service⟩

theorem stop_observes (awaited : Order.stop.Awaited s) (known : ServiceState.Told (sees s)) :
    Order.stop.Observes s Controller.stop (Order.stop.ending s) := by
  have same : Order.stop.ending s = ((Order.stop.ending s).map (·, true)).map Prod.fst := by
    cases Order.stop.ending s <;> rfl
  rw [Controller.stop, same]
  refine .own_bind (.withService awaited.toOpensService (fun service t opened => ?_) fun p _ => ?_)
  · refine comes_command (o := .stop) awaited.toAccepted opened fun r u hr poised own => ?_
    rcases hr with rfl | ⟨code, failed, -⟩
    · exact (comes_await (o := .stop) poised own known service).bind_silent (g := (·, true))
        fun _ _ => ⟨rfl, rfl⟩
    · exact absurd failed (awaited.stops rfl code)
  · obtain ⟨state, requested⟩ := p
    cases requested with
    | true => exact ⟨rfl, World.events_log ..⟩
    | false => exact ⟨rfl, rfl⟩

theorem observes (awaited : o.Awaited s) (known : ServiceState.Told (sees s)) :
    o.Observes s (perform o.call) ((o.ending s).map Reply.state) := by
  have map {x : Act Controller (Option ServiceState)} (h : o.Observes s x (o.ending s)) :
      o.Observes s (Reply.state <$> x) ((o.ending s).map Reply.state) := by
    obtain ⟨manager, service, done, done', comes⟩ := h
    refine ⟨manager, service, done, done', ?_, ?_⟩
    · rw [outcome_map, comes.outcome]
    · rw [after_map]
      exact comes.events
  cases o with
  | start => exact map (start_observes awaited known)
  | stop => exact map (stop_observes awaited known)

end Order

/-- **An accepted command queries until it is told the awaited state, as often as it may**, and
sleeps after every query in vain. It ends with the state if it was told it, and otherwise with the
last state that it was told; but it fails if the waiting was in vain and the number of attempts is
beyond the doubles, so that the seconds it took cannot be told. -/
theorem order_observes (o : Order) (s : Scene Controller) (awaited : o.Awaited s)
    (known : ServiceState.Told (Order.sees s)) :
    ∃ manager service done done' calls,
      (after (perform o.call) s).world.events = s.world.events ++
        withinService s.own.name o.access manager service done done'
          (o.event service (o.answer s).carriedOut :: calls) ∧
      (Order.sees s).length = s.own.attempts.toNat ∧
      ((∃ before report later, Order.sees s = before ++ report :: later ∧
          (∀ r ∈ before, o.target.reachedBy r = false) ∧ o.target.reachedBy report = true ∧
          calls = vainCalls service s.own.interval before ++ [.queryStatus service report] ∧
          outcome (perform o.call) s = .ok (.state (some o.target))) ∨
        (∀ r ∈ Order.sees s, o.target.reachedBy r = false) ∧
          calls = vainCalls service s.own.interval (Order.sees s) ∧
          outcome (perform o.call) s =
            match Number.ofInt? s.own.attempts with
            | some _ => .ok (.state (ServiceState.lastOf (Order.sees s)))
            | none => .error (.mishap .integerTooLarge)) := by
  obtain ⟨manager, service, done, done', comes⟩ := Order.observes awaited known
  refine ⟨manager, service, done, done', _, comes.events, Manager.length_reports _ _, ?_⟩
  rw [comes.outcome, Order.ending, waitEnding]
  cases first : (Order.sees s).find? o.target.reachedBy with
  | some report =>
    obtain ⟨reached, before, later, split, vain⟩ := List.find?_eq_some_iff_append.mp first
    have vain : ∀ r ∈ before, o.target.reachedBy r = false := fun r hr => by simpa using vain r hr
    refine .inl ⟨before, report, later, split, vain, reached, ?_, ?_⟩
    · rw [split, pollCalls_of_first vain reached]
    · rw [if_pos (List.any_eq_true.mpr ⟨report, List.mem_of_find?_eq_some first, reached⟩)]
      rfl
  | none =>
    have vain : ∀ r ∈ Order.sees s, o.target.reachedBy r = false := fun r hr =>
      Bool.eq_false_iff.mpr (List.find?_eq_none.mp first r hr)
    refine .inr ⟨vain, pollCalls_of_none vain, ?_⟩
    rw [if_neg (by simpa using vain)]
    cases Number.ofInt? s.own.attempts <;> rfl

/-- A query that fails forgets nothing, and does not end the waiting. -/
theorem start_observes_running :
    let manager : Manager :=
      { answers := fun p => if p = .queryStatus then [.state 2, .failed 5, .state 4] else [] }
    let s : Scene Controller := ⟨{ manager }, { attempts := 3 }⟩
    Order.start.Awaited s ∧ ServiceState.Told (Order.sees s) ∧
      outcome (perform .start) s = .ok (.state (some .running)) := by
  intro manager s
  have sees : Order.sees s = [some 2, none, some 4] := rfl
  have awaited : Order.start.Awaited s := ⟨⟨⟨⟨.inr rfl, nofun⟩, nofun⟩, nofun⟩, nofun⟩
  have known : ServiceState.Told (Order.sees s) := by
    rw [sees]
    simp [ServiceState.Told, ServiceState.ofNumber?]
  refine ⟨awaited, known, ?_⟩
  obtain ⟨-, -, -, -, -, -, -, ⟨-, -, -, -, -, -, -, returns⟩ | ⟨vain, -⟩⟩ :=
    order_observes .start s awaited known
  · exact returns
  · exact nomatch vain (some 4) (by simp [sees])

/-- A start that is accepted fails where the seconds it may take are beyond the doubles. -/
theorem start_fails_without_attempts :
    let s : Scene Controller := ⟨{}, { attempts := -Nat.pow 10 400 }⟩
    Order.start.Awaited s ∧ ServiceState.Told (Order.sees s) ∧
      outcome (perform .start) s = .error (.mishap .integerTooLarge) := by
  intro s
  have awaited : Order.start.Awaited s := ⟨⟨⟨⟨.inr rfl, nofun⟩, nofun⟩, nofun⟩, nofun⟩
  have huge : Number.ofInt? s.own.attempts = none := by decide +kernel
  have sees : Order.sees s = [] := by
    rw [Order.sees, Int.toNat_of_nonpos (by decide +kernel)]
    rfl
  have known : ServiceState.Told (Order.sees s) := by simp [ServiceState.Told, sees]
  obtain ⟨_, _, _, _, comes⟩ := Order.observes awaited known
  refine ⟨awaited, known, comes.outcome.trans ?_⟩
  rw [Order.ending, waitEnding, sees, huge]
  rfl

end Controller

end Vigil
