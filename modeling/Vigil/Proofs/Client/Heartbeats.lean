import Vigil.Proofs.Client.Answers
import Vigil.Proofs.Client.Boundary
import Vigil.Proofs.Client.Indifferent
import Vigil.Proofs.Client.OneExchange

/-!
# Heartbeats that fail

A heartbeat is one exchange and then calls of the callbacks. If the supervisor did not accept it,
the heartbeat callback is told, once; and whatever the callbacks do, a reporter that has sent a
heartbeat goes on, unless one of them stopped it.

* `Heartbeat`: what is seen of a heartbeat in the events of a step.
* `Client.request_accounts`, `Client.reportFailure_accounts`: the two parts of a heartbeat, and what
  the callbacks change in the course of each.
* `Client.sendHeartbeat_sent`: a heartbeat that a client sends is such a heartbeat.
* `Client.beat_beaten`, `Client.perform_tended`: a reporter that beats sends one and stays active;
  and between two calls nobody beats, which holds along every run.
* `Client.heartbeats_reported`: both, of one more call after any run.
-/

namespace Vigil

open Act

/-! ## What is seen of a heartbeat -/

namespace Client

/-- The request was accepted: it was carried out, and the reply fits and says so. -/
def Accepts (c : Client) (r : Request) (t : List Event) : Prop :=
  ∃ payload n reply, r.encode = .ok payload ∧ Carried payload t n reply ∧
    (reply.length : Int) ≤ c.session.bufferSize ∧
    ∃ response, r.decode reply = .ok response ∧ response.success = true

/-- A heartbeat callback is there when a failure is detected: it was there before, and the
connection callback, which may have been called meanwhile, has not unset it. -/
def Alerts (c : Client) (t : List Event) : Prop :=
  c.heartbeatCallback ≠ none ∧ ¬Did Unsets (t.takeWhile fun e => !e.isReport)

end Client

/-- **The events of a heartbeat** that a client sends for an id: one exchange, and then calls of the
callbacks. The heartbeat callback is called once, with the id, if the heartbeat is not accepted and
the callback is there; and else it is not called. -/
structure Heartbeat (c : Client) (id : String) (millis : Int) (t : List Event) : Prop where
  course : ∃ payload calls answers, (Request.heartbeat id millis).encode = .ok payload ∧
    t = .exchange payload :: (calls ++ answers) ∧ (∀ e ∈ calls, e.isPipe = true) ∧
    ∀ e ∈ answers, e.isCallback = true
  accepted : c.Accepts (.heartbeat id millis) t → ∀ e ∈ t, e.isReport = false
  reported : ¬c.Accepts (.heartbeat id millis) t → c.Alerts t →
    t.filter Event.isReport = [.heartbeatCallback id]
  unheard : ¬c.Alerts t → ∀ e ∈ t, e.isReport = false

/-- What was carried out is seen in the calls to the pipe alone. -/
theorem Carried.mono {payload reply : Bytes} {n : Nat} {t u : List Event}
    (h : ∀ e, e.isPipe = true → e ∈ t → e ∈ u) (carried : Carried payload t n reply) :
    Carried payload u n reply := by
  obtain ⟨wrote, ⟨limit, read⟩, filled, closing, closed, harmless⟩ := carried
  exact ⟨h _ rfl wrote, ⟨limit, h _ rfl read⟩, filled, closing, h _ rfl closed, harmless⟩

theorem carried_congr {payload reply : Bytes} {n : Nat} {t u : List Event}
    (h : ∀ e, e.isPipe = true → (e ∈ t ↔ e ∈ u)) :
    Carried payload t n reply ↔ Carried payload u n reply :=
  ⟨.mono fun e he => (h e he).mp, .mono fun e he => (h e he).mpr⟩

namespace Client

variable {busy : Option Nat} {start s : Scene (Watch Client)} {u : List Event} {id : String}
  {millis : Int}

/-! ## The report of a failure -/

/-- **The heartbeat callback is called once**, and all that it does meanwhile is accounted for. -/
theorem reportFailure_accounts (id : String) :
    Triple (fun s => s.own.host.heartbeatCallback ≠ none ∧ Accounted busy start s u)
      (reportFailure id) (fun _ => Since busy start (u ++ [.heartbeatCallback id]))
      (Since busy start (u ++ [.heartbeatCallback id])) := by
  refine .of_after fun s ⟨registered, h⟩ => ?_
  obtain ⟨callback, left⟩ := Option.ne_none_iff_exists'.mp registered
  have called : Accounted busy start (alerting callback id s) (u ++ [.heartbeatCallback id]) :=
    h.called rfl (fun _ _ => nofun) (World.events_note _ _) rfl rfl
      ⟨fun _ => registered, fun _ => nofun⟩
  rw [after_reportFailure_of_some left]
  exact suffers_accounts.respond accounts_disconnect _ _ _ _ called.since

/-! ## One heartbeat -/

/-- A request succeeds if and only if it was accepted. -/
theorem request_ok_iff {r : Request} {payload : Bytes} {v t : List Event}
    (h : r.encode = .ok payload) (operation : Operation)
    (course : Session.Course payload s.own.host.session.bufferSize v (outcome (exchange r) s))
    (calls : ∀ e, e.isPipe = true → (e ∈ t ↔ e ∈ v)) {result : Result Content}
    (returns : outcome (request r operation) s = .ok result) :
    result.ok = true ↔ s.own.host.Accepts r t := by
  have accepts : s.own.host.Accepts r t ↔ ∃ n reply, Carried payload v n reply ∧
      (reply.length : Int) ≤ s.own.host.session.bufferSize ∧
      ∃ response, r.decode reply = .ok response ∧ response.success = true := by
    constructor
    · rintro ⟨other, n, reply, encoded, carried, rest⟩
      obtain rfl : payload = other := Except.ok.inj (h.symm.trans encoded)
      exact ⟨n, reply, (carried_congr calls).mp carried, rest⟩
    · rintro ⟨n, reply, carried, rest⟩
      exact ⟨payload, n, reply, h, (carried_congr calls).mpr carried, rest⟩
  rw [accepts, ← course.ok_iff]
  cases he : outcome (exchange r) s with
  | ok raw =>
    obtain rfl := Except.ok.inj ((outcome_request operation he).symm.trans returns)
    rw [verdict_ok_iff]
    exact ⟨fun accepted => ⟨raw, rfl, accepted⟩, fun ⟨_, same, hp⟩ => Except.ok.inj same ▸ hp⟩
  | error raised =>
    obtain ⟨e, failed⟩ := outcome_request_of_error operation he
    obtain rfl := Except.ok.inj (failed.symm.trans returns)
    exact ⟨nofun, nofun⟩

/-- A request was made and its exchange is over since `start`; then the connection callback was
called with `u`. -/
structure Requested (busy : Option Nat) (payload : Bytes) (calls u : List Event)
    (s start s' : Scene (Watch Client)) : Prop where
  begun : start.world.events = s.world.events ++ .exchange payload :: calls
  pipe : ∀ e ∈ calls, e.isPipe = true
  registry : start.own.registry = s.own.registry
  heartbeat : start.own.host.heartbeatCallback = s.own.host.heartbeatCallback
  accounted : Accounted busy start s' u

namespace Requested

variable {payload : Bytes} {calls u u' : List Event} {s' s'' : Scene (Watch Client)}

theorem more (h : Requested busy payload calls u s start s')
    (accounted : Accounted busy start s'' u') : Requested busy payload calls u' s start s'' :=
  { h with accounted }

/-- What is logged changes nothing of it. -/
theorem logged (h : Requested busy payload calls u s start s') (level : Int) (message : LooseText) :
    Requested busy payload calls u s start (after (log level message) s') :=
  h.more (h.accounted.keep (World.events_log _ _ _ _ _) rfl rfl rfl)

theorem quiet (h : Requested busy payload calls u s start s') :
    ∀ e ∈ .exchange payload :: calls, e.isCallback = false :=
  List.forall_mem_cons.mpr ⟨rfl, fun e he => Event.not_isCallback_of_isPipe (h.pipe e he)⟩

theorem events (h : Requested busy payload calls u s start s') :
    s'.world.events = s.world.events ++ .exchange payload :: (calls ++ u) := by
  rw [h.accounted.events, h.begun, List.append_assoc]
  rfl

theorem did_iff (h : Requested busy payload calls u s start s')
    {kind : Option String → CallbackAction → Prop} :
    Did kind u ↔ Did kind (.exchange payload :: (calls ++ u)) := by
  rw [← List.cons_append, did_append, or_iff_right (not_did h.quiet)]

theorem entries (h : Requested busy payload calls u s start s') (entry : String × Nat) :
    entry ∈ s'.own.registry.entries ↔ entry ∈ s.own.registry.entries ∧
      ¬Did (Stops entry.1) (.exchange payload :: (calls ++ u)) := by
  rw [h.accounted.entries, h.registry, h.did_iff]

/-- The calls to the pipe are those of the exchange. -/
theorem mem_iff (h : Requested busy payload calls u s start s') (e : Event)
    (pipe : e.isPipe = true) : e ∈ .exchange payload :: (calls ++ u) ↔ e ∈ calls := by
  constructor
  · intro he
    rcases List.mem_cons.mp he with rfl | he
    · cases pipe
    · refine (List.mem_append.mp he).resolve_right fun later => ?_
      have callback := h.accounted.callbacks e later
      rw [Event.not_isCallback_of_isPipe pipe] at callback
      cases callback
  · exact fun he => List.mem_cons_of_mem _ (List.mem_append_left _ he)

/-- When a failure is detected, the heartbeat callback is there or not. -/
theorem alerts_iff (h : Requested busy payload calls u s start s')
    (unreported : ∀ e ∈ u, e.isReport = false) {rest : List Event}
    (next : rest.takeWhile (fun e => !e.isReport) = []) :
    s.own.host.Alerts (.exchange payload :: (calls ++ (u ++ rest))) ↔
      s'.own.host.heartbeatCallback ≠ none := by
  have before : ∀ e ∈ .exchange payload :: (calls ++ u), (!e.isReport) = true := by
    refine List.forall_mem_cons.mpr ⟨rfl, List.forall_mem_append.mpr
      ⟨fun e he => ?_, fun e he => ?_⟩⟩
    · rw [Event.not_isReport_of_not_isCallback (Event.not_isCallback_of_isPipe (h.pipe e he))]
      rfl
    · rw [unreported e he]
      rfl
  have split : Event.exchange payload :: (calls ++ (u ++ rest)) =
      (.exchange payload :: (calls ++ u)) ++ rest := by simp
  rw [Alerts, split, List.takeWhile_append_of_pos before, next, List.append_nil, ← h.did_iff,
    ← h.heartbeat]
  exact h.accounted.registered.symm

end Requested

/-- **A request and then the connection callback**: when a request is done, what it changed is
accounted for. -/
theorem request_accounts {r : Request} {payload : Bytes} (hr : r.Sendable)
    (h : r.encode = .ok payload) (operation : Operation) (tended : s.own.registry.Tended busy) :
    ∃ start calls u, (∀ e ∈ u, e.isReport = false) ∧
      Requested busy payload calls u s start (after (request r operation) s) ∧
      Session.Course payload s.own.host.session.bufferSize calls (outcome (exchange r) s) := by
  obtain ⟨calls, session, events, course, own⟩ := exchange_course h s
  have shut : Shut (after (exchange r) s) := (exchange_shut hr).after trivial
  have begun : Accounted busy (after (exchange r) s) (after (exchange r) s) [] := by
    refine .refl shut ?_
    rw [own]
    exact tended
  have settled : Since busy (after (exchange r) s) [] (after (request r operation) s) := by
    rw [request_eq, after_bind, outcome_attempt, after_attempt]
    exact respects_settle accounts_log (accounts_setConnected · false) r operation _ _ begun.since
  obtain ⟨u, unreported, accounted⟩ := settled
  exact ⟨_, calls, u, unreported,
    ⟨events, course.isPipe, by rw [own], by rw [own], accounted⟩, course⟩

namespace Requested

variable {payload : Bytes} {calls u : List Event} {s' : Scene (Watch Client)}

/-- An exchange and calls of the connection callback report nothing. -/
theorem unreported (h : Requested busy payload calls u s start s')
    (unreported : ∀ e ∈ u, e.isReport = false) :
    ∀ e ∈ .exchange payload :: (calls ++ u), e.isReport = false :=
  List.forall_mem_cons.mpr ⟨rfl, List.forall_mem_append.mpr ⟨fun e he =>
    Event.not_isReport_of_not_isCallback (Event.not_isCallback_of_isPipe (h.pipe e he)),
    unreported⟩⟩

/-- A heartbeat that was accepted, or whose failure nobody is there to be told. -/
theorem heartbeat_of_unheard (h : Requested busy payload calls u s start s')
    (encoded : (Request.heartbeat id millis).encode = .ok payload)
    (unreported : ∀ e ∈ u, e.isReport = false)
    (unheard : s.own.host.Accepts (.heartbeat id millis) (.exchange payload :: (calls ++ u)) ∨
      s'.own.host.heartbeatCallback = none) :
    Heartbeat s.own.host id millis (.exchange payload :: (calls ++ u)) where
  course := ⟨payload, calls, u, encoded, rfl, h.pipe, h.accounted.callbacks⟩
  accepted _ := h.unreported unreported
  reported failed alerts := by
    have gone := unheard.resolve_left failed
    have none : [].takeWhile (fun e : Event => !e.isReport) = [] := rfl
    have registered := h.alerts_iff unreported none
    rw [List.append_nil] at registered
    exact absurd gone (registered.mp alerts)
  unheard _ := h.unreported unreported

/-- A heartbeat that failed, of which the heartbeat callback was told. -/
theorem heartbeat_of_report (h : Requested busy payload calls u s start s')
    (encoded : (Request.heartbeat id millis).encode = .ok payload)
    (unreported : ∀ e ∈ u, e.isReport = false)
    (alerted : s'.own.host.heartbeatCallback ≠ none) {v : List Event}
    (later : ∀ e ∈ v, e.isReport = false) (callbacks : ∀ e ∈ v, e.isCallback = true)
    (failed : ¬s.own.host.Accepts (.heartbeat id millis)
      (.exchange payload :: (calls ++ (u ++ .heartbeatCallback id :: v)))) :
    Heartbeat s.own.host id millis
      (.exchange payload :: (calls ++ (u ++ .heartbeatCallback id :: v))) where
  course := by
    refine ⟨payload, calls, _, encoded, rfl, h.pipe, List.forall_mem_append.mpr
      ⟨h.accounted.callbacks, List.forall_mem_cons.mpr ⟨rfl, callbacks⟩⟩⟩
  accepted accepted := absurd accepted failed
  reported _ _ := by
    have before := List.filter_eq_nil_iff.mpr fun e he => by
      simpa using h.unreported unreported e he
    have after : v.filter Event.isReport = [] := List.filter_eq_nil_iff.mpr fun e he => by
      simpa using later e he
    have split : Event.exchange payload :: (calls ++ (u ++ .heartbeatCallback id :: v)) =
        (.exchange payload :: (calls ++ u)) ++ .heartbeatCallback id :: v := by simp
    rw [split, List.filter_append, before, List.filter_cons_of_pos rfl, after]
    rfl
  unheard deaf := absurd ((h.alerts_iff unreported rfl).mpr alerted) deaf

/-- **A failure is reported once** if the heartbeat callback is there, and else not. -/
theorem reportFailure_heard (h : Requested busy payload calls u s start s')
    (encoded : (Request.heartbeat id millis).encode = .ok payload)
    (unreported : ∀ e ∈ u, e.isReport = false)
    (failed : ∀ {v s''}, Requested busy payload calls v s start s'' →
      ¬s.own.host.Accepts (.heartbeat id millis) (.exchange payload :: (calls ++ v))) :
    Reaches s' (reportFailure id) fun _ s'' => ∃ v, Requested busy payload calls v s start s'' ∧
      Heartbeat s.own.host id millis (.exchange payload :: (calls ++ v)) := by
  by_cases gone : s'.own.host.heartbeatCallback = none
  · refine (reportFailure_of_none gone id).mono ?_
    rintro _ _ rfl
    exact ⟨u, h, h.heartbeat_of_unheard encoded unreported (.inr gone)⟩
  · obtain ⟨_, returns, _⟩ := reportFailure_returns id s'
    refine ⟨(), returns, ?_⟩
    obtain ⟨v, later, accounted⟩ := (reportFailure_accounts id).after ⟨gone, h.accounted⟩
    have told := h.more accounted
    have callbacks : ∀ e ∈ v, e.isCallback = true := fun e he =>
      accounted.callbacks e (List.mem_append_right _ he)
    rw [List.append_assoc, List.singleton_append] at told
    exact ⟨_, told, h.heartbeat_of_report encoded unreported gone later callbacks (failed told)⟩

end Requested

/-- From one scene to the other a heartbeat was sent for an id: what is seen of it, and what became
of the registry. -/
structure Sent (busy : Option Nat) (id : String) (millis : Int) (s s' : Scene (Watch Client))
    (t : List Event) : Prop where
  events : s'.world.events = s.world.events ++ t
  heartbeat : Heartbeat s.own.host id millis t
  tended : s'.own.registry.Tended busy
  entries : ∀ entry, entry ∈ s'.own.registry.entries ↔
    entry ∈ s.own.registry.entries ∧ ¬Did (Stops entry.1) t

/-- The id of a reporter in charge is still there unless it was stopped meanwhile. -/
theorem Sent.mem_ids {s' : Scene (Watch Client)} {t : List Event} {number : Nat}
    (h : Sent busy id millis s s' t) (charged : (id, number) ∈ s.own.registry.entries) :
    id ∈ s'.own.registry.entries.map Prod.fst ↔ ¬Did (Stops id) t := by
  rw [List.mem_map]
  constructor
  · rintro ⟨entry, he, rfl⟩
    exact ((h.entries entry).mp he).2
  · exact fun kept => ⟨(id, number), (h.entries (id, number)).mpr ⟨charged, kept⟩, rfl⟩

/-- **A heartbeat that is not accepted is reported once**, and one that is accepted is not; and only
its callbacks stop reporters meanwhile. -/
theorem sendHeartbeat_sent (id : String) (now : s.world.epochMillis = .ok millis)
    (tended : s.own.registry.Tended busy) :
    Reaches s (sendHeartbeat id) fun result s' => ∃ t, Sent busy id millis s s' t ∧
      (result.ok = true ↔ s.own.host.Accepts (.heartbeat id millis) t) := by
  have clock : outcome Act.epochMillis s = .ok millis :=
    (outcome_epochMillis_eq_ok_iff s millis).mpr now
  have hr : (Request.heartbeat id millis).Sendable := sendable_heartbeat clock
  obtain ⟨payload, encoded⟩ : ∃ payload, (Request.heartbeat id millis).encode = .ok payload :=
    ⟨_, hr.encode⟩
  obtain ⟨start, calls, u, unreported, requested, course⟩ :=
    request_accounts hr encoded .heartbeat tended
  obtain ⟨result, returns, -⟩ := request_returns (.heartbeat id millis) .heartbeat s
  -- What the callbacks do does not change whether the heartbeat was accepted.
  have accepted {v : List Event} {s' : Scene (Watch Client)}
      (h : Requested busy payload calls v s start s') : result.ok = true ↔
        s.own.host.Accepts (.heartbeat id millis) (.exchange payload :: (calls ++ v)) :=
    request_ok_iff encoded .heartbeat course h.mem_iff returns
  have sent {v : List Event} {s' : Scene (Watch Client)}
      (h : Requested busy payload calls v s start s')
      (heartbeat : Heartbeat s.own.host id millis (.exchange payload :: (calls ++ v))) :
      Sent busy id millis s s' (.exchange payload :: (calls ++ v)) :=
    ⟨h.events, heartbeat, h.accounted.tended, h.entries⟩
  refine .bind ⟨millis, clock, ?_⟩
  rw [after_epochMillis]
  refine .bind ⟨result, returns, ?_⟩
  cases result with
  | success content skipped =>
    have heard := requested.heartbeat_of_unheard encoded unreported
      (.inl ((accepted requested).mp rfl))
    exact .pure ⟨_, sent requested heard, accepted requested⟩
  | failure e =>
    have failed {v : List Event} {s' : Scene (Watch Client)}
        (h : Requested busy payload calls v s start s') :
        ¬s.own.host.Accepts (.heartbeat id millis) (.exchange payload :: (calls ++ v)) :=
      (accepted h).not.mp nofun
    refine .bind ⟨(), rfl, .bind (((requested.logged _ _).reportFailure_heard encoded unreported
      failed).mono ?_)⟩
    rintro _ s' ⟨v, told, heard⟩
    exact .pure ⟨_, sent told heard, accepted told⟩

/-! ## The heartbeats of reporters -/

/-- **The reporter of an id has sent a heartbeat** for a client, which ended in this scene. The
reporter is active still unless a callback that was called meanwhile stopped it. -/
structure Beaten (c : Client) (id : String) (millis : Int) (s' : Scene (Watch Client))
    (t : List Event) : Prop where
  heartbeat : ∃ body interval, t = .beat id :: (body ++ [.park (reporterMark ++ id) interval]) ∧
    Heartbeat c id millis body
  active : ∃ ids, outcome (perform .activeReporters) s' = .ok (.texts ids) ∧
    (id ∈ ids ↔ ¬Did (Stops id) t)

/-- The marks of a heartbeat are no calls of callbacks. -/
theorem did_of_beat {kind : Option String → CallbackAction → Prop} {id : String}
    {body : List Event} {thread : String} {interval : Float} :
    Did kind (.beat id :: (body ++ [.park thread interval])) ↔ Did kind body := by
  have before : ¬Did kind [.beat id] := not_did (List.forall_mem_singleton.mpr rfl)
  have behind : ¬Did kind [.park thread interval] := not_did (List.forall_mem_singleton.mpr rfl)
  rw [← List.singleton_append, did_append, or_iff_right before, did_append, or_iff_left behind]

/-- A reporter in charge beats. -/
theorem beat_beaten {number : Nat} {reporter : Reporter}
    (found : s.own.registry.reporter? number = some reporter)
    (charged : (reporter.id, number) ∈ s.own.registry.entries)
    (tended : s.own.registry.Tended busy) (hb : busy = none ∨ busy = some number)
    (now : s.world.epochMillis = .ok millis) :
    Reaches s (Watch.beat beat number) fun _ s' => ∃ t, s'.world.events = s.world.events ++ t ∧
      Beaten s.own.host reporter.id millis s' t := by
  refine Watch.reaches_beat found fun before s' beating rested => ?_
  have clock : before.world.epochMillis = .ok millis := by
    rw [World.epochMillis, beating.now]
    exact now
  have begun : before.own.registry.Tended (some number) := by
    rw [beating.own]
    exact tended.beating hb
  obtain ⟨_, -, body, sent, -⟩ := sendHeartbeat_sent reporter.id clock begun
  rw [← after_discard, ← beat] at sent
  have ended : s'.own.registry.Tended none := by
    rw [rested.own]
    exact sent.tended.rest
  have still : (reporter.id, number) ∈ before.own.registry.entries := by
    rw [beating.own]
    exact charged
  have listed := sent.mem_ids still
  have heartbeat := sent.heartbeat
  rw [beating.own] at heartbeat
  refine ⟨.beat reporter.id :: (body ++ [.park (reporterMark ++ reporter.id) reporter.interval]),
    ?_, ⟨body, reporter.interval, rfl, heartbeat⟩, s'.own.registry.activeIds, ?_, ?_⟩
  · rw [rested.events, sent.events, beating.events]
    simp
  · rw [perform, outcome_map, (Watch.leads_activeIds s' rfl).1]
    rfl
  · rw [did_of_beat, ended.activeIds_eq, rested.own]
    exact listed

/-! ## The calls -/

/-- Keeps a registry tended, whoever beats. -/
def tends : Frame (Scene (Watch Client)) where
  holds a b := ∀ busy, a.own.registry.Tended busy → b.own.registry.Tended busy
  refl _ _ h := h
  trans hab hbc busy h := hbc busy (hab busy h)

theorem converses_tends : Converses tends where
  alter _ _ _ _ h := h
  setSelfId _ _ _ h := h
  log _ _ _ _ _ _ h := h
  told _ _ _ h := h
  reacts _ _ _ _ h := h
  stop id s busy h := by
    rw [(Watch.leads_stop id s rfl).2]
    exact h.relieved (.halt h.nodup id)
  stopAll s busy h := by
    rw [(Watch.leads_stopAll s rfl).2]
    exact h.relieved (.haltAll _)
  session _ s busy h := by
    rw [after_onSession]
    exact h
  controller _ s busy h := by
    rw [after_onController]
    exact h
  exchange _ _ s busy h := by
    rw [after_onSession]
    exact h

/-- A beat leaves a tended registry tended, and nobody beats after it. -/
theorem beat_tended {number : Nat} {reporter : Reporter}
    (found : s.own.registry.reporter? number = some reporter) (tended : s.own.registry.Tended busy)
    (hb : busy = none ∨ busy = some number) :
    Reaches s (Watch.beat beat number) fun _ s' => s'.own.registry.Tended none := by
  refine Watch.reaches_beat found fun before s' beating rested => ?_
  have begun : before.own.registry.Tended (some number) := by
    rw [beating.own]
    exact tended.beating hb
  have keeps : Respects tends (beat reporter.id) :=
    .discard (converses_tends.sendHeartbeat fun _ _ h => h)
  rw [rested.own]
  exact (keeps before _ begun).rest

/-- What a start does: nothing, or a new reporter in charge beats. -/
theorem reaches_start {Q : Bool → Scene (Watch Client) → Prop} (id : String) (interval : Float)
    (tended : s.own.registry.Tended none) (idle : Q false s)
    (beats : ∀ (t : Scene (Watch Client)) (number : Nat), t.own.host = s.own.host →
      Frame.hushed.holds s t → t.own.registry.Tended (some number) →
      t.own.registry.reporter? number = some { id := id, interval := interval } →
      (id, number) ∈ t.own.registry.entries →
      Reaches t (Watch.beat beat number) fun _ => Q true) :
    Reaches s (Watch.start beat id interval) Q := by
  cases running : s.own.registry.isRunning id with
  | true => exact Watch.reaches_start_running running idle
  | false =>
    rw [tended.isRunning_eq, Option.isSome_eq_false_iff, Option.isNone_iff_eq_none] at running
    have absent := (s.own.registry.number?_eq_none_iff id).mp running
    refine Watch.reaches_start running fun t own hushed => beats t _ ?_ hushed ?_ ?_ ?_
    · rw [own]
    · rw [own]
      exact tended.enlist absent interval
    · rw [own, Registry.reporter?_enlist, if_pos rfl]
    · rw [own, Registry.entries_enlist absent]
      exact List.mem_append_right _ (List.mem_singleton.mpr rfl)

/-- What a tick does: nothing, or a reporter in charge beats. -/
theorem reaches_tick {Q : Bool → Scene (Watch Client) → Prop} {id : String}
    (tended : s.own.registry.Tended none) (idle : Q false s)
    (beats : ∀ number reporter, s.own.registry.reporter? number = some reporter →
      reporter.id = id → (id, number) ∈ s.own.registry.entries →
      Reaches s (Watch.beat beat number) fun _ => Q true) :
    Reaches s (Watch.tick beat id) Q := by
  have waits := tended.parked?_eq id
  cases found : s.own.registry.number? id with
  | none => exact Watch.reaches_tick_none (waits.trans found) idle
  | some number =>
    have charged := (Registry.number?_eq_some_iff tended.nodup id number).mp found
    obtain ⟨reporter, hr, same⟩ := tended.charged _ charged
    exact Watch.reaches_tick (waits.trans found) (beats number reporter hr same charged)

/-- What the start of a reporter does is done by the reporters. -/
theorem reaches_startReporter {Q : Bool → Scene (Watch Client) → Prop} {id : String}
    (interval : Option Float) (starts : ∀ interval, Reaches s (Watch.start beat id interval) Q) :
    Reaches s (startReporter id interval) Q := .bind ⟨s.own.host, rfl, starts _⟩

/-- Without an id for itself a client starts no reporter. -/
theorem reaches_startSelfReporter {Q : Bool → Scene (Watch Client) → Prop}
    (interval : Option Float)
    (idle : ∀ t : Scene (Watch Client), t.own = s.own → Frame.hushed.holds s t → Q false t)
    (starts : ∀ id interval, Reaches s (Watch.start beat id interval) Q) :
    Reaches s (startSelfReporter interval) Q := by
  refine .bind ⟨s.own.host, rfl, ?_⟩
  dsimp only
  split
  · exact .bind ⟨(), rfl, .pure (idle _ rfl (Frame.hushed_log _ _ _ _ _))⟩
  · exact reaches_startReporter interval (starts _)

/-- **Between two calls nobody beats**, and the registry is tended. -/
theorem perform_tended (c : ClientCall) (tended : s.own.registry.Tended none) :
    (after (perform c) s).own.registry.Tended none := by
  have starts (id : String) (interval : Float) : Reaches s (Watch.start beat id interval)
      fun _ s' => s'.own.registry.Tended none :=
    reaches_start id interval tended tended fun t _ _ _ begun found _ =>
      beat_tended found begun (.inr rfl)
  cases sends : c.sends with
  | false => exact converses_tends.perform sends s none tended
  | true =>
    cases c with
    | sendHeartbeat id =>
      rw [perform, after_map]
      exact converses_tends.sendHeartbeat (fun _ _ h => h) s none tended
    | startReporter id interval =>
      rw [perform, after_map]
      exact (reaches_startReporter interval (starts id)).after
    | startSelfReporter interval =>
      rw [perform, after_map]
      have idle (t : Scene (Watch Client)) (own : t.own = s.own) : t.own.registry.Tended none := by
        rw [own]
        exact tended
      exact (reaches_startSelfReporter interval (fun t own _ => idle t own) starts).after
    | tick id =>
      rw [perform, after_map]
      have ticks : Reaches s (Watch.tick beat id) fun _ s' => s'.own.registry.Tended none :=
        reaches_tick tended tended fun _ _ found _ _ => beat_tended found tended (.inl rfl)
      exact ticks.after
    | _ => cases sends

theorem tended_of_run {w : World} {settings : Settings} {options : ClientOptions}
    {calls : List ClientCall}
    (run : Run perform ⟨w, { host := create settings options }⟩ calls s) :
    s.own.registry.Tended none := by
  induction run with
  | start => exact .empty
  | call _ c ih => exact perform_tended c ih
  | outside _ _ ih => exact ih

/-! ## Every call -/

/-- Adds no heartbeat and no report. -/
def calm : Frame (Scene (Watch Client)) := adding fun e => e.isBeat = false ∧ e.isReport = false

theorem converses_calm : Converses calm where
  toIndifferent := by
    refine indifferent_adding (fun _ => ⟨rfl, rfl⟩) (fun _ _ => ⟨rfl, rfl⟩) (fun e he => ?_)
      fun e he => ?_
    · cases e <;> first | exact ⟨rfl, rfl⟩ | cases he
    · cases e <;> first | exact ⟨rfl, rfl⟩ | cases he
  exchange payload timeout := by
    refine adding_onSession (Session.adding_exchange (fun _ => ⟨rfl, rfl⟩) (fun e he => ?_) _ _)
    cases e <;> first | exact ⟨rfl, rfl⟩ | cases he

end Client

section Heartbeat

variable {c : Client} {id : String} {millis : Int} {t : List Event}

/-- A report is of the id of the heartbeat. -/
theorem Heartbeat.report_eq (h : Heartbeat c id millis t) {i : String}
    (hi : .heartbeatCallback i ∈ t) : i = id := by
  have reported : t.filter Event.isReport = [.heartbeatCallback id] := by
    refine h.reported (fun accepted => ?_) (Classical.byContradiction fun deaf => ?_)
    · exact Bool.false_ne_true (h.accepted accepted _ hi).symm
    · exact Bool.false_ne_true (h.unheard deaf _ hi).symm
  have mem : .heartbeatCallback i ∈ t.filter Event.isReport := List.mem_filter.mpr ⟨hi, rfl⟩
  rw [reported] at mem
  exact Event.heartbeatCallback.inj (List.mem_singleton.mp mem)

/-- No other heartbeat is sent meanwhile. -/
theorem Heartbeat.no_beat (h : Heartbeat c id millis t) (i : String) : .beat i ∉ t := by
  obtain ⟨payload, calls, answers, -, rfl, pipe, callbacks⟩ := h.course
  intro hi
  rcases List.mem_cons.mp hi with he | hi
  · cases he
  · rcases List.mem_append.mp hi with hi | hi
    · cases pipe _ hi
    · cases callbacks _ hi

end Heartbeat

namespace Client

variable {s : Scene (Watch Client)} {millis : Int}

/-- What a call that adds these events does about heartbeats. -/
structure Reporting (millis : Int) (c : ClientCall) (s : Scene (Watch Client)) (t : List Event) :
    Prop where
  /-- A heartbeat that is asked for is sent, and the result tells whether it was accepted. -/
  direct : ∀ id, c = .sendHeartbeat id → Heartbeat s.own.host id millis t ∧
    ∃ result, outcome (perform c) s = .ok (.request result) ∧
      (result.ok = true ↔ s.own.host.Accepts (.heartbeat id millis) t)
  /-- A reporter that beats sends a heartbeat, and is active still unless it was stopped. -/
  beats : ∀ id, .beat id ∈ t → Beaten s.own.host id millis (after (perform c) s) t
  /-- The heartbeat callback is called for no other reason. -/
  alone : ∀ id, .heartbeatCallback id ∈ t → c = .sendHeartbeat id ∨ .beat id ∈ t

/-- The heartbeat of a reporter. -/
theorem Beaten.reporting {c : ClientCall} {id : String} {t : List Event}
    (h : Beaten s.own.host id millis (after (perform c) s) t)
    (hc : ∀ id, c ≠ .sendHeartbeat id) : Reporting millis c s t where
  direct i hi := absurd hi (hc i)
  beats i hi := by
    obtain ⟨body, interval, rfl, heartbeat⟩ := h.heartbeat
    rcases List.mem_cons.mp hi with he | hi
    · obtain rfl : i = id := Event.beat.inj he
      exact h
    · rcases List.mem_append.mp hi with hi | hi
      · exact absurd hi (heartbeat.no_beat i)
      · cases List.mem_singleton.mp hi
  alone i hi := by
    obtain ⟨body, interval, rfl, heartbeat⟩ := h.heartbeat
    rcases List.mem_cons.mp hi with he | hi
    · cases he
    · rcases List.mem_append.mp hi with hi | hi
      · rw [heartbeat.report_eq hi]
        exact .inr List.mem_cons_self
      · cases List.mem_singleton.mp hi

/-- No heartbeat. -/
theorem reporting_of_calm {c : ClientCall} {t : List Event} (hc : ∀ id, c ≠ .sendHeartbeat id)
    (quiet : ∀ e ∈ t, e.isBeat = false ∧ e.isReport = false) : Reporting millis c s t where
  direct i hi := absurd hi (hc i)
  beats _ hi := nomatch (quiet _ hi).1
  alone _ hi := nomatch (quiet _ hi).2

/-- Nothing was done, or the reporter of an id has sent a heartbeat. -/
def Ticked (millis : Int) (s s' : Scene (Watch Client)) : Prop :=
  ∃ t, s'.world.events = s.world.events ++ t ∧
    (t = [] ∨ ∃ id, Beaten s.own.host id millis s' t)

theorem ticked_of_same {s' : Scene (Watch Client)} (h : s'.world.events = s.world.events) :
    Ticked millis s s' := ⟨[], by rw [h, List.append_nil], .inl rfl⟩

theorem Ticked.reporting {c : ClientCall} (h : Ticked millis s (after (perform c) s))
    (hc : ∀ id, c ≠ .sendHeartbeat id) :
    ∃ t, (after (perform c) s).world.events = s.world.events ++ t ∧ Reporting millis c s t := by
  obtain ⟨t, events, rfl | ⟨id, beaten⟩⟩ := h
  · exact ⟨[], events, reporting_of_calm hc (List.forall_mem_nil _)⟩
  · exact ⟨t, events, beaten.reporting hc⟩

theorem start_ticked (id : String) (interval : Float) (tended : s.own.registry.Tended none)
    (now : s.world.epochMillis = .ok millis) :
    Reaches s (Watch.start beat id interval) fun _ s' => Ticked millis s s' := by
  refine reaches_start id interval tended (ticked_of_same rfl)
    fun t number host hushed begun found charged => ?_
  have clock : t.world.epochMillis = .ok millis := by
    rw [World.epochMillis, hushed.2]
    exact now
  refine (beat_beaten found charged begun (.inr rfl) clock).mono ?_
  rintro _ s' ⟨u, events, beaten⟩
  rw [host] at beaten
  rw [hushed.1] at events
  exact ⟨u, events, .inr ⟨id, beaten⟩⟩

theorem tick_ticked (id : String) (tended : s.own.registry.Tended none)
    (now : s.world.epochMillis = .ok millis) :
    Reaches s (Watch.tick beat id) fun _ s' => Ticked millis s s' := by
  refine reaches_tick tended (ticked_of_same rfl) fun number reporter found same charged => ?_
  rw [← same] at charged
  refine (beat_beaten found charged tended (.inl rfl) now).mono ?_
  rintro _ s' ⟨t, events, beaten⟩
  exact ⟨t, events, .inr ⟨_, beaten⟩⟩

/-- **A failing heartbeat is reported once and never silences its reporter.** After any run of calls
to a new client, whatever its callbacks do, let the clock show a time and let one more call be made.
A heartbeat that is sent then, be it asked for or sent by a reporter, calls the heartbeat callback
that is there when the failure is detected, once and with the id, if it was not accepted, and not at
all if it was. And the id of a reporter that sent one is still active, unless a callback that was
called meanwhile stopped it. -/
theorem heartbeats_reported {w : World} {settings : Settings} {options : ClientOptions}
    {calls : List ClientCall}
    (run : Run perform ⟨w, { host := create settings options }⟩ calls s)
    (now : s.world.epochMillis = .ok millis) (c : ClientCall) :
    ∃ t, (after (perform c) s).world.events = s.world.events ++ t ∧ Reporting millis c s t := by
  have tended := tended_of_run run
  have starts (id : String) (interval : Float) : Reaches s (Watch.start beat id interval)
      fun _ s' => Ticked millis s s' := start_ticked id interval tended now
  cases sends : c.sends with
  | false =>
    obtain ⟨t, events, quiet⟩ := converses_calm.perform sends s
    refine ⟨t, events, reporting_of_calm (fun id hc => ?_) quiet⟩
    rw [hc] at sends
    cases sends
  | true =>
    cases c with
    | sendHeartbeat id =>
      obtain ⟨result, returns, t, sent, accepted⟩ := sendHeartbeat_sent id now tended
      refine ⟨t, ?_, fun i hi => ?_, fun i hi => absurd hi (sent.heartbeat.no_beat i),
        fun i hi => .inl ?_⟩
      · rw [perform, after_map]
        exact sent.events
      · obtain rfl : id = i := ClientCall.sendHeartbeat.inj hi
        refine ⟨sent.heartbeat, result, ?_, accepted⟩
        rw [perform, outcome_map, returns]
        rfl
      · rw [sent.heartbeat.report_eq hi]
    | startReporter id interval =>
      refine Ticked.reporting ?_ fun _ other => by cases other
      rw [perform, after_map]
      exact (reaches_startReporter interval (starts id)).after
    | startSelfReporter interval =>
      refine Ticked.reporting ?_ fun _ other => by cases other
      rw [perform, after_map]
      exact (reaches_startSelfReporter interval (fun _ _ hushed => ticked_of_same hushed.1)
        starts).after
    | tick id =>
      refine Ticked.reporting ?_ fun _ other => by cases other
      rw [perform, after_map]
      exact (tick_ticked id tended now).after
    | _ => cases sends

/-- There is no supervisor, and the heartbeat callback fails; the reporter is active still. -/
theorem heartbeats_reported_of_absent :
    ∃ s, Run perform ⟨{ now := 1.0 }, { host := create {} {} }⟩
        [.setHeartbeatCallback (some [[.fail]])] s ∧
      s.world.epochMillis = .ok 1000 ∧
      ∃ t, (after (perform (.startReporter "a" none)) s).world.events = s.world.events ++ t ∧
        Reporting 1000 (.startReporter "a" none) s t ∧ .beat "a" ∈ t ∧ reports t = 1 := by
  let s : Scene (Watch Client) := after (perform (.setHeartbeatCallback (some [[.fail]])))
    ⟨{ now := 1.0 }, { host := create {} {} }⟩
  have run : Run perform ⟨{ now := 1.0 }, { host := create {} {} }⟩
      [.setHeartbeatCallback (some [[.fail]])] s :=
    .call .start (ClientCall.setHeartbeatCallback (some [[.fail]]))
  have now : s.world.epochMillis = .ok 1000 := epochMillis_of_one rfl
  obtain ⟨t, events, reporting⟩ := heartbeats_reported run now (.startReporter "a" none)
  have all : (after (perform (.startReporter "a" none)) s).world.events = t := events
  have count : reports t = 1 := by
    rw [← all]
    decide +kernel
  have beat : .beat "a" ∈ t := by
    have any : (t.any fun | .beat id => id == "a" | _ => false) = true := by
      rw [← all]
      decide +kernel
    obtain ⟨e, he, same⟩ := List.any_eq_true.mp any
    cases e with
    | beat id =>
      obtain rfl : id = "a" := beq_iff_eq.mp same
      exact he
    | _ => cases same
  exact ⟨s, run, now, t, events, reporting, beat, count⟩

end Client

end Vigil
