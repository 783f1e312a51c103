import Vigil.Proofs.Client.Duplicate
import Vigil.Proofs.Client.Heartbeats

/-!
# The id under which a process watches itself

A client remembers the id of the item that stands for its own process. Two calls give it one: the
one that sets it, and a registration, once it has returned a success. No other call does, nor does
anything that the callbacks do, so that after any run of calls the id is the one that was given
last.

* `Client.perform_selfId`: what one call does to the id.
* `Client.addItem_ok`: an item that was added was requested by the last payload that was written.
* `Client.selfId_on_purpose`: the id after every run of calls, and what the calls that use it write.
-/

namespace Vigil

open Act

/-! ## What is written -/

theorem written_append (t u : List Event) : written (t ++ u) = written t ++ written u :=
  List.filterMap_append

theorem written_of_callbacks {t : List Event} (h : ∀ e ∈ t, e.isCallback = true) :
    written t = [] := by
  refine List.filterMap_eq_nil_iff.mpr fun e he => ?_
  have callback := h e he
  cases e <;> first | rfl | cases callback

namespace Client

variable {s : Scene (Watch Client)} {busy : Option Nat} {r : Request} {payload : Bytes}
  {item : Item}

/-- The action writes the payload or nothing. -/
def WritesAtMost {α : Type} (payload : Bytes) (x : Deed α) (s : Scene (Watch Client)) : Prop :=
  ∃ t, (after x s).world.events = s.world.events ++ t ∧ (written t = [] ∨ written t = [payload])

/-- What is logged is not written. -/
theorem WritesAtMost.bind {α β : Type} {x : Deed α} {f : α → Deed β} (h : WritesAtMost payload x s)
    (hf : ∀ a, Respects logs (f a)) : WritesAtMost payload (x >>= f) s := by
  obtain ⟨t, events, wrote⟩ := h
  refine ⟨t, ?_, wrote⟩
  rw [after_bind]
  split
  · exact (hf _ _).2.trans events
  · exact events

/-- **A request writes its bytes or nothing**, whatever the callbacks do, and a request that
succeeds has written them. -/
theorem request_writes (h : r.encode = .ok payload) (operation : Operation)
    (tended : s.own.registry.Tended busy) :
    ∃ t, (after (request r operation) s).world.events = s.world.events ++ t ∧
      (written t = [] ∨ written t = [payload]) ∧
      ∀ result, outcome (request r operation) s = .ok result → result.ok = true →
        written t = [payload] := by
  have sendable : r.Sendable := (Request.exists_encode_iff r).mp ⟨payload, h⟩
  obtain ⟨start, calls, u, -, requested, course⟩ := request_accounts sendable h operation tended
  have same : written (.exchange payload :: (calls ++ u)) = written calls := by
    have all : written (calls ++ u) = written calls := by
      rw [written_append, written_of_callbacks requested.accounted.callbacks, List.append_nil]
    exact all
  refine ⟨_, requested.events, same ▸ course.single.one_payload, fun result returns ok => ?_⟩
  obtain ⟨other, n, reply, encoded, carried, -⟩ :=
    (request_ok_iff h operation course requested.mem_iff returns).mp ok
  obtain rfl : payload = other := Except.ok.inj (h.symm.trans encoded)
  have wrote : payload ∈ written calls :=
    List.mem_filterMap.mpr ⟨_, (requested.mem_iff _ rfl).mp carried.wrote, rfl⟩
  rw [same]
  exact course.single.one_payload.resolve_left fun none => List.ne_nil_of_mem wrote none

/-- A request that succeeds has bytes. -/
theorem exists_encode_of_ok {operation : Operation} {result : Result Content}
    (returns : outcome (request r operation) s = .ok result) (ok : result.ok = true) :
    ∃ payload, r.encode = .ok payload := by
  refine (Request.exists_encode_iff r).mpr (Classical.byContradiction fun none => ?_)
  obtain ⟨mishap, hm⟩ := Request.encode_of_not_sendable none
  have failed : outcome (exchange r) s = .error (.mishap mishap) := by
    rw [exchange, hm]
    rfl
  obtain ⟨e, fails⟩ := outcome_request_of_error operation failed
  obtain rfl := Except.ok.inj (fails.symm.trans returns)
  cases ok

/-- An item that was added was cleared, and the request to add it succeeded after the list. -/
theorem cleared_of_ok {result : Result Content} (returns : outcome (addItem item) s = .ok result)
    (ok : result.ok = true) : item.Cleared s ∧ ∃ added,
      outcome (request (.add item) .addItem) (after listItems s) = .ok added ∧ added.ok = true := by
  have fails {e : Error} (h : outcome (addItem item) s = .ok (.failure e)) : False := by
    obtain rfl := Except.ok.inj (h.symm.trans returns)
    cases ok
  cases hf : item.flaw? with
  | some refusal =>
    rw [addItem_of_flaw hf] at fails
    exact (fails rfl).elim
  | none =>
    have cleared : item.Cleared s := Classical.byContradiction fun h => by
      obtain ⟨-, e, failed⟩ := addItem_of_refused hf h
      exact fails failed
    refine ⟨cleared, ?_⟩
    obtain ⟨-, content, listed, others⟩ := (item.cleared_iff s).mp cleared
    obtain ⟨added, sent, -⟩ := request_returns (.add item) .addItem (after listItems s)
    refine ⟨added, sent, ?_⟩
    unfold addItem at returns
    simp only [hf, outcome_bind, listed, others, Bool.false_eq_true, if_false, sent] at returns
    cases added with
    | failure e =>
      obtain rfl := Except.ok.inj returns
      exact ok
    | success content skipped => rfl

/-- **An item that was added** lacks nothing, and the last payload that was written is the request
to add it. -/
theorem addItem_ok (tended : s.own.registry.Tended busy) {result : Result Content}
    (returns : outcome (addItem item) s = .ok result) (ok : result.ok = true) :
    item.flaw? = none ∧ ∃ payload t, (Request.add item).encode = .ok payload ∧
      (after (addItem item) s).world.events = s.world.events ++ t ∧
      (written t).getLast? = some payload := by
  obtain ⟨cleared, added, sent, success⟩ := cleared_of_ok returns ok
  obtain ⟨payload, encoded⟩ := exists_encode_of_ok sent success
  have list : Request.list.Sendable := .of_none rfl rfl
  obtain ⟨t, listed, -⟩ := request_writes list.encode .listItems tended
  have still : (after listItems s).own.registry.Tended busy :=
    converses_tends.request .list .listItems s busy tended
  obtain ⟨u, events, -, wrote⟩ := request_writes encoded .addItem still
  refine ⟨((item.cleared_iff s).mp cleared).1, payload, t ++ u, encoded, ?_, ?_⟩
  · have before : (after listItems s).world.events = s.world.events ++ t := listed
    rw [addItem_of_cleared cleared, events, before, List.append_assoc]
  · rw [written_append, wrote added sent success]
    exact List.getLast?_concat

/-! ## Calls that give no id -/

/-- Leaves the id as it is. -/
def ownId : Frame Client where
  holds c d := d.selfId = c.selfId
  refl _ := rfl
  trans hab hbc := hbc.trans hab

theorem confers_ownId : Confers ownId.host where
  alter _ h s := h s.own.host
  log _ _ _ _ := Watch.respects_log
  told _ := Watch.respects_note
  reacts _ _ := Watch.respects_note
  stop := ownId.spares_host.stop
  stopAll := ownId.spares_host.stopAll
  session _ s := by
    rw [after_onSession]
    rfl
  controller _ s := by
    rw [after_onController]
    rfl
  exchange _ _ s := by
    rw [after_onSession]
    rfl

/-- A call that gives no id leaves it as it is, also if it sends heartbeats. -/
theorem respects_ownId {c : ClientCall} (names : c.names = false) :
    Respects ownId.host (perform c) := by
  cases sends : c.sends with
  | false => exact confers_ownId.perform sends names
  | true =>
    exact confers_ownId.allows.perform_of_sends ownId.spares_host
      (fun _ => confers_ownId.reportFailure Watch.respects_note) sends

/-! ## Registrations -/

/-- The item for a process of this executable, under an id. -/
def ownItem (path id : String) (timeout : Int) : Item :=
  { id, exePath := path, name := Executable.displayName path, heartbeatTimeout := timeout }

/-- The id that a registration is made under: the one that is given, or, without one or with the
empty one, one of the time. -/
def registeredAs (w : World) (id : Option String) : Option String :=
  (id.filter (· ≠ "")).or (w.epochMillis.toOption.map fun millis => s!"self-{millis}")

/-- An id of the time is what is registered under where none is given. -/
theorem registeredAs_of_none {w : World} {millis : Int} (h : w.epochMillis = .ok millis) :
    registeredAs w none = some s!"self-{millis}" := by
  rw [registeredAs, h]
  rfl

theorem registeredAs_of_ne {w : World} {id : String} (h : id ≠ "") :
    registeredAs w (some id) = some id := by
  rw [registeredAs, Option.filter_some, if_pos (decide_eq_true h)]
  rfl

/-- To find an id changes nothing, and it is the one of the registration. -/
theorem newSelfId_spec (id : Option String) (s : Scene (Watch Client)) :
    after (newSelfId id) s = s ∧
      ∀ name, outcome (newSelfId id) s = .ok name → registeredAs s.world id = some name := by
  have ofTime : after (do return s!"self-{← Act.epochMillis}" : Deed String) s = s ∧
      ∀ name, outcome (do return s!"self-{← Act.epochMillis}" : Deed String) s = .ok name →
        registeredAs s.world none = some name := by
    cases now : outcome Act.epochMillis s with
    | ok millis =>
      rw [after_bind, outcome_bind, now, after_epochMillis]
      refine ⟨rfl, fun name h => ?_⟩
      obtain rfl := Except.ok.inj h
      exact registeredAs_of_none ((outcome_epochMillis_eq_ok_iff s millis).mp now)
    | error raised =>
      rw [after_bind, outcome_bind, now, after_epochMillis]
      exact ⟨rfl, nofun⟩
  cases id with
  | none => exact ofTime
  | some id =>
    by_cases empty : id = ""
    · subst empty
      exact ofTime
    · rw [newSelfId, if_neg empty]
      refine ⟨rfl, fun name h => ?_⟩
      obtain rfl := Except.ok.inj h
      exact registeredAs_of_ne empty

/-- The path of the executable is told if it is not empty, and nothing is done but to log. -/
theorem executable_spec (s : Scene (Watch Client)) :
    logs.holds s (after executable s) ∧
      (after executable s).world.epochMillis = s.world.epochMillis ∧
      ∃ path, outcome executable s = .ok path ∧ (path ≠ "" → s.world.exe = .ok path) := by
  unfold executable
  simp only [outcome_bind, after_bind, outcome_world, after_world]
  cases s.world.exe with
  | ok path => exact ⟨logs.refl s, rfl, path, rfl, fun _ => rfl⟩
  | error reason =>
    refine ⟨logs_log _ _ _ _ s, ?_, "", rfl, fun h => absurd rfl h⟩
    simp [World.epochMillis]

/-- **How a registration goes.** It fails before it asks for anything, or it asks to add the item
under the id that it finds, in a scene where nothing else was done, and gives the process that id if
the item was added. -/
theorem addSelf_cases (id : Option String) (timeout : Int) (s : Scene (Watch Client)) :
    ((∃ raised, outcome (addSelf id timeout) s = .error raised) ∧
        (after (addSelf id timeout) s).own.host.selfId = s.own.host.selfId) ∨
      ∃ path name result before, (path ≠ "" → s.world.exe = .ok path) ∧
        registeredAs s.world id = some name ∧ logs.holds s before ∧
        outcome (addItem (ownItem path name timeout)) before = .ok result ∧
        outcome (addSelf id timeout) s = .ok result ∧
        (after (addSelf id timeout) s).own.host.selfId =
          (if result.ok then name else s.own.host.selfId) ∧
        (after (addSelf id timeout) s).world.events =
          (after (addItem (ownItem path name timeout)) before).world.events := by
  obtain ⟨logged, clock, path, told, exe⟩ := executable_spec s
  obtain ⟨still, names⟩ := newSelfId_spec id (after executable s)
  unfold addSelf
  simp only [outcome_bind, after_bind, told]
  cases found : outcome (newSelfId id) (after executable s) with
  | error raised =>
    rw [still]
    exact .inl ⟨⟨raised, rfl⟩, congrArg (fun w => w.host.selfId) logged.1⟩
  | ok name =>
    obtain ⟨result, added, -⟩ := addItem_returns (ownItem path name timeout) (after executable s)
    have kept : (after (addItem (ownItem path name timeout)) (after executable s)).own.host.selfId =
        s.own.host.selfId :=
      (confers_ownId.addItem _ (after executable s)).trans
        (congrArg (fun w => w.host.selfId) logged.1)
    have named := names name found
    rw [registeredAs, clock, ← registeredAs] at named
    refine .inr ⟨path, name, result, after executable s, exe, named, logged, added, ?_⟩
    simp only [still]
    rw [ownItem] at added kept ⊢
    simp only [added]
    cases result with
    | success content skipped => exact ⟨rfl, rfl, World.events_log _ _ _ _ _⟩
    | failure e => exact ⟨rfl, kept, rfl⟩

/-- **What a registration of the process comes to.** After a success, the last payload that was
written is the request to add the item of the id, with the path of the executable and a name. After
anything else the id is as it was. -/
structure Registers (id : Option String) (timeout : Int) (s : Scene (Watch Client)) : Prop where
  succeeds : ∀ result, outcome (perform (.addSelf id timeout)) s = .ok (.request result) →
    result.ok = true → ∃ path payload t,
      s.world.exe = .ok path ∧ Executable.displayName path ≠ "" ∧
      (Request.add (ownItem path (after (perform (.addSelf id timeout)) s).own.host.selfId
        timeout)).encode = .ok payload ∧
      (after (perform (.addSelf id timeout)) s).world.events = s.world.events ++ t ∧
      (written t).getLast? = some payload
  fails : (∀ result, outcome (perform (.addSelf id timeout)) s = .ok (.request result) →
      result.ok = false) →
    (after (perform (.addSelf id timeout)) s).own.host.selfId = s.own.host.selfId

theorem registers (id : Option String) (timeout : Int) (tended : s.own.registry.Tended none) :
    Registers id timeout s := by
  rcases addSelf_cases id timeout s with ⟨⟨raised, raises⟩, kept⟩ |
    ⟨path, name, result, before, exe, -, logged, added, returns, selfId, events⟩
  · refine ⟨fun result h => ?_, fun _ => ?_⟩
    · rw [perform, outcome_map, raises] at h
      cases h
    · rw [perform, after_map]
      exact kept
  · have answer : outcome (perform (.addSelf id timeout)) s = .ok (.request result) := by
      rw [perform, outcome_map, returns]
      rfl
    refine ⟨fun result' h ok => ?_, fun h => ?_⟩
    · obtain rfl : result = result' := ClientReply.request.inj (Except.ok.inj (answer.symm.trans h))
      have still : before.own.registry.Tended none := by
        rw [logged.1]
        exact tended
      obtain ⟨lacks, payload, t, encoded, wrote, last⟩ := addItem_ok still added ok
      obtain ⟨-, hasPath, hasName⟩ := (ownItem path name timeout).flaw?_eq_none_iff.mp lacks
      rw [perform, after_map]
      rw [if_pos ok] at selfId
      refine ⟨path, payload, t, exe ?_, ?_, selfId ▸ encoded, ?_, last⟩
      · rintro rfl
        cases hasPath
      · intro empty
        rw [ownItem, empty] at hasName
        cases hasName
      · rw [events, wrote, logged.2]
    · rw [perform, after_map, selfId, h result answer]
      rfl

/-! ## The id that was given last -/

/-- A call, and the scene that it is made in. -/
structure Asked where
  scene : Scene (Watch Client)
  call : ClientCall

/-- The id that a call gives to the process: the one that it sets, or that of a registration, if it
returns a success. -/
def Asked.named? (a : Asked) : Option String :=
  match a.call with
  | .setSelfId id => some id
  | .addSelf id timeout =>
    match outcome (perform (.addSelf id timeout)) a.scene with
    | .ok (.request result) => if result.ok then registeredAs a.scene.world id else none
    | _ => none
  | _ => none

theorem Asked.named?_of_not_names {a : Asked} (h : a.call.names = false) : a.named? = none := by
  unfold named?
  split
  · rename_i same
    rw [same] at h
    cases h
  · rename_i same
    rw [same] at h
    cases h
  · rfl

/-- **A call leaves the process the id that it gives**, and if it gives none, the one it had. -/
theorem perform_selfId (c : ClientCall) (s : Scene (Watch Client)) :
    (after (perform c) s).own.host.selfId = (Asked.mk s c).named?.getD s.own.host.selfId := by
  cases names : c.names with
  | false =>
    rw [Asked.named?_of_not_names names]
    exact respects_ownId names s
  | true =>
    cases c with
    | setSelfId id => rfl
    | addSelf id timeout =>
      rcases addSelf_cases id timeout s with ⟨⟨raised, raises⟩, kept⟩ |
        ⟨path, name, result, before, -, named, -, -, returns, selfId, -⟩
      · have answer : outcome (perform (.addSelf id timeout)) s = .error raised := by
          rw [perform, outcome_map, raises]
          rfl
        rw [perform, after_map, kept]
        simp only [Asked.named?, answer, Option.getD_none]
      · have answer : outcome (perform (.addSelf id timeout)) s = .ok (.request result) := by
          rw [perform, outcome_map, returns]
          rfl
        rw [perform, after_map, selfId]
        simp only [Asked.named?, answer, named]
        cases result.ok with
        | true => rfl
        | false => rfl
    | _ => cases names

/-- The scenes that calls lead to, with the calls made so far and the scenes they were made in. -/
inductive Asks (start : Scene (Watch Client)) : List Asked → Scene (Watch Client) → Prop
  | start : Asks start [] start
  | call {asked : List Asked} {s : Scene (Watch Client)} (h : Asks start asked s) (c : ClientCall) :
      Asks start (asked ++ [⟨s, c⟩]) (after (perform c) s)
  | outside {asked : List Asked} {s : Scene (Watch Client)} (h : Asks start asked s)
      (o : Surroundings) : Asks start asked { s with world := s.world.amid o }

theorem Asks.run {start : Scene (Watch Client)} {asked : List Asked} (h : Asks start asked s) :
    Run perform start (asked.map Asked.call) s := by
  induction h with
  | start => exact .start
  | call _ c ih =>
    rw [List.map_append]
    exact .call ih c
  | outside _ o ih => exact .outside ih o

/-- **After any run of calls the id is the one that was given last.** -/
theorem selfId_of_run {start : Scene (Watch Client)} {asked : List Asked}
    (h : Asks start asked s) :
    s.own.host.selfId = (asked.filterMap Asked.named?).getLastD start.own.host.selfId := by
  induction h with
  | start => rfl
  | @call asked s _ c ih =>
    rw [perform_selfId, List.filterMap_append]
    cases given : (Asked.mk s c).named? with
    | none => rw [List.filterMap_cons_none given, List.filterMap_nil, List.append_nil, ← ih]; rfl
    | some id => rw [List.filterMap_cons_some given, List.filterMap_nil, List.getLastD_concat]; rfl
  | outside _ _ ih => exact ih

/-! ## Requests about the process itself -/

/-- **What a request about the process's own item comes to.** It writes the request for exactly that
id or nothing; without an id it fails, and nothing happens. -/
structure AboutItself (call : ClientCall) (request : String → Request) (s : Scene (Watch Client)) :
    Prop where
  writes : ∃ payload t, (request s.own.host.selfId).encode = .ok payload ∧
    (after (perform call) s).world.events = s.world.events ++ t ∧
    (written t = [] ∨ written t = [payload])
  refused : s.own.host.selfId = "" →
    outcome (perform call) s = .ok (.request (refuse .noSelfMonitor)) ∧
      after (perform call) s = s

/-- A call that makes one request for the process's own id is about the process's own item. -/
theorem aboutItself {call : ClientCall} {request : String → Request}
    {x : String → Deed (Result Content)} (does : perform call = .request <$> withSelf x)
    (encoded : (request s.own.host.selfId).encode = .ok payload)
    (writes : s.own.host.selfId ≠ "" → WritesAtMost payload (x s.own.host.selfId) s) :
    AboutItself call request s := by
  have read : outcome current s = .ok s.own.host := rfl
  have kept : after current s = s := rfl
  have answer : outcome (perform call) s = (outcome (withSelf x) s).map .request := by
    rw [does, outcome_map]
  have leads : after (perform call) s = after (withSelf x) s := by
    rw [does, after_map]
  rw [withSelf, outcome_bind, read, kept] at answer
  rw [withSelf, after_bind, read, kept] at leads
  by_cases empty : s.own.host.selfId = ""
  · simp only [empty, if_true] at answer leads
    refine ⟨⟨payload, [], encoded, ?_, .inl rfl⟩, fun _ => ⟨answer, leads⟩⟩
    rw [leads, List.append_nil]
    rfl
  · simp only [empty, if_false] at leads
    obtain ⟨t, events, wrote⟩ := writes empty
    exact ⟨⟨payload, t, encoded, leads ▸ events, wrote⟩, fun h => absurd h empty⟩

/-- The three requests about the process's own item. -/
theorem aboutItself_all (tended : s.own.registry.Tended none) :
    AboutItself .removeSelf .remove s ∧ AboutItself .pauseSelf .stop s ∧
      AboutItself .resumeSelf .start s := by
  have writes {r : Request} (h : r.Sendable) (operation : Operation) :
      WritesAtMost (Text.encodeUtf8 (Json.compact r.payload)) (request r operation) s := by
    obtain ⟨t, events, wrote, -⟩ := request_writes h.encode operation tended
    exact ⟨t, events, wrote⟩
  have remove : (Request.remove s.own.host.selfId).Sendable := .of_none rfl rfl
  have stop : (Request.stop s.own.host.selfId).Sendable := .of_none rfl rfl
  have start : (Request.start s.own.host.selfId).Sendable := .of_none rfl rfl
  refine ⟨aboutItself rfl remove.encode fun given => ?_,
    aboutItself rfl stop.encode fun given => ?_, aboutItself rfl start.encode fun given => ?_⟩
  · rw [removeItem, if_neg given]
    refine (writes remove .removeItem).bind fun result => ?_
    split
    · exact .bind (logs_log _ _ _ _) fun _ => .pure _
    · exact .pure _
  · rw [stopItem, if_neg given]
    exact writes stop .stopItem
  · rw [startItem, if_neg given]
    exact writes start .startItem

/-! ## Every run -/

variable {w : World} {settings : Settings} {options : ClientOptions} {asked : List Asked}

/-- **The id changes on purpose alone.** After any run of calls to a new client, whatever the pipe,
the service manager and the callbacks do, the id is the one that was set last or under which a
registration last succeeded, and it is empty if there was none. A registration that is made then
either succeeds, and the last payload it writes is the request to add the item of the new id, with
the path of the executable and a name; or it leaves the id as it is. The three requests about the
process's own item write at most one payload each, which is the request for exactly that id, and
without an id they fail and nothing happens. -/
theorem selfId_on_purpose (run : Asks ⟨w, { host := create settings options }⟩ asked s) :
    s.own.host.selfId = (asked.filterMap Asked.named?).getLastD "" ∧
      (∀ id timeout, Registers id timeout s) ∧
      AboutItself .removeSelf .remove s ∧ AboutItself .pauseSelf .stop s ∧
      AboutItself .resumeSelf .start s := by
  have tended := tended_of_run run.run
  exact ⟨selfId_of_run run, fun id timeout => registers id timeout tended, aboutItself_all tended⟩

/-- A registration that succeeds, and one that finds no supervisor any more: the first id is kept,
and the process is paused under it. The replies are `{"success":true,"data":[]}`. -/
theorem selfId_on_purpose_of_two :
    let raw : Bytes :=
      [123, 34, 115, 117, 99, 99, 101, 115, 115, 34, 58, 116, 114, 117, 101, 44, 34, 100, 97, 116,
        97, 34, 58, 91, 93, 125]
    let line : Opening := ⟨.ok { reply := raw }, none⟩
    let w : World := { exe := .ok "/opt/agent", pipe := [line, line] }
    let first : ClientCall := .addSelf (some "a") 2000
    let second : ClientCall := .addSelf (some "b") 2000
    let s₀ : Scene (Watch Client) := ⟨w, { host := create {} {} }⟩
    let s₁ := after (perform first) s₀
    let s₂ := after (perform second) s₁
    Asks s₀ [⟨s₀, first⟩, ⟨s₁, second⟩] s₂ ∧ s₂.own.host.selfId = "a" ∧
      ∃ payload t, (Request.stop "a").encode = .ok payload ∧
        (after (perform .pauseSelf) s₂).world.events = s₂.world.events ++ t ∧
        (written t = [] ∨ written t = [payload]) := by
  intro raw line w first second s₀ s₁ s₂
  have run : Asks s₀ [⟨s₀, first⟩, ⟨s₁, second⟩] s₂ := .call (.call .start first) second
  obtain ⟨last, -, -, paused, -⟩ := selfId_on_purpose run
  have given : (Asked.mk s₀ first).named? = some "a" := by decide +kernel
  have failed : (Asked.mk s₁ second).named? = none := by decide +kernel
  rw [List.filterMap_cons_some given, List.filterMap_cons_none failed] at last
  have id : s₂.own.host.selfId = "a" := last
  exact ⟨run, id, id ▸ paused.writes⟩

end Client

end Vigil
