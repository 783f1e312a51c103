import Vigil.Proofs.Channel.Calls
import Vigil.Proofs.Client.Notices

/-!
# What the connection callback attends to

In the course of a step the client sets its flag and calls its callbacks, and a callback may
disconnect while it is called. The connection callback attends to this: what happens is told in a
faithful journal, at whose end the flag is what was told last. This is proved along the operations:
what the callbacks have no part in changes nothing of it, and `setConnected`, `disconnect` and the
report of a failure are the places where they are called.

* `Client.Followed`, `Client.Observes`: what is known of the journal in the course of a step.
* `Client.callBackWithin_attended`: a callback that disconnects is called again meanwhile, by
  induction on how deep the calls may be.
* `Client.perform_attended`: every step is attended to.
-/

namespace Vigil

open Act

namespace Client

variable {α : Type}

/-! ## What the callbacks have no part in -/

/-- The flag and the callbacks are as they were. -/
structure Reticent (c d : Client) : Prop where
  flag : d.connected = c.connected
  connection : d.connectionCallback = c.connectionCallback
  heartbeat : d.heartbeatCallback = c.heartbeatCallback

/-- Leaves the flag and the callbacks as they are. -/
def reticent : Frame Client where
  holds := Reticent
  refl _ := ⟨rfl, rfl, rfl⟩
  trans hab hbc := ⟨hbc.flag.trans hab.flag, hbc.connection.trans hab.connection,
    hbc.heartbeat.trans hab.heartbeat⟩

/-- Calls no callback, and leaves the flag and the callbacks as they are. -/
def aside : Frame (Scene (Watch Client)) :=
  (adding fun e => e.isCallback = false).both reticent.host

theorem spares_aside : aside.Spares :=
  (Frame.spares_adding fun _ => Event.not_isCallback_of_isBeat).both reticent.spares_host

theorem aside_log (source : Source) (level : Int) (message : LooseText) (traced : Bool) :
    Respects aside (Act.log source level message traced) := fun s =>
  ⟨Adding.log source level message traced s, rfl, rfl, rfl⟩

theorem aside_alter {f : Client → Client} (h : ∀ c, Reticent c (f c)) :
    Respects aside (alter f) := fun s =>
  ⟨Adding.update _ s, h s.own.host⟩

theorem aside_onSession {x : Act Session α}
    (h : Respects (adding fun e => e.isCallback = false) x) : Respects aside (onSession x) := by
  intro s
  refine ⟨adding_onSession h s, ?_⟩
  rw [after_onSession]
  exact ⟨rfl, rfl, rfl⟩

theorem aside_onController {x : Act Controller α}
    (h : Respects (adding fun e => e.isCallback = false) x) : Respects aside (onController x) := by
  intro s
  refine ⟨adding_onController h s, ?_⟩
  rw [after_onController]
  exact ⟨rfl, rfl, rfl⟩

/-- To close the connection adds closings alone, and leaves the flag and the callbacks as they
are. -/
theorem closes (s : Scene (Watch Client)) :
    ∃ u, (after (onSession Session.close) s).world.events = s.world.events ++ u ∧
      (∀ e ∈ u, e.isClosing = true) ∧
      Reticent s.own.host (after (onSession Session.close) s).own.host := by
  obtain ⟨u, hu, closing⟩ := Session.adding_close (sessionOf s)
  have quiet := Adding.mono Session.calls_close fun _ => Event.not_isCallback_of_isPipe
  have kept := (aside_onSession quiet s).2
  refine ⟨u, ?_, closing, kept⟩
  rw [after_onSession]
  exact hu

/-! ## What callbacks may do -/

section Scripts

variable {c : Client} {callback : Callback} {action : CallbackAction}

/-- What a callback does in one call is among what it may do. -/
theorem mem_flatten_of_mem_headD (h : action ∈ callback.headD []) : action ∈ callback.flatten := by
  cases callback with
  | nil => cases h
  | cons actions rest => exact List.mem_append_left _ h

theorem mem_flatten_of_mem_tail (h : action ∈ callback.tail.flatten) :
    action ∈ callback.flatten := by
  cases callback with
  | nil => cases h
  | cons actions rest => exact List.mem_append_right _ h

theorem mem_scripts : action ∈ c.scripts ↔
    action ∈ (c.connectionCallback.getD []).flatten ∨
      action ∈ (c.heartbeatCallback.getD []).flatten := by
  rw [scripts, List.flatten_append, List.mem_append]

theorem mem_scripts_of_connection (h : c.connectionCallback = some callback)
    (ha : action ∈ callback.flatten) : action ∈ c.scripts := by
  refine mem_scripts.mpr (.inl ?_)
  rw [h]
  exact ha

theorem mem_scripts_of_heartbeat (h : c.heartbeatCallback = some callback)
    (ha : action ∈ callback.flatten) : action ∈ c.scripts := by
  refine mem_scripts.mpr (.inr ?_)
  rw [h]
  exact ha

end Scripts

/-! ## The course of a step -/

variable {call : ClientCall} {start s s' : Scene (Watch Client)} {t u : List Event} {b : Bool}
  {leave : Deed Unit} {callback : Callback}

/-- The callbacks of the one client are what is left of those of the other. -/
structure Remains (c d : Client) : Prop where
  scripts : ∀ action ∈ d.scripts, action ∈ c.scripts
  registered : d.connectionCallback ≠ none → c.connectionCallback ≠ none

theorem Remains.refl (c : Client) : Remains c c := ⟨fun _ h => h, fun h => h⟩

theorem Remains.trans {c d e : Client} (hcd : Remains c d) (hde : Remains d e) : Remains c e :=
  ⟨fun action h => hcd.scripts action (hde.scripts action h),
    fun h => hcd.registered (hde.registered h)⟩

/-- Of a connection callback that is called, what it does in later calls is left. -/
theorem remains_calling (left : s.own.host.connectionCallback = some callback) :
    Remains s.own.host (calling callback b s).own.host where
  scripts action ha := by
    rcases mem_scripts.mp ha with ha | ha
    · exact mem_scripts_of_connection left (mem_flatten_of_mem_tail ha)
    · exact mem_scripts.mpr (.inr ha)
  registered _ gone := nomatch left.symm.trans gone

/-- And so of a heartbeat callback. -/
theorem remains_alerting (left : s.own.host.heartbeatCallback = some callback) (id : String) :
    Remains s.own.host (alerting callback id s).own.host where
  scripts action ha := by
    rcases mem_scripts.mp ha with ha | ha
    · exact mem_scripts.mpr (.inl ha)
    · exact mem_scripts_of_heartbeat left (mem_flatten_of_mem_tail ha)
  registered h := h

theorem Reticent.remains {c d : Client} (h : Reticent c d) : Remains c d where
  scripts action ha := by
    rw [scripts, h.connection, h.heartbeat] at ha
    exact ha
  registered hd := h.connection ▸ hd

/-- In the course of a step from `start` the journal grew by `t`. What callbacks did is what they
might do then. -/
structure Followed (start s : Scene (Watch Client)) (t : List Event) : Prop where
  events : s.world.events = start.world.events ++ t
  remains : Remains start.own.host s.own.host
  scripted : ∀ id action, .reacts id action ∈ t → action ∈ start.own.host.scripts

/-- The journal is faithful, and the flag is what the connection callback was told last. -/
structure Observes (call : ClientCall) (start s : Scene (Watch Client)) (t : List Event) :
    Prop where
  faithful : Faithful call start.own.host.connected t
  flag : s.own.host.connected = (told t).getLastD start.own.host.connected

/-- In the course of a step, the connection callback is gone or this is known of the journal. -/
def Knows (start : Scene (Watch Client)) (P : Scene (Watch Client) → List Event → Prop)
    (s : Scene (Watch Client)) : Prop :=
  ∃ t, Followed start s t ∧ (s.own.host.connectionCallback = none ∨ P s t)

/-- The connection callback is gone, or has observed the step. -/
def Attended (call : ClientCall) (start : Scene (Watch Client)) : Scene (Watch Client) → Prop :=
  Knows start (Observes call start)

/-- A change may be told next, or anything if `always`, which then is explicit. -/
def Ready (call : ClientCall) (start : Scene (Watch Client)) (always : Bool) :
    Scene (Watch Client) → Prop :=
  Knows start fun s t => Observes call start s t ∧ (always = true → Explicit call t)

/-- The connection callback is due to be told this: it repeats nothing or is made explicitly, and
the flag says so already. -/
def Due (call : ClientCall) (start : Scene (Watch Client)) (b : Bool) :
    Scene (Watch Client) → Prop :=
  Knows start fun s t => Faithful call start.own.host.connected t ∧ s.own.host.connected = b ∧
    ((told t).getLastD start.own.host.connected = b → Explicit call t)

theorem Knows.mono {P Q : Scene (Watch Client) → List Event → Prop} (h : Knows start P s)
    (hPQ : ∀ t, P s t → Q s t) : Knows start Q s := by
  obtain ⟨t, followed, known⟩ := h
  exact ⟨t, followed, known.imp_right (hPQ t)⟩

/-- What callbacks may do now, they might do when the step began. -/
theorem Knows.scripted {P : Scene (Watch Client) → List Event → Prop} {action : CallbackAction}
    (h : Knows start P s) (ha : action ∈ s.own.host.scripts) :
    action ∈ start.own.host.scripts := by
  obtain ⟨t, followed, -⟩ := h
  exact followed.remains.scripts action ha

theorem Attended.ready (h : Attended call start s) : Ready call start false s :=
  h.mono fun _ observes => ⟨observes, nofun⟩

theorem Ready.attended {always : Bool} (h : Ready call start always s) : Attended call start s :=
  h.mono fun _ known => known.1

/-- The frame of what the connection callback attends to. -/
def attends (call : ClientCall) (start : Scene (Watch Client)) : Frame (Scene (Watch Client)) where
  holds a b := Attended call start a → Attended call start b
  refl _ h := h
  trans hab hbc h := hbc (hab h)

theorem Followed.refl (s : Scene (Watch Client)) : Followed s s [] where
  events := (List.append_nil _).symm
  remains := .refl _
  scripted _ _ h := nomatch h

theorem Observes.refl (call : ClientCall) (s : Scene (Watch Client)) : Observes call s s [] where
  faithful := .nil
  flag := rfl

/-- Nothing is added but what callbacks may do. -/
theorem Followed.append (h : Followed start s t) (events : s'.world.events = s.world.events ++ u)
    (scripted : ∀ id action, .reacts id action ∈ u → action ∈ start.own.host.scripts)
    (remains : Remains s.own.host s'.own.host) : Followed start s' (t ++ u) where
  events := by rw [events, h.events, List.append_assoc]
  remains := h.remains.trans remains
  scripted id action ha := (List.mem_append.mp ha).elim (h.scripted id action) (scripted id action)

/-- To set the flag tells nothing and leaves the callbacks. -/
theorem Followed.flagged (h : Followed start s t) (b : Bool) :
    Followed start
      { s with own := { s.own with host := { s.own.host with connected := b } } } t where
  events := h.events
  remains := ⟨h.remains.scripts, h.remains.registered⟩
  scripted := h.scripted

/-- What tells the callback nothing and leaves the flag may come after. -/
theorem Observes.append (h : Observes call start s t) (quiet : ∀ e ∈ u, e.told? = none)
    (flag : s'.own.host.connected = s.own.host.connected) : Observes call start s' (t ++ u) where
  faithful := h.faithful.append quiet
  flag := by
    have nothing : told u = [] := List.filterMap_eq_nil_iff.mpr quiet
    rw [flag, h.flag, told_append, nothing, List.append_nil]

/-- What the callbacks have no part in. -/
theorem Followed.aside (h : Followed start s t) (events : s'.world.events = s.world.events ++ u)
    (hu : ∀ e ∈ u, e.isCallback = false) (kept : Reticent s.own.host s'.own.host) :
    Followed start s' (t ++ u) :=
  h.append events (fun _ _ he => nomatch hu _ he) kept.remains

theorem Observes.aside (h : Observes call start s t) (hu : ∀ e ∈ u, e.isCallback = false)
    (kept : Reticent s.own.host s'.own.host) : Observes call start s' (t ++ u) :=
  h.append (fun e he => Event.told?_of_not_isCallback (hu e he)) kept.flag

theorem attends_of_aside {x : Deed α} (h : Respects aside x) :
    Respects (attends call start) x := by
  rintro s ⟨t, followed, known⟩
  obtain ⟨⟨u, events, hu⟩, kept⟩ := h s
  exact ⟨t ++ u, followed.aside events hu kept,
    known.imp kept.connection.trans fun observes => observes.aside hu kept⟩

theorem Attended.of_same (h : Attended call start s) (events : s'.world.events = s.world.events)
    (host : s'.own.host = s.own.host) : Attended call start s' := by
  obtain ⟨t, followed, known⟩ := h
  refine ⟨t, ⟨events.trans followed.events, ?_, followed.scripted⟩, ?_⟩
  · rw [host]
    exact followed.remains
  · rw [host]
    exact known.imp_right fun observes => ⟨observes.faithful, host ▸ observes.flag⟩

theorem spares_attends : (attends call start).Spares where
  registry f := attends_of_aside (spares_aside.registry f)
  log level message traced := attends_of_aside (spares_aside.log level message traced)
  note he := attends_of_aside (spares_aside.note he)
  speaking speaker x h := by
    intro s hs
    have spoken := h { s with world := { s.world with speaker } } (hs.of_same rfl rfl)
    rw [after_speaking]
    exact spoken.of_same rfl rfl

theorem attends_log (source : Source) (level : Int) (message : LooseText) (traced : Bool) :
    Respects (attends call start) (Act.log source level message traced) :=
  attends_of_aside (aside_log source level message traced)

/-! ## What a callback does -/

/-- It is marked what a callback does. To disconnect then is explicit. -/
theorem Attended.reacts (h : Attended call start s) (id : Option String) {action : CallbackAction}
    (scripted : action ∈ start.own.host.scripts) :
    Ready call start (action = .disconnect) (after (Act.note (.reacts id action)) s) := by
  obtain ⟨t, followed, known⟩ := h
  rw [after_note]
  refine ⟨t ++ [.reacts id action], followed.append (World.events_note _ _) ?_ (.refl _),
    known.imp_right fun observes => ⟨observes.append (List.forall_mem_singleton.mpr rfl) rfl, ?_⟩⟩
  · intro id' action' ha
    cases List.mem_singleton.mp ha
    exact scripted
  · intro explicit
    obtain rfl : action = .disconnect := of_decide_eq_true explicit
    exact .inr ⟨t, id, [], rfl, List.forall_mem_nil _⟩

/-- **What a callback does is attended to**, if what follows when it disconnects is. -/
theorem attends_react
    (hl : Triple (Ready call start true) leave (fun _ => Attended call start) (Attended call start))
    (id : Option String) {action : CallbackAction} (scripted : action ∈ start.own.host.scripts) :
    Respects (attends call start) (react leave id action) := by
  intro s hs
  have noted := hs.reacts id scripted
  have attended := noted.attended
  unfold react
  rw [after_bind]
  cases action with
  | fail => exact attended
  | stopArgument =>
    cases id with
    | some id => exact Respects.discard (spares_attends.stop id) _ attended
    | none => exact attended
  | stop id => exact Respects.discard (spares_attends.stop id) _ attended
  | stopAll => exact spares_attends.stopAll _ attended
  | disconnect => exact hl.after noted
  | unset =>
    obtain ⟨t, followed, -⟩ := attended
    have unset : Remains s.own.host
        { s.own.host with heartbeatCallback := none, connectionCallback := none } :=
      ⟨fun _ ha => (nomatch ha), fun h => absurd rfl h⟩
    exact ⟨t, ⟨followed.events, followed.remains.trans unset, followed.scripted⟩, .inl rfl⟩

theorem attends_respond
    (hl : Triple (Ready call start true) leave (fun _ => Attended call start) (Attended call start))
    (id : Option String) {actions : List CallbackAction}
    (scripted : ∀ action ∈ actions, action ∈ start.own.host.scripts) (complaint : String) :
    Respects (attends call start) (respond leave id actions complaint) :=
  respects_respond attends_log (fun action ha => attends_react hl id (scripted action ha)) complaint

/-! ## The callback is called -/

/-- The connection callback is told what it is due to be told. -/
theorem Due.calling (h : Due call start b s)
    (left : s.own.host.connectionCallback = some callback) :
    Attended call start (calling callback b s) := by
  obtain ⟨t, followed, known⟩ := h
  refine ⟨_, followed.append (World.events_note _ _) ?_ (remains_calling left), .inr ?_⟩
  · intro id action ha
    cases List.mem_singleton.mp ha
  · rcases known with gone | ⟨faithful, flag, explicit⟩
    · cases left.symm.trans gone
    · exact ⟨faithful.notice explicit, flag.trans (lastTold_notice t _ b).symm⟩

/-- The callback is called, if it is there. -/
theorem callBack_attended
    (hl : Triple (Ready call start true) leave (fun _ => Attended call start) (Attended call start))
    (b : Bool) :
    Triple (Due call start b) (callBack leave b) (fun _ => Attended call start)
      (Attended call start) := by
  refine .of_after fun s due => ?_
  cases left : s.own.host.connectionCallback with
  | none =>
    obtain ⟨t, followed, -⟩ := due
    rw [(callBack_of_none left leave b).2]
    exact ⟨t, followed, .inl left⟩
  | some callback =>
    have scripted : ∀ action ∈ callback.headD [], action ∈ start.own.host.scripts :=
      fun _ ha => due.scripted (mem_scripts_of_connection left (mem_flatten_of_mem_headD ha))
    rw [(callBack_of_some left leave b).2]
    exact attends_respond hl none scripted _ _ (due.calling left)

/-- To close the connection makes nothing less explicit. -/
theorem Ready.closed {always : Bool} (h : Ready call start always s) :
    Ready call start always (after (onSession Session.close) s) := by
  obtain ⟨t, followed, known⟩ := h
  obtain ⟨u, events, closing, kept⟩ := closes s
  have quiet : ∀ e ∈ u, e.isCallback = false := fun e he =>
    Event.not_isCallback_of_isClosing (closing e he)
  exact ⟨t ++ u, followed.aside events quiet kept, known.imp kept.connection.trans
    fun ⟨observes, explicit⟩ => ⟨observes.aside quiet kept, fun h => (explicit h).closing closing⟩⟩

/-- To disconnect explicitly makes an explicit notice. -/
theorem hangUp_attended {tell : Bool → Deed Unit}
    (ht : Triple (Due call start false) (tell false) (fun _ => Attended call start)
      (Attended call start)) :
    Triple (Ready call start true) (hangUp tell) (fun _ => Attended call start)
      (Attended call start) := by
  refine .bind (Q := fun _ => Ready call start true)
    (.intro (fun s _ hs _ => hs.closed) fun s _ hs _ => hs.closed.attended) fun _ => ?_
  refine .bind (Q := fun _ => Due call start false) (.update ?_) fun _ => ht
  rintro s ⟨t, followed, known⟩
  exact ⟨t, followed.flagged false, known.imp_right
    fun ⟨observes, explicit⟩ => ⟨observes.faithful, rfl, fun _ => explicit rfl⟩⟩

/-- **A callback that is called observes what it is told**, and all that it does meanwhile, be it to
disconnect: then it is called again, less deep. -/
theorem callBackWithin_attended (depth : Nat) (b : Bool) :
    Triple (Due call start b) (callBackWithin depth b) (fun _ => Attended call start)
      (Attended call start) := by
  induction depth generalizing b with
  | zero => exact callBack_attended (.pure fun _ hs => hs.attended) b
  | succ depth ih => exact callBack_attended (hangUp_attended (ih false)) b

/-- Tells the connection callback what it is due to be told. -/
theorem notify_attended (b : Bool) :
    Triple (Due call start b) (notify b) (fun _ => Attended call start) (Attended call start) :=
  .bind triple_current fun _ => (callBackWithin_attended _ b).of_pre fun _ hs => hs.1

theorem disconnect_attended :
    Triple (Ready call start true) disconnect (fun _ => Attended call start)
      (Attended call start) := hangUp_attended (notify_attended false)

/-- **The flag is set, and the connection callback is told** if it changed, or in any case. -/
theorem setConnected_attended (b always : Bool) :
    Triple (Ready call start always) (setConnected b always) (fun _ => Attended call start)
      (Attended call start) := by
  refine .bind triple_current fun c => ?_
  refine .bind (Q := fun _ => Knows start fun s t => Faithful call start.own.host.connected t ∧
    s.own.host.connected = b ∧ (told t).getLastD start.own.host.connected = c.connected ∧
    (always = true → Explicit call t)) (.update ?_) fun _ => ?_
  · rintro s ⟨⟨t, followed, known⟩, rfl⟩
    exact ⟨t, followed.flagged b, known.imp_right
      fun ⟨observes, explicit⟩ => ⟨observes.faithful, rfl, observes.flag.symm, explicit⟩⟩
  · split
    · rename_i tells
      refine (notify_attended b).of_pre fun s hs => hs.mono ?_
      rintro t ⟨faithful, flag, last, explicit⟩
      refine ⟨faithful, flag, fun repeats => explicit ?_⟩
      simpa [last.symm.trans repeats] using tells
    · rename_i silent
      have same : c.connected = b := by
        simp only [Bool.or_eq_true, decide_eq_true_eq, not_or, Decidable.not_not] at silent
        exact silent.1
      refine .pure fun s hs => hs.mono ?_
      rintro t ⟨faithful, flag, last, -⟩
      exact ⟨faithful, flag.trans (last.trans same).symm⟩

/-! ## What operations are made of -/

theorem attends_setConnected (b : Bool) : Respects (attends call start) (setConnected b) :=
  fun _ hs => ((setConnected_attended b false).of_pre fun _ => Attended.ready).after hs

theorem attends_exchange (r : Request) : Respects (attends call start) (exchange r) := by
  refine .bind (.orStumble _) fun payload => .bind respects_current fun c => ?_
  refine attends_of_aside (aside_onSession ?_)
  exact Session.adding_exchange (fun _ => rfl) (fun _ => Event.not_isCallback_of_isPipe) _ _

theorem attends_request (r : Request) (operation : Operation) :
    Respects (attends call start) (request r operation) :=
  .bind (.attempt (attends_exchange r))
    (respects_settle attends_log attends_setConnected r operation)

theorem attends_addItem (item : Item) : Respects (attends call start) (addItem item) := by
  unfold addItem
  split
  · exact .pure _
  · refine .bind (attends_request _ _) fun listed => ?_
    split
    · exact .pure _
    · exact .pure _
    · split
      · exact .pure _
      · refine .bind (attends_request _ _) fun result => ?_
        split
        · exact .bind (attends_log _ _ _ _) fun _ => .pure _
        · exact .pure _

/-- The heartbeat callback is called. -/
theorem Attended.alerting (h : Attended call start s)
    (left : s.own.host.heartbeatCallback = some callback) (id : String) :
    Attended call start (alerting callback id s) := by
  obtain ⟨t, followed, known⟩ := h
  refine ⟨_, followed.append (World.events_note _ _) ?_ (remains_alerting left id),
    known.imp_right fun observes => observes.append (List.forall_mem_singleton.mpr rfl) rfl⟩
  intro id action ha
  cases List.mem_singleton.mp ha

/-- A failure is reported to the heartbeat callback, which may disconnect. -/
theorem reportFailure_attended (id : String) :
    Triple (Attended call start) (reportFailure id) (fun _ => Attended call start)
      (Attended call start) := by
  refine .of_after fun s attended => ?_
  cases left : s.own.host.heartbeatCallback with
  | none =>
    obtain ⟨_, _, same⟩ := reportFailure_of_none left id
    rw [same]
    exact attended
  | some callback =>
    have scripted : ∀ action ∈ callback.headD [], action ∈ start.own.host.scripts :=
      fun _ ha => attended.scripted (mem_scripts_of_heartbeat left (mem_flatten_of_mem_headD ha))
    rw [after_reportFailure_of_some left]
    exact attends_respond disconnect_attended (some id) scripted _ _ (attended.alerting left id)

theorem sustains_attends : Sustains (attends call start) where
  spares := spares_attends
  stop := spares_attends.stop
  stopAll := spares_attends.stopAll
  log := attends_log
  setSelfId _ := attends_of_aside (aside_alter fun _ => ⟨rfl, rfl, rfl⟩)
  controller h := attends_of_aside (aside_onController
    (Adding.mono h fun _ => Event.not_isCallback_of_isService))
  request _ operation := attends_request _ operation
  addItem := attends_addItem
  report id _ hs := (reportFailure_attended id).after hs

theorem attends_updateItem (item : Item) : Respects (attends call start) (updateItem item) := by
  unfold updateItem
  split
  · exact .pure _
  · exact attends_request _ _

/-! ## Calls that connect or disconnect -/

/-- No callback was called in the step yet. -/
def Unheard (call : ClientCall) (start : Scene (Watch Client)) : Scene (Watch Client) → Prop :=
  Knows start fun s t => Observes call start s t ∧ ∀ e ∈ t, e.isCallback = false

theorem Unheard.refl (call : ClientCall) (s : Scene (Watch Client)) : Unheard call s s :=
  ⟨[], .refl s, .inr ⟨.refl call s, List.forall_mem_nil _⟩⟩

theorem Unheard.attended (h : Unheard call start s) : Attended call start s :=
  h.mono fun _ known => known.1

theorem Unheard.ready (h : Unheard call start s) (hc : call.isExplicit = true) :
    Ready call start true s :=
  h.mono fun _ ⟨observes, quiet⟩ => ⟨observes, fun _ => .inl ⟨hc, quiet⟩⟩

theorem unheard_of_aside {x : Deed α} (h : Respects aside x) :
    Triple (Unheard call start) x (fun _ => Unheard call start) (Unheard call start) := by
  refine .of_after fun s hs => ?_
  obtain ⟨t, followed, known⟩ := hs
  obtain ⟨⟨u, events, hu⟩, kept⟩ := h s
  exact ⟨t ++ u, followed.aside events hu kept, known.imp kept.connection.trans
    fun ⟨observes, quiet⟩ => ⟨observes.aside hu kept, List.forall_mem_append.mpr ⟨quiet, hu⟩⟩⟩

/-- If it fails, the step may end there. -/
theorem unheard_or_attended {x : Deed α} (h : Respects aside x) :
    Triple (Unheard call start) x (fun _ => Unheard call start) (Attended call start) :=
  (unheard_of_aside h).mono (fun _ hs => hs) (fun _ _ hs => hs) fun _ hs => hs.attended

theorem connect_attended (hc : call.isExplicit = true) (timeout : Option Float) :
    Triple (Unheard call start) (connect timeout) (fun _ => Attended call start)
      (Attended call start) := by
  have told (b : Bool) : Triple (Unheard call start) (setConnected b true)
      (fun _ => Attended call start) (Attended call start) :=
    (setConnected_attended b true).of_pre fun _ hs => hs.ready hc
  refine .bind (unheard_or_attended respects_current) fun c => ?_
  dsimp only
  refine .bind (Q := fun _ => Unheard call start) (.attempt (unheard_of_aside (aside_onSession
    (Adding.mono (Session.calls_connect _) fun _ => Event.not_isCallback_of_isPipe)))
    fun _ _ hs => hs) fun outcome => ?_
  split
  · exact .bind (told true) fun _ => .pure fun _ hs => hs
  · exact .bind (unheard_or_attended (aside_log _ _ _ _)) fun _ => .bind (told false) fun _ =>
      .pure fun _ hs => hs
  · exact .throw fun _ hs => hs.attended

theorem close_attended (hc : call.isExplicit = true) :
    Triple (Unheard call start) close (fun _ => Attended call start) (Attended call start) :=
  .bind (unheard_or_attended spares_aside.stopAll) fun _ =>
    disconnect_attended.of_pre fun _ hs => hs.ready hc

/-- **The connection callback attends to every step** that sets no callback. -/
theorem perform_attended (s : Scene (Watch Client)) (registers : call.registers = false) :
    Attended call s (after (perform call) s) := by
  cases explicit : call.isExplicit with
  | false =>
    exact sustains_attends.perform explicit registers (fun item _ => attends_updateItem item) s
      (Unheard.refl call s).attended
  | true =>
    have silent {x : Deed Unit} (h : Triple (Unheard call s) x (fun _ => Attended call s)
        (Attended call s)) : Attended call s (after (Client.silent x) s) :=
      Triple.after (.bind h fun _ => .pure fun _ hs => hs) (Unheard.refl call s)
    cases call with
    | connect timeout =>
      rw [perform, after_map]
      exact (connect_attended explicit timeout).after (Unheard.refl _ s)
    | disconnect => exact silent (disconnect_attended.of_pre fun _ hs => hs.ready explicit)
    | close => exact silent (close_attended explicit)
    | _ => cases explicit

end Client

end Vigil
