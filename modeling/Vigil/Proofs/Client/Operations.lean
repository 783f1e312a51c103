import Vigil.Client.Call
import Vigil.Proofs.Number.Truncate
import Vigil.Proofs.Protocol.Sendable
import Vigil.Proofs.Reporter.Host
import Vigil.Proofs.Service.Handles

/-!
# What the operations of a client are made of

Apart from the calls that connect, disconnect or set a callback, an operation is made of requests,
of failures that are reported to the heartbeat callback, of calls of the service manager, and of
what the reporters do. A frame that is sustained by these is kept by the operation.

* `Client.Allows`, `Client.Allows.perform`: the frames that are kept by what sends no heartbeat and
  gives the process no id.
* `Client.Upholds`, `Client.Upholds.perform`: those that are kept by what gives it one, too.
* `Client.Sustains`, `Client.Sustains.perform`: those that are kept by what sends heartbeats, too.
-/

namespace Vigil

open Act

/-- The call asks to connect or to disconnect. -/
def ClientCall.isExplicit : ClientCall → Bool
  | .connect _ | .disconnect | .close => true
  | _ => false

/-- The call sets a callback. -/
def ClientCall.registers : ClientCall → Bool
  | .setHeartbeatCallback _ | .setConnectionCallback _ => true
  | _ => false

/-- The call may give the process's own item an id. -/
def ClientCall.names : ClientCall → Bool
  | .setSelfId _ | .addSelf .. => true
  | _ => false

/-- The call may send a heartbeat. -/
def ClientCall.sends : ClientCall → Bool
  | .sendHeartbeat _ | .startReporter .. | .startSelfReporter _ | .tick _ => true
  | _ => false

namespace Client

/-- What operations are made of that send no heartbeat and give the process no id keeps the frame.
Whether an update does, whose request may have no bytes, is left open. -/
structure Allows (F : Frame (Scene (Watch Client))) : Prop where
  log : ∀ source level message traced, Respects F (Act.log source level message traced)
  stop : ∀ id, Respects F (Watch.stop id)
  stopAll : Respects F Watch.stopAll
  controller : ∀ {α : Type} {x : Act Controller α},
    Respects (adding fun e => e.isService) x → Respects F (onController x)
  request : ∀ {r : Request}, r.Sendable → ∀ operation, Respects F (request r operation)
  addItem : ∀ item, Respects F (addItem item)

/-- And the process may be given an id. -/
structure Upholds (F : Frame (Scene (Watch Client))) : Prop extends Allows F where
  setSelfId : ∀ id, Respects F (setSelfId id)

/-- And what the reporters do keeps it, heartbeats included. -/
structure Sustains (F : Frame (Scene (Watch Client))) : Prop extends Upholds F where
  spares : F.Spares
  report : ∀ id, Respects F (reportFailure id)

theorem respects_current {F : Frame (Scene (Watch Client))} : Respects F current := .map _ .own

/-- The client that is read is the one that is there. -/
theorem triple_current {P E : Scene (Watch Client) → Prop} :
    Triple P current (fun c s => P s ∧ s.own.host = c) E :=
  .bind .own fun _ => .pure fun _ ⟨hs, read⟩ => ⟨hs, congrArg Watch.host read⟩

theorem adding_onSession {α : Type} {P : Event → Prop} {x : Act Session α}
    (h : Respects (adding P) x) : Respects (adding P) (onSession x) := by
  rw [onSession, Watch.hosted]
  exact Adding.within (Adding.within h)

theorem adding_onController {α : Type} {P : Event → Prop} {x : Act Controller α}
    (h : Respects (adding P) x) : Respects (adding P) (onController x) := by
  rw [onController, Watch.hosted]
  exact Adding.within (Adding.within h)

/-! ## Callbacks -/

/-- The scene in which a callback that is there starts to answer. -/
def calling (callback : Callback) (connected : Bool) (s : Scene (Watch Client)) :
    Scene (Watch Client) where
  world := s.world.note (.connectionCallback connected)
  own := { s.own with host := { s.own.host with connectionCallback := some callback.tail } }

theorem callBack_of_some {s : Scene (Watch Client)} {callback : Callback}
    (h : s.own.host.connectionCallback = some callback) (leave : Deed Unit) (connected : Bool) :
    let responds := respond leave none (callback.headD []) "Connection-changed callback raised: "
    outcome (callBack leave connected) s = outcome responds (calling callback connected s) ∧
      after (callBack leave connected) s = after responds (calling callback connected s) := by
  have read : outcome current s = .ok s.own.host := rfl
  have kept : after current s = s := rfl
  rw [callBack, outcome_bind, after_bind, read, kept]
  dsimp only
  rw [h]
  exact ⟨rfl, rfl⟩

theorem callBack_of_none {s : Scene (Watch Client)} (h : s.own.host.connectionCallback = none)
    (leave : Deed Unit) (connected : Bool) :
    outcome (callBack leave connected) s = .ok () ∧ after (callBack leave connected) s = s := by
  have read : outcome current s = .ok s.own.host := rfl
  have kept : after current s = s := rfl
  rw [callBack, outcome_bind, after_bind, read, kept]
  dsimp only
  rw [h]
  exact ⟨rfl, rfl⟩

/-- Without a connection callback nobody is told. -/
theorem notify_of_none {s : Scene (Watch Client)} (h : s.own.host.connectionCallback = none)
    (connected : Bool) : Reaches s (notify connected) fun _ t => t = s := by
  refine .bind ⟨s.own.host, rfl, ?_⟩
  dsimp only
  rw [h]
  exact ⟨(), callBack_of_none h _ connected⟩

/-- The scene in which a heartbeat callback that is there starts to answer. -/
def alerting (callback : Callback) (id : String) (s : Scene (Watch Client)) :
    Scene (Watch Client) where
  world := s.world.note (.heartbeatCallback id)
  own := { s.own with host := { s.own.host with heartbeatCallback := some callback.tail } }

theorem after_reportFailure_of_some {s : Scene (Watch Client)} {callback : Callback}
    (h : s.own.host.heartbeatCallback = some callback) (id : String) :
    after (reportFailure id) s = after (respond disconnect (some id) (callback.headD [])
      s!"Heartbeat-failed callback raised for '{id}': ") (alerting callback id s) := by
  have read : outcome current s = .ok s.own.host := rfl
  have kept : after current s = s := rfl
  rw [reportFailure, after_bind, read, kept]
  dsimp only
  rw [h]
  rfl

/-- Without a heartbeat callback nothing is done about a failure. -/
theorem reportFailure_of_none {s : Scene (Watch Client)} (h : s.own.host.heartbeatCallback = none)
    (id : String) : Reaches s (reportFailure id) fun _ t => t = s := by
  refine .bind ⟨s.own.host, rfl, ?_⟩
  dsimp only
  rw [h]
  exact .pure rfl

/-- The response of a callback keeps a frame that everything it does keeps. -/
theorem respects_respond {F : Frame (Scene (Watch Client))} {leave : Deed Unit} {id : Option String}
    {actions : List CallbackAction}
    (log : ∀ source level message traced, Respects F (Act.log source level message traced))
    (reacts : ∀ action ∈ actions, Respects F (react leave id action)) (complaint : String) :
    Respects F (respond leave id actions complaint) := by
  refine .bind (.attempt (.forM_of_mem reacts)) fun outcome => ?_
  split
  · exact log _ _ _ _
  · exact .pure _

/-- What a callback does keeps a frame that minds neither the mark nor what the callback may do. -/
theorem respects_react {F : Frame (Scene (Watch Client))} {leave : Deed Unit}
    (reacts : ∀ id action, Respects F (Act.note (.reacts id action)))
    (stop : ∀ id, Respects F (Watch.stop id)) (stopAll : Respects F Watch.stopAll)
    (unset : Respects F
      (alter fun c => { c with heartbeatCallback := none, connectionCallback := none }))
    (hl : Respects F leave) (id : Option String) (action : CallbackAction) :
    Respects F (react leave id action) := by
  refine .bind (reacts id action) fun _ => ?_
  cases action with
  | fail => exact .stumble _
  | stopArgument =>
    cases id with
    | some id => exact .discard (stop id)
    | none => exact .pure _
  | stop id => exact .discard (stop id)
  | stopAll => exact stopAll
  | disconnect => exact hl
  | unset => exact unset

/-- The frame does not mind that the connection callback is called, nor what a callback does but to
disconnect. -/
structure Suffers (F : Frame (Scene (Watch Client))) : Prop where
  told : ∀ connected, Respects F (Act.note (.connectionCallback connected))
  log : ∀ source level message traced, Respects F (Act.log source level message traced)
  callback : ∀ callback, Respects F (alter fun c => { c with connectionCallback := callback })
  react : ∀ {leave : Deed Unit}, Respects F leave →
    ∀ id action, Respects F (react leave id action)

namespace Suffers

variable {F : Frame (Scene (Watch Client))} {leave : Deed Unit}

theorem respond (h : Suffers F) (hl : Respects F leave) (id : Option String)
    (actions : List CallbackAction) (complaint : String) :
    Respects F (respond leave id actions complaint) :=
  respects_respond h.log (fun action _ => h.react hl id action) complaint

theorem callBack (h : Suffers F) (hl : Respects F leave) (connected : Bool) :
    Respects F (callBack leave connected) := by
  refine .bind respects_current fun c => ?_
  split
  · exact .bind (h.told _) fun _ => .bind (h.callback _) fun _ => h.respond hl _ _ _
  · exact .pure _

/-- By induction on how deep the calls may be: what disconnects calls back again, less deep. -/
theorem callBackWithin (h : Suffers F)
    (leaves : ∀ tell : Bool → Deed Unit, (∀ connected, Respects F (tell connected)) →
      Respects F (hangUp tell)) (depth : Nat) (connected : Bool) :
    Respects F (callBackWithin depth connected) := by
  induction depth generalizing connected with
  | zero => exact h.callBack (.pure _) connected
  | succ depth ih => exact h.callBack (leaves _ ih) connected

theorem notify (h : Suffers F)
    (leaves : ∀ tell : Bool → Deed Unit, (∀ connected, Respects F (tell connected)) →
      Respects F (hangUp tell)) (connected : Bool) : Respects F (notify connected) :=
  .bind respects_current fun _ => h.callBackWithin leaves _ connected

/-- The heartbeat callback may be called if the frame does not mind this either. -/
theorem reportFailure (h : Suffers F) (hl : Respects F disconnect) {id : String}
    (report : Respects F (Act.note (.heartbeatCallback id)))
    (callback : ∀ callback, Respects F (alter fun c => { c with heartbeatCallback := callback })) :
    Respects F (reportFailure id) := by
  refine .bind respects_current fun c => ?_
  split
  · exact .bind report fun _ => .bind (callback _) fun _ => h.respond hl _ _ _
  · exact .pure _

end Suffers

/-! ## Requests -/

/-- To decode a reply is to log something at most. -/
theorem respects_interpret {F : Frame (Scene (Watch Client))}
    (log : ∀ source level message traced, Respects F (Act.log source level message traced))
    (r : Request) (operation : Operation) (raw : Bytes) :
    Respects F (interpret r operation raw) := by
  refine .bind (.forM fun _ => log _ _ _ _) fun _ => ?_
  split
  · exact .bind (log _ _ _ _) fun _ => .pure _
  · split <;> exact .pure _

/-- A request that has bytes is exchanged by the session of the client. -/
theorem exchange_eq {r : Request} {payload : Bytes} (h : r.encode = .ok payload)
    (s : Scene (Watch Client)) :
    outcome (exchange r) s =
        outcome (Session.exchange payload s.own.host.connectTimeout) (sessionOf s) ∧
      after (exchange r) s =
        after (onSession (Session.exchange payload s.own.host.connectTimeout)) s := by
  have read : outcome current s = .ok s.own.host := rfl
  have kept : after current s = s := rfl
  have made : exchange r = (do
      let c ← current
      onSession (Session.exchange payload c.connectTimeout)) := by
    rw [exchange, h]
    rfl
  rw [made, outcome_bind, after_bind, read, kept]
  exact ⟨outcome_onSession _ s, rfl⟩

/-- What a request does when its exchange is over. -/
def settle (r : Request) (operation : Operation) : Except Raised Bytes → Deed (Result Content)
  | .ok raw => do
    setConnected true
    interpret r operation raw
  | .error (.error (.channel fault)) => do
    log Level.debug s!"{operation.label} failed on the channel: {fault.message}"
    setConnected false
    pure (.failure (.channel fault))
  | .error (.error e) => do
    setConnected true
    log Level.debug (operation.label ++ " failed: " ++ e.message)
    pure (.failure e)
  | .error (.mishap mishap) => do
    setConnected false
    log Level.error s!"Unexpected error during {operation.label}: {mishap.message}" true
    pure (.failure (.refused (.unexpected operation mishap)))

theorem request_eq (r : Request) (operation : Operation) :
    request r operation = attempt (exchange r) >>= settle r operation := rfl

/-- When its exchange is over, a request sets the flag and logs something. -/
theorem respects_settle {F : Frame (Scene (Watch Client))}
    (log : ∀ source level message traced, Respects F (Act.log source level message traced))
    (set : ∀ connected, Respects F (setConnected connected)) (r : Request) (operation : Operation)
    (outcome : Except Raised Bytes) : Respects F (settle r operation outcome) := by
  unfold settle
  split
  · exact .bind (set _) fun _ => respects_interpret log r operation _
  · exact .bind (log _ _ _ _) fun _ => .bind (set _) fun _ => .pure _
  · exact .bind (set _) fun _ => .bind (log _ _ _ _) fun _ => .pure _
  · exact .bind (set _) fun _ => .bind (log _ _ _ _) fun _ => .pure _

/-- The time of a heartbeat can always be written. -/
theorem sendable_heartbeat {s : Scene (Watch Client)} {id : String} {millis : Int}
    (h : outcome Act.epochMillis s = .ok millis) : (Request.heartbeat id millis).Sendable := by
  refine ⟨rfl, fun n hn => ?_⟩
  obtain rfl : millis = n := Option.some.inj hn
  exact Number.not_tooLongToWrite_of_truncate ((outcome_epochMillis_eq_ok_iff s millis).mp h)

namespace Allows

variable {α : Type} {F : Frame (Scene (Watch Client))}

/-! ## Items -/

/-- A success is told in the log. -/
theorem tell (h : Allows F) (result : Result Content) (message : LooseText) :
    Respects F (do
      if result.ok then Client.log Level.info message
      pure result) := by
  split
  · exact .bind (h.log _ _ _ _) fun _ => .pure _
  · exact .pure _

theorem removeItem (h : Allows F) (id : String) : Respects F (removeItem id) := by
  unfold Client.removeItem
  split
  · exact .pure _
  · exact .bind (h.request (.of_none rfl rfl) _) fun result => h.tell result _

theorem startItem (h : Allows F) (id : String) : Respects F (startItem id) := by
  unfold Client.startItem
  split
  · exact .pure _
  · exact h.request (.of_none rfl rfl) _

theorem stopItem (h : Allows F) (id : String) : Respects F (stopItem id) := by
  unfold Client.stopItem
  split
  · exact .pure _
  · exact h.request (.of_none rfl rfl) _

/-! ## The service -/

theorem isInstalled (h : Allows F) : Respects F isServiceInstalled :=
  h.controller (Controller.calls_of_scopes Controller.isInstalled_scopes)

theorem isRunning (h : Allows F) : Respects F isServiceRunning :=
  h.controller (Controller.calls_of_scopes Controller.isRunning_scopes)

theorem serviceCall (h : Allows F) (operation : Operation) {x : Act Controller α}
    (hx : Controller.Scopes [] x) : Respects F (serviceCall operation x) := by
  refine .bind (.attempt (h.controller (Controller.calls_of_scopes hx))) fun outcome => ?_
  split
  · exact .pure _
  · exact .bind (h.log _ _ _ _) fun _ => .pure _
  · exact .bind (h.log _ _ _ _) fun _ => .pure _

theorem installService (h : Allows F) (path : String) : Respects F (installService path) :=
  h.serviceCall _ (Controller.install_scopes path)

theorem startService (h : Allows F) : Respects F startService :=
  h.serviceCall _ Controller.start_scopes

theorem startIfStopped (h : Allows F) : Respects F startIfStopped := by
  refine .bind h.isRunning fun running => ?_
  split
  · exact .pure _
  · refine .bind h.startService fun result => ?_
    split <;> exact .pure _

theorem quickSetup (h : Allows F) (path : String) : Respects F (quickSetup path) := by
  refine .bind h.isInstalled fun installed => ?_
  split
  · exact h.startIfStopped
  · refine .bind (h.installService path) fun result => ?_
    split
    · exact h.startIfStopped
    · exact .pure _

theorem ensureServiceRunning (h : Allows F) : Respects F ensureServiceRunning := by
  refine .bind h.isInstalled fun installed => ?_
  split
  · exact h.startIfStopped
  · exact .pure _

/-! ## The process itself -/

theorem executable (h : Allows F) : Respects F (executable (σ := Watch Client)) := by
  refine .bind .world fun w => ?_
  split
  · exact .pure _
  · exact .bind (h.log _ _ _ _) fun _ => .pure _

theorem epochMillis : Respects F (Act.epochMillis (σ := Watch Client)) :=
  .bind .world fun _ => .orStumble _

theorem newSelfId (id : Option String) : Respects F (newSelfId id) := by
  have ofTime : Respects F (do return s!"self-{← Act.epochMillis}" : Deed String) :=
    .bind epochMillis fun _ => .pure _
  unfold Client.newSelfId
  split
  · split
    · exact ofTime
    · exact .pure _
  · exact ofTime

theorem withSelf {x : String → Deed (Result Content)} (hx : ∀ id, Respects F (x id)) :
    Respects F (withSelf x) := by
  refine .bind respects_current fun c => ?_
  dsimp only
  split
  · exact .pure _
  · exact hx _

theorem stopSelfReporter (h : Allows F) : Respects F stopSelfReporter := by
  refine .bind respects_current fun c => ?_
  dsimp only
  split
  · exact .pure _
  · exact h.stop _

/-! ## All of them -/

/-- A call that neither connects nor disconnects nor sets a callback nor sends a heartbeat nor gives
the process an id keeps a frame that allows for it. -/
theorem perform (h : Allows F) {c : ClientCall} (explicit : c.isExplicit = false)
    (registers : c.registers = false) (sends : c.sends = false) (names : c.names = false)
    (update : ∀ item, c = .updateItem item → Respects F (updateItem item)) :
    Respects F (perform c) := by
  cases c with
  | setHeartbeatCallback callback => cases registers
  | setConnectionCallback callback => cases registers
  | connect timeout => cases explicit
  | disconnect => cases explicit
  | close => cases explicit
  | listItems => exact .map _ (h.request (.of_none rfl rfl) _)
  | addItem item => exact .map _ (h.addItem item)
  | updateItem item => exact .map _ (update item rfl)
  | removeItem id => exact .map _ (h.removeItem id)
  | startItem id => exact .map _ (h.startItem id)
  | stopItem id => exact .map _ (h.stopItem id)
  | serviceStatus => exact .map _ (h.request (.of_none rfl rfl) _)
  | sendHeartbeat id => cases sends
  | startReporter id interval => cases sends
  | stopReporter id => exact .map _ (h.stop id)
  | stopReporters => exact .bind h.stopAll fun _ => .pure _
  | activeReporters => exact .map _ Frame.Bears.activeIds
  | tick id => cases sends
  | isServiceInstalled => exact .map _ h.isInstalled
  | isServiceRunning => exact .map _ h.isRunning
  | installService path => exact .map _ (h.installService path)
  | uninstallService => exact .map _ (h.serviceCall _ Controller.uninstall_scopes)
  | startService => exact .map _ h.startService
  | stopService => exact .map _ (h.serviceCall _ Controller.stop_scopes)
  | quickSetup path => exact .map _ (h.quickSetup path)
  | ensureServiceRunning => exact .map _ h.ensureServiceRunning
  | executable => exact .map _ h.executable
  | executableDirectory => exact .map _ (.bind h.executable fun _ => .pure _)
  | selfId => exact .bind respects_current fun _ => .pure _
  | setSelfId id => cases names
  | addSelf id timeout => cases names
  | removeSelf => exact .map _ (withSelf h.removeItem)
  | pauseSelf => exact .map _ (withSelf h.stopItem)
  | resumeSelf => exact .map _ (withSelf h.startItem)
  | startSelfReporter interval => cases sends
  | stopSelfReporter => exact .map _ h.stopSelfReporter

/-! ## Heartbeats -/

theorem sendHeartbeat (h : Allows F) (report : ∀ id, Respects F (reportFailure id))
    (id : String) : Respects F (sendHeartbeat id) := by
  refine .bind_of_outcome epochMillis fun s millis hm => ?_
  refine .bind (h.request (sendable_heartbeat hm) _) fun result => ?_
  split
  · exact .pure _
  · exact .bind (h.log _ _ _ _) fun _ => .bind (report id) fun _ => .pure _

/-- A call that sends a heartbeat keeps a frame that allows for what reporters do. -/
theorem perform_of_sends (h : Allows F) (spares : F.Spares)
    (report : ∀ id, Respects F (reportFailure id)) {c : ClientCall} (sends : c.sends = true) :
    Respects F (Client.perform c) := by
  have beat (id : String) : Respects F (beat id) := .discard (h.sendHeartbeat report id)
  have startReporter (id : String) (interval : Option Float) :
      Respects F (startReporter id interval) :=
    .bind respects_current fun _ => spares.start beat _ _
  cases c with
  | sendHeartbeat id => exact .map _ (h.sendHeartbeat report id)
  | startReporter id interval => exact .map _ (startReporter id interval)
  | tick id => exact .map _ (spares.tick beat id)
  | startSelfReporter interval =>
    refine .map _ (.bind respects_current fun c => ?_)
    dsimp only
    split
    · exact .bind (h.log _ _ _ _) fun _ => .pure _
    · exact startReporter _ _
  | _ => cases sends

end Allows

namespace Upholds

variable {F : Frame (Scene (Watch Client))}

theorem addSelf (h : Upholds F) (id : Option String) (timeout : Int) :
    Respects F (addSelf id timeout) := by
  refine .bind h.executable fun path => .bind (Allows.newSelfId id) fun id => ?_
  refine .bind (h.addItem _) fun result => ?_
  split
  · exact .bind (h.setSelfId id) fun _ => .bind (h.log _ _ _ _) fun _ => .pure _
  · exact .pure _

/-- A call that neither connects nor disconnects nor sets a callback nor sends a heartbeat keeps a
frame that is upheld. -/
theorem perform (h : Upholds F) {c : ClientCall} (explicit : c.isExplicit = false)
    (registers : c.registers = false) (sends : c.sends = false)
    (update : ∀ item, c = .updateItem item → Respects F (updateItem item)) :
    Respects F (perform c) := by
  cases names : c.names with
  | false => exact h.toAllows.perform explicit registers sends names update
  | true =>
    cases c with
    | setSelfId id => exact .bind (h.setSelfId id) fun _ => .pure _
    | addSelf id timeout => exact .map _ (h.addSelf id timeout)
    | _ => cases names

end Upholds

/-- **What operations are made of says what they keep**: a call that neither connects nor
disconnects nor sets a callback keeps a frame that is sustained. -/
theorem Sustains.perform {F : Frame (Scene (Watch Client))} (h : Sustains F) {c : ClientCall}
    (explicit : c.isExplicit = false) (registers : c.registers = false)
    (update : ∀ item, c = .updateItem item → Respects F (updateItem item)) :
    Respects F (perform c) := by
  cases sends : c.sends with
  | false => exact h.toUpholds.perform explicit registers sends update
  | true => exact h.toAllows.perform_of_sends h.spares h.report sends

end Client

end Vigil
