import Vigil.Proofs.Channel.Calls
import Vigil.Proofs.Client.Operations

/-!
# Frames that do not mind what a client remembers

A frame may be kept whatever a client remembers and logs, whatever it tells its connection callback,
and however it uses the pipe and the service manager. It is kept then by whatever the callbacks do,
and by every call that sends no heartbeat. The id under which the client watches itself is set
apart: a frame that minds it and nothing else is kept by all that gives the client none.

* `Client.Lenient`, `Client.Indifferent`: the frames of this kind, with and without regard to the
  id.
* `Client.Lenient.setConnected`: they are kept while the connection callback is called, which may
  call itself.
* `Client.Confers.perform`, `Client.Converses.perform`: they are kept by every call that sends no
  heartbeat.
-/

namespace Vigil.Client

open Act

/-- The frame does not mind what the client remembers and logs, but for the id under which it
watches itself, what it tells its connection callback, what callbacks do, the calls to the pipe and
to the service manager, and that reporters are stopped. -/
structure Lenient (F : Frame (Scene (Watch Client))) : Prop where
  alter : ∀ f, (∀ c, (f c).selfId = c.selfId) → Respects F (alter f)
  log : ∀ source level message traced, Respects F (Act.log source level message traced)
  told : ∀ connected, Respects F (Act.note (.connectionCallback connected))
  reacts : ∀ id action, Respects F (Act.note (.reacts id action))
  stop : ∀ id, Respects F (Watch.stop id)
  stopAll : Respects F Watch.stopAll
  session : ∀ {α : Type} {x : Act Session α},
    Respects (adding fun e => e.isPipe) x → Respects F (onSession x)
  controller : ∀ {α : Type} {x : Act Controller α},
    Respects (adding fun e => e.isService) x → Respects F (onController x)

/-- Nor does it mind that an exchange begins. -/
structure Confers (F : Frame (Scene (Watch Client))) : Prop extends Lenient F where
  exchange : ∀ payload timeout, Respects F (onSession (Session.exchange payload timeout))

/-- Nor does a lenient frame mind the id. -/
structure Indifferent (F : Frame (Scene (Watch Client))) : Prop extends Lenient F where
  setSelfId : ∀ id, Respects F (setSelfId id)

/-- The frame minds neither the id nor that an exchange begins. -/
structure Converses (F : Frame (Scene (Watch Client))) : Prop extends Indifferent F, Confers F

/-- What events are added is of no regard to the rest. -/
theorem indifferent_adding {P : Event → Prop}
    (told : ∀ connected, P (.connectionCallback connected))
    (reacts : ∀ id action, P (.reacts id action))
    (pipe : ∀ e, e.isPipe = true → P e) (service : ∀ e, e.isService = true → P e) :
    Indifferent (adding P) where
  alter _ _ := Adding.update _
  setSelfId id := Adding.update fun watch => { watch with host := { watch.host with selfId := id } }
  log := Adding.log
  told connected := Adding.note (told connected)
  reacts id action := Adding.note (reacts id action)
  stop := (Frame.bears_adding P).stop
  stopAll := (Frame.bears_adding P).stopAll
  session h := adding_onSession (Adding.mono h pipe)
  controller h := adding_onController (Adding.mono h service)

variable {F : Frame (Scene (Watch Client))}

namespace Lenient

/-! ## Callbacks -/

theorem suffers (h : Lenient F) : Suffers F where
  told := h.told
  log := h.log
  callback _ := h.alter _ fun _ => rfl
  react := respects_react h.reacts h.stop h.stopAll (h.alter _ fun _ => rfl)

theorem hangUp (h : Lenient F) {tell : Bool → Deed Unit}
    (ht : ∀ connected, Respects F (tell connected)) : Respects F (hangUp tell) :=
  .bind (h.session Session.calls_close) fun _ => .bind (h.alter _ fun _ => rfl) fun _ => ht false

theorem notify (h : Lenient F) (connected : Bool) : Respects F (notify connected) :=
  h.suffers.notify (fun _ ht => h.hangUp ht) connected

theorem setConnected (h : Lenient F) (connected always : Bool) :
    Respects F (setConnected connected always) := by
  refine .bind respects_current fun c => .bind (h.alter _ fun _ => rfl) fun _ => ?_
  split
  · exact h.notify connected
  · exact .pure _

theorem disconnect (h : Lenient F) : Respects F disconnect := h.hangUp h.notify

/-- A failure is reported if the frame does not mind this either. -/
theorem reportFailure (h : Lenient F) {id : String}
    (report : Respects F (Act.note (.heartbeatCallback id))) : Respects F (reportFailure id) :=
  h.suffers.reportFailure h.disconnect report fun _ => h.alter _ fun _ => rfl

/-! ## Calls that connect or disconnect -/

theorem connect (h : Lenient F) (timeout : Option Float) : Respects F (connect timeout) := by
  refine .bind respects_current fun c => ?_
  refine .bind (.attempt (h.session (Session.calls_connect _))) fun outcome => ?_
  split
  · exact .bind (h.setConnected _ _) fun _ => .pure _
  · exact .bind (h.log _ _ _ _) fun _ => .bind (h.setConnected _ _) fun _ => .pure _
  · exact .throw _

theorem close (h : Lenient F) : Respects F close := .bind h.stopAll fun _ => h.disconnect

end Lenient

namespace Confers

/-! ## Requests -/

theorem request (h : Confers F) (r : Request) (operation : Operation) :
    Respects F (request r operation) := by
  refine .bind (.attempt ?_) (respects_settle h.log (h.setConnected · false) r operation)
  exact .bind (.orStumble _) fun payload => .bind respects_current fun c => h.exchange _ _

theorem addItem (h : Confers F) (item : Item) : Respects F (addItem item) := by
  unfold Client.addItem
  split
  · exact .pure _
  · refine .bind (h.request _ _) fun listed => ?_
    split
    · exact .pure _
    · exact .pure _
    · split
      · exact .pure _
      · refine .bind (h.request _ _) fun result => ?_
        split
        · exact .bind (h.log _ _ _ _) fun _ => .pure _
        · exact .pure _

theorem updateItem (h : Confers F) (item : Item) : Respects F (updateItem item) := by
  unfold Client.updateItem
  split
  · exact .pure _
  · exact h.request _ _

theorem allows (h : Confers F) : Allows F where
  log := h.log
  stop := h.stop
  stopAll := h.stopAll
  controller := h.controller
  request _ operation := h.request _ operation
  addItem := h.addItem

/-- **Every call that sends no heartbeat and gives no id keeps such a frame.** -/
theorem perform (h : Confers F) {c : ClientCall} (sends : c.sends = false)
    (names : c.names = false) : Respects F (perform c) := by
  cases explicit : c.isExplicit with
  | true =>
    cases c with
    | connect timeout => exact .map _ (h.connect timeout)
    | disconnect => exact .bind h.disconnect fun _ => .pure _
    | close => exact .bind h.close fun _ => .pure _
    | _ => cases explicit
  | false =>
    cases registers : c.registers with
    | true =>
      cases c with
      | setHeartbeatCallback actions => exact .bind (h.alter _ fun _ => rfl) fun _ => .pure _
      | setConnectionCallback actions => exact .bind (h.alter _ fun _ => rfl) fun _ => .pure _
      | _ => cases registers
    | false => exact h.allows.perform explicit registers sends names fun item _ => h.updateItem item

/-- A heartbeat keeps it if the frame does not mind that its failure is reported. -/
theorem sendHeartbeat (h : Confers F) {id : String}
    (report : Respects F (Act.note (.heartbeatCallback id))) : Respects F (sendHeartbeat id) := by
  refine .bind Allows.epochMillis fun millis => .bind (h.request _ _) fun result => ?_
  split
  · exact .pure _
  · exact .bind (h.log _ _ _ _) fun _ => .bind (h.reportFailure report) fun _ => .pure _

end Confers

namespace Converses

theorem upholds (h : Converses F) : Upholds F where
  toAllows := h.toConfers.allows
  setSelfId := h.setSelfId

/-- **Every call that sends no heartbeat keeps a frame that does not mind the id either.** -/
theorem perform (h : Converses F) {c : ClientCall} (sends : c.sends = false) :
    Respects F (perform c) := by
  cases names : c.names with
  | false => exact h.toConfers.perform sends names
  | true =>
    cases c with
    | setSelfId id => exact .bind (h.setSelfId id) fun _ => .pure _
    | addSelf id timeout => exact .map _ (h.upholds.addSelf id timeout)
    | _ => cases names

end Converses

end Vigil.Client
