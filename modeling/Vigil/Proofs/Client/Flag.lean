import Vigil.Proofs.Client.Ease

/-!
# The flag of a client and its channel

A client says that it is connected, and its session may hold a connection. Two operations do more
than to ease: connecting, which raises the flag with the connection, and an update that cannot be
sent, which lowers the flag beside a connection that stays open.

* `Client.respects_perform`: every other call eases.
* `Client.connected_iff_of_open`: behind an open connection the flag is up if and only if no such
  update was made since the client connected.
-/

namespace Vigil

open Act

namespace Client

variable {α : Type}

/-! ## What leaves a connection open -/

/-- The channel is shut, or the flag is as said. -/
def Told (flag : Bool) (s : Scene (Watch Client)) : Prop := Shut s ∨ s.own.host.connected = flag

theorem told_of_respects {x : Deed α} (h : Respects eases.host x) (flag : Bool) :
    Triple (Told flag) x (fun _ => Told flag) (Told flag) := by
  refine .of_after fun s hs => ?_
  rcases h s with hshut | ⟨hconn, hflag⟩
  · exact .inl hshut
  · rcases hs with hs | hs
    · exact .inl (hconn.trans hs)
    · exact .inr (hflag.trans hs)

/-- The flag is what it was set to, unless a callback disconnected. -/
theorem setConnected_told (connected always : Bool) :
    Triple (fun _ => True) (setConnected connected always) (fun _ => Told connected)
      (Told connected) := by
  refine .bind current_triple fun c => ?_
  refine .bind (Q := fun _ => Told connected) (.update fun _ _ => .inr rfl) fun _ => ?_
  split
  · exact told_of_respects (respects_notify connected) connected
  · exact .pure fun _ hs => hs

/-- After an attempt to connect the channel is shut or the flag is up. -/
theorem connect_told (timeout : Option Float) :
    Triple (fun _ => True) (connect timeout) (fun _ => Told true) (Told true) := by
  refine .bind current_triple fun c => ?_
  dsimp only
  refine .bind (.attempt
    (Q := fun outcome s => ∀ raised, outcome = .error raised → Shut s)
    ((triple_onSession (Session.connect_shut _)).mono (fun _ hs => hs) (fun _ _ _ _ e => nomatch e)
      fun _ hs => hs) fun _ _ hs _ _ => hs) fun outcome => ?_
  split
  · exact .bind ((setConnected_told true true).of_pre fun _ _ => trivial) fun _ =>
      .pure fun _ hs => hs
  · refine .mono (P := Shut) (shut_of_respects ?_) (fun s hs => hs _ rfl) (fun _ _ hs => .inl hs)
      fun _ hs => .inl hs
    exact .bind Watch.respects_log fun _ => .bind (respects_setConnected false true) fun _ =>
      .pure _
  · exact .throw fun s hs => .inl (hs _ rfl)

/-- A request that has no bytes leaves the flag down. -/
theorem request_told {r : Request} (hr : ¬r.Sendable) (operation : Operation) :
    Triple (fun _ => True) (request r operation) (fun _ => Told false) (Told false) := by
  obtain ⟨mishap, e⟩ := request_of_not_sendable hr operation
  rw [e]
  refine .bind (setConnected_told false false) fun _ => ?_
  refine .bind (told_of_respects Watch.respects_log false) fun _ => .pure fun _ hs => hs

theorem updateItem_eq {item : Item} (hf : item.flaw? = none) :
    updateItem item = request (.update item) .updateItem := by
  unfold updateItem
  simp only [hf]

theorem updateItem_told {item : Item} (hf : item.flaw? = none) (hi : item.isSendable = false) :
    Triple (fun _ => True) (updateItem item) (fun _ => Told false) (Told false) := by
  rw [updateItem_eq hf]
  refine request_told ?_ .updateItem
  rw [Request.sendable_update_iff, hi]
  exact Bool.false_ne_true

end Client

/-! ## Runs of calls -/

/-- Whether a call connects. -/
def ClientCall.isConnect : ClientCall → Bool
  | .connect _ => true
  | _ => false

/-- Whether a call updates an item that lacks nothing, but whose timeout cannot be sent. -/
def ClientCall.isUnsendable : ClientCall → Bool
  | .updateItem item => item.flaw?.isNone && !item.isSendable
  | _ => false

/-- The calls since the client last connected, the latest first. -/
def ClientCall.sinceConnect (calls : List ClientCall) : List ClientCall :=
  calls.reverse.takeWhile fun c => !c.isConnect

namespace Client

/-- Every call eases, but for the two kinds. -/
theorem respects_perform {c : ClientCall} (hc : c.isConnect = false)
    (hu : c.isUnsendable = false) : Respects eases.host (perform c) := by
  cases c with
  | setHeartbeatCallback actions =>
    exact .bind (respects_alter (fun _ => rfl) fun _ => rfl) fun _ => .pure _
  | setConnectionCallback actions =>
    exact .bind (respects_alter (fun _ => rfl) fun _ => rfl) fun _ => .pure _
  | connect timeout => cases hc
  | disconnect => exact .bind (respects_of_shut disconnect_shut) fun _ => .pure _
  | close =>
    refine .bind (.bind eases.spares_host.stopAll fun _ => ?_) fun _ => .pure _
    exact respects_of_shut disconnect_shut
  | updateItem item =>
    refine sustains_eases.perform rfl rfl fun other same => ?_
    obtain rfl : item = other := ClientCall.updateItem.inj same
    unfold updateItem
    split
    · exact .pure _
    · rename_i hf
      refine respects_request_of_sendable ((Request.sendable_update_iff item).mpr ?_) _
      simpa [ClientCall.isUnsendable, hf] using hu
  | _ => exact sustains_eases.perform rfl rfl nofun

/-- What the flag says after some calls if the channel is not shut: that no update without bytes
was made since the client connected. -/
def flagAfter (calls : List ClientCall) : Bool :=
  !(ClientCall.sinceConnect calls).any (·.isUnsendable)

/-- One more call takes the flag from what it says to what it says then. -/
theorem perform_told (calls : List ClientCall) (c : ClientCall) {s : Scene (Watch Client)}
    (hs : Told (flagAfter calls) s) :
    Told (flagAfter (calls ++ [c])) (Act.after (perform c) s) := by
  cases hc : c.isConnect with
  | true =>
    have none : flagAfter (calls ++ [c]) = true := by
      simp [flagAfter, ClientCall.sinceConnect, hc]
    rw [none]
    cases c with
    | connect timeout =>
      rw [perform, after_map]
      exact (connect_told timeout).after trivial
    | _ => cases hc
  | false =>
    have since : ClientCall.sinceConnect (calls ++ [c]) = c :: ClientCall.sinceConnect calls := by
      simp [ClientCall.sinceConnect, hc]
    cases hu : c.isUnsendable with
    | true =>
      have down : flagAfter (calls ++ [c]) = false := by simp [flagAfter, since, hu]
      rw [down]
      cases c with
      | updateItem item =>
        obtain ⟨hf, hi⟩ : item.flaw? = none ∧ item.isSendable = false := by
          simpa [ClientCall.isUnsendable] using hu
        rw [perform, after_map]
        exact (updateItem_told hf hi).after trivial
      | _ => cases hu
    | false =>
      have same : flagAfter (calls ++ [c]) = flagAfter calls := by simp [flagAfter, since, hu]
      rw [same]
      exact (told_of_respects (respects_perform hc hu) _).after hs

/-- **Behind an open connection the flag tells the truth**, in every state that calls lead to, if
and only if no update without bytes was made since the client connected. -/
theorem connected_iff_of_open {w : World} {settings : Settings} {options : ClientOptions}
    {calls : List ClientCall} {s : Scene (Watch Client)}
    (run : Run perform ⟨w, { host := create settings options }⟩ calls s)
    (h : s.own.host.session.isOpen = true) :
    s.own.host.connected = true ↔
      ∀ c ∈ ClientCall.sinceConnect calls, c.isUnsendable = false := by
  have told : Told (flagAfter calls) s := by
    clear h
    induction run with
    | start => exact .inl rfl
    | call _ c ih => exact perform_told _ c ih
    | outside _ o ih => exact ih
  rcases told with shut | told
  · rw [Session.isOpen, shut] at h
    cases h
  · simp [told, flagAfter]

/-- Without a callback, an update without bytes lowers the flag and changes nothing else of the
client. -/
theorem host_after_unsendable {item : Item} (hf : item.flaw? = none)
    (hi : item.isSendable = false) {s : Scene (Watch Client)}
    (hs : s.own.host.connectionCallback = none) :
    (Act.after (perform (.updateItem item)) s).own.host =
      { s.own.host with connected := false } := by
  have hr : ¬(Request.update item).Sendable := by simp [Request.sendable_update_iff, hi]
  obtain ⟨mishap, e⟩ := request_of_not_sendable hr .updateItem
  rw [perform, after_map, updateItem_eq hf, e]
  cases hflag : s.own.host.connected <;>
    simp [setConnected, notify, callBackWithin, callBack, current, alter, log, after_bind, hs,
      hflag]

/-- Connecting and then updating an item leaves an open connection behind a lowered flag, be the
timeout of the item infinite or too long to be written. -/
theorem open_behind_lowered_flag :
    let start : Scene (Watch Client) :=
      ⟨{ pipe := [⟨.ok { reply := [] }, none⟩] }, { host := create {} {} }⟩
    let infinite : Item :=
      { id := "a", exePath := "b", name := "c", timeoutFault := some .infinity }
    let long : Item :=
      { id := "a", exePath := "b", name := "c"
        heartbeatTimeout := (Nat.pow 10 Number.digitLimit : Nat) }
    (∃ s, Run perform start [.connect none, .updateItem infinite] s ∧
      s.own.host.session.isOpen = true ∧ s.own.host.connected = false) ∧
    ∃ s, Run perform start [.connect none, .updateItem long] s ∧
      s.own.host.session.isOpen = true ∧ s.own.host.connected = false := by
  intro start infinite long
  have run (item : Item) : Run perform start [.connect none, .updateItem item] _ :=
    .call (.call .start (ClientCall.connect none)) (ClientCall.updateItem item)
  have ends {item : Item} (hf : item.flaw? = none) (hi : item.isSendable = false) :
      ∃ s, Run perform start [.connect none, .updateItem item] s ∧
        s.own.host.session.isOpen = true ∧ s.own.host.connected = false := by
    have host := @host_after_unsendable item hf hi (Act.after (perform (.connect none)) start) rfl
    exact ⟨_, run item, by rw [host]; rfl, by rw [host]⟩
  have hlong : long.isSendable = false := by
    rw [Item.isSendable, Number.tooLongToWrite_pow]
    rfl
  exact ⟨ends rfl rfl, ends rfl hlong⟩

/-- A client that connects. -/
theorem connected_iff_of_open_of_connect :
    ∃ (w : World) (s : Scene (Watch Client)),
      Run perform ⟨w, { host := create {} {} }⟩ [.connect none] s ∧
      s.own.host.session.isOpen = true ∧
      (s.own.host.connected = true ↔
        ∀ c ∈ ClientCall.sinceConnect [.connect none], c.isUnsendable = false) := by
  let w : World := { pipe := [⟨.ok { reply := [] }, none⟩] }
  have run : Run perform ⟨w, { host := create {} {} }⟩ [.connect none] _ :=
    .call .start (ClientCall.connect none)
  exact ⟨w, _, run, rfl, connected_iff_of_open run rfl⟩

end Client

end Vigil
