import Vigil.Proofs.Channel.Shut
import Vigil.Proofs.Client.Operations

/-!
# What a client does to its channel

Whatever a client does, other than to connect, either shuts the channel or leaves the connection
and the flag as they are: it *eases*. One request does not: one that cannot be sent, since its
integer does not exist or is too long to be written, fails before the channel is touched, and
lowers the flag.

* `Client.request_shut`: a request that has bytes shuts the channel.
* `Client.sustains_eases`: what operations are made of eases.
-/

namespace Vigil

open Act

namespace Client

/-! ## Two frames -/

/-- The channel is shut, or the connection and the flag are as they were. -/
def eases : Frame Client where
  holds c d := d.session.connection = none ∨
    d.session.connection = c.session.connection ∧ d.connected = c.connected
  refl _ := .inr ⟨rfl, rfl⟩
  trans := by
    rintro a b c hab (hbc | ⟨hbc, hflag⟩)
    · exact .inl hbc
    · rw [hbc, hflag]
      exact hab

/-- A channel that is shut stays shut. -/
def shuts : Frame Client where
  holds c d := c.session.connection = none → d.session.connection = none
  refl _ h := h
  trans hab hbc h := hbc (hab h)

/-- The channel is shut. -/
def Shut (s : Scene (Watch Client)) : Prop := s.own.host.session.connection = none

variable {α : Type}

theorem respects_shuts {x : Deed α} (h : Respects eases.host x) : Respects shuts.host x := by
  intro s hs
  rcases h s with h | ⟨h, -⟩
  · exact h
  · exact h.trans hs

/-- What shuts the channel eases. -/
theorem respects_of_shut {x : Deed α} (h : Triple (fun _ => True) x (fun _ => Shut) Shut) :
    Respects eases.host x := fun _ => .inl (h.after trivial)

/-- What keeps the channel shut leads from a shut channel to one. -/
theorem shut_of_respects {x : Deed α} (h : Respects shuts.host x) :
    Triple Shut x (fun _ => Shut) Shut := .of_after h

/-- What the session does, the client does with its session. -/
theorem triple_onSession {x : Act Session α} {P E : Scene Session → Prop}
    {Q : α → Scene Session → Prop} (h : Triple P x Q E) :
    Triple (fun s => P (sessionOf s)) (onSession x) (fun a s => Q a (sessionOf s))
      (fun s => E (sessionOf s)) where
  leads s hs := by
    simp only [onSession, Watch.hosted, outcome_within, after_within]
    exact h.leads (sessionOf s) hs

theorem current_triple {E : Scene (Watch Client) → Prop} :
    Triple (fun _ => True) current (fun _ _ => True) E :=
  .bind (.own) fun _ => .pure fun _ _ => trivial

/-! ## Callbacks -/

/-- A change of the client that touches neither the session nor the flag. -/
theorem respects_alter {f : Client → Client} (hs : ∀ c, (f c).session = c.session)
    (hc : ∀ c, (f c).connected = c.connected) : Respects eases.host (alter f) := fun s =>
  .inr ⟨congrArg Session.connection (hs s.own.host), hc s.own.host⟩

theorem close_shut : Triple (fun _ => True) (onSession Session.close) (fun _ => Shut) Shut :=
  triple_onSession Session.close_shut

theorem suffers_eases : Suffers eases.host where
  told _ := Watch.respects_note
  log _ _ _ _ := Watch.respects_log
  callback _ := respects_alter (fun _ => rfl) fun _ => rfl
  react := respects_react (fun _ _ => Watch.respects_note) eases.spares_host.stop
    eases.spares_host.stopAll (respects_alter (fun _ => rfl) fun _ => rfl)

/-- To disconnect shuts the channel, whomever it is told. -/
theorem hangUp_shut {tell : Bool → Deed Unit} (ht : Respects shuts.host (tell false)) :
    Triple (fun _ => True) (hangUp tell) (fun _ => Shut) Shut :=
  .bind close_shut fun _ => shut_of_respects (.bind (fun _ hs => hs) fun _ => ht)

theorem respects_notify (connected : Bool) : Respects eases.host (notify connected) :=
  suffers_eases.notify (fun _ ht => respects_of_shut (hangUp_shut (respects_shuts (ht false))))
    connected

theorem respects_setConnected (connected always : Bool) :
    Respects shuts.host (setConnected connected always) := by
  refine .bind respects_current fun c => .bind (fun _ hs => hs) fun _ => ?_
  split
  · exact respects_shuts (respects_notify connected)
  · exact .pure _

theorem disconnect_shut : Triple (fun _ => True) disconnect (fun _ => Shut) Shut :=
  hangUp_shut (respects_shuts (respects_notify false))

/-! ## Requests -/

/-- An exchange whose request has bytes shuts the channel. -/
theorem exchange_shut {r : Request} (hr : r.Sendable) :
    Triple (fun _ => True) (exchange r) (fun _ => Shut) Shut := by
  unfold exchange
  rw [hr.encode]
  refine .bind (.pure (Q := fun _ _ => True) fun _ _ => trivial) fun payload => ?_
  refine .bind current_triple fun c => ?_
  exact triple_onSession (Session.exchange_shut payload _)

/-- A request shuts the channel if its exchange does. -/
theorem request_triple {r : Request} {P : Scene (Watch Client) → Prop} (operation : Operation)
    (h : Triple P (exchange r) (fun _ => Shut) Shut) :
    Triple P (request r operation) (fun _ => Shut) Shut := by
  refine .bind (.attempt h fun _ _ hs => hs) fun outcome => shut_of_respects ?_
  split
  · exact .bind (respects_setConnected true false) fun _ =>
      respects_interpret (fun _ _ _ _ => Watch.respects_log) _ _ _
  · exact .bind Watch.respects_log fun _ => .bind (respects_setConnected false false) fun _ =>
      .pure _
  · exact .bind (respects_setConnected true false) fun _ => .bind Watch.respects_log fun _ =>
      .pure _
  · exact .bind (respects_setConnected false false) fun _ => .bind Watch.respects_log fun _ =>
      .pure _

/-- **A request that has bytes shuts the channel**, whatever comes of it. -/
theorem request_shut {r : Request} (hr : r.Sendable) (operation : Operation) :
    Triple (fun _ => True) (request r operation) (fun _ => Shut) Shut :=
  request_triple operation (exchange_shut hr)

/-- A request that has no bytes fails before the channel is touched, and lowers the flag. -/
theorem request_of_not_sendable {r : Request} (hr : ¬r.Sendable) (operation : Operation) :
    ∃ mishap : Mishap, request r operation = (do
      setConnected false
      log Level.error s!"Unexpected error during {operation.label}: {mishap.message}" true
      pure (.failure (.refused (.unexpected operation mishap)))) := by
  obtain ⟨mishap, hm⟩ := Request.encode_of_not_sendable hr
  refine ⟨mishap, ?_⟩
  unfold request exchange
  rw [hm]
  rfl

/-- Every request keeps a shut channel shut. -/
theorem respects_request (r : Request) (operation : Operation) :
    Respects shuts.host (request r operation) := by
  by_cases hr : r.Sendable
  · exact respects_shuts (respects_of_shut (request_shut hr operation))
  · obtain ⟨mishap, e⟩ := request_of_not_sendable hr operation
    rw [e]
    exact .bind (respects_setConnected false false) fun _ => .bind Watch.respects_log fun _ =>
      .pure _

/-- A request that has bytes eases. -/
theorem respects_request_of_sendable {r : Request} (hr : r.Sendable) (operation : Operation) :
    Respects eases.host (request r operation) :=
  respects_of_shut (request_shut hr operation)

/-! ## The operations -/

/-- Adding an item lists the items first, so that the channel is shut in any case. -/
theorem respects_addItem (item : Item) : Respects eases.host (addItem item) := by
  unfold addItem
  split
  · exact .pure _
  · refine respects_of_shut (.bind (request_shut (.of_none rfl rfl) _) fun listed =>
      shut_of_respects ?_)
    split
    · exact .pure _
    · exact .pure _
    · split
      · exact .pure _
      · refine .bind (respects_request _ _) fun result => ?_
        split
        · exact .bind Watch.respects_log fun _ => .pure _
        · exact .pure _

theorem respects_reportFailure (id : String) : Respects eases.host (reportFailure id) :=
  suffers_eases.reportFailure (respects_of_shut disconnect_shut) Watch.respects_note fun _ =>
    respects_alter (fun _ => rfl) fun _ => rfl

theorem respects_onController {x : Act Controller α} : Respects eases.host (onController x) :=
  Watch.respects_hosted fun s => by
    rw [after_within]
    exact .inr ⟨rfl, rfl⟩

/-- **What operations are made of eases**, but for an update that has no bytes. -/
theorem sustains_eases : Sustains eases.host where
  spares := eases.spares_host
  stop := eases.spares_host.stop
  stopAll := eases.spares_host.stopAll
  log _ _ _ _ := Watch.respects_log
  setSelfId _ := respects_alter (fun _ => rfl) fun _ => rfl
  controller _ := respects_onController
  request hr operation := respects_request_of_sendable hr operation
  addItem := respects_addItem
  report := respects_reportFailure

end Client

end Vigil
