import Vigil.Proofs.Client.Attention
import Vigil.Proofs.Client.Ease
import Vigil.Proofs.Reporter.Tended

/-!
# What the callbacks answer

In the course of a step the callbacks are called, and what each of them does is marked in the
journal: it may stop reporters, unset the callbacks or disconnect. All that a step changes in the
registry and in the callbacks, once its exchange is over, can be read off these marks.

* `Did`: a callback did something of a kind.
* `Client.Accounted`: what the registry and the callbacks have become is what the marks came to.
* `Client.accounts_react`: one thing that a callback does is accounted for.
* `Client.accounts_setConnected`, `Client.accounts_disconnect`: it stays so while the connection
  callback is called.
-/

namespace Vigil

open Act

/-! ## What a callback did -/

/-- A callback that was called with this argument and does this stops the reporter of the id. -/
def Stops (id : String) (argument : Option String) : CallbackAction → Prop
  | .stopAll => True
  | .stop i => i = id
  | .stopArgument => argument = some id
  | _ => False

/-- A callback that does this is gone after it, and so is the other one. -/
def Unsets (_ : Option String) (action : CallbackAction) : Prop := action = .unset

/-- Among these events a callback did something of the kind. -/
def Did (kind : Option String → CallbackAction → Prop) (t : List Event) : Prop :=
  ∃ id action, .reacts id action ∈ t ∧ kind id action

section Did

variable {kind : Option String → CallbackAction → Prop} {t u : List Event}

theorem did_append : Did kind (t ++ u) ↔ Did kind t ∨ Did kind u := by
  simp only [Did, List.mem_append, or_and_right, exists_or]

theorem not_did_nil : ¬Did kind [] := fun ⟨_, _, h, _⟩ => nomatch h

/-- Where no callback is called, none does anything. -/
theorem not_did (h : ∀ e ∈ t, e.isCallback = false) : ¬Did kind t :=
  fun ⟨_, _, he, _⟩ => nomatch h _ he

theorem did_reacts {id : Option String} {action : CallbackAction} :
    Did kind [.reacts id action] ↔ kind id action := by
  constructor
  · rintro ⟨id', action', h, did⟩
    cases List.mem_singleton.mp h
    exact did
  · exact fun did => ⟨id, action, List.mem_singleton_self _, did⟩

end Did

namespace Client

/-! ## What the answers came to -/

variable {busy : Option Nat} {start s s' : Scene (Watch Client)} {t u : List Event} {e : Event}
  {id : Option String} {action : CallbackAction}

/-- Since `start` the callbacks were called and did what is told in `t`: what the registry and the
callbacks have become is what this came to. The channel is shut. -/
structure Accounted (busy : Option Nat) (start s : Scene (Watch Client)) (t : List Event) :
    Prop where
  events : s.world.events = start.world.events ++ t
  callbacks : ∀ e ∈ t, e.isCallback = true
  shut : Shut s
  registered : s.own.host.heartbeatCallback ≠ none ↔
    start.own.host.heartbeatCallback ≠ none ∧ ¬Did Unsets t
  tended : s.own.registry.Tended busy
  entries : ∀ entry, entry ∈ s.own.registry.entries ↔
    entry ∈ start.own.registry.entries ∧ ¬Did (Stops entry.1) t

namespace Accounted

theorem refl (shut : Shut s) (tended : s.own.registry.Tended busy) :
    Accounted busy s s [] where
  events := (List.append_nil _).symm
  callbacks := List.forall_mem_nil _
  shut := shut
  registered := (and_iff_left not_did_nil).symm
  tended := tended
  entries _ := (and_iff_left not_did_nil).symm

/-- What is not told of the callbacks changes nothing of it. -/
theorem keep (h : Accounted busy start s t) (events : s'.world.events = s.world.events)
    (registry : s'.own.registry = s.own.registry)
    (session : s'.own.host.session = s.own.host.session)
    (heartbeat : s'.own.host.heartbeatCallback = s.own.host.heartbeatCallback) :
    Accounted busy start s' t where
  events := events.trans h.events
  callbacks := h.callbacks
  shut := (congrArg Session.connection session).trans h.shut
  registered := heartbeat ▸ h.registered
  tended := registry ▸ h.tended
  entries := registry ▸ h.entries

/-- One more event of a callback is accounted for if the registry and the callbacks become what it
comes to. -/
theorem add (h : Accounted busy start s t) (callback : e.isCallback = true)
    (events : s'.world.events = s.world.events ++ [e])
    (session : s'.own.host.session = s.own.host.session)
    (registered : s'.own.host.heartbeatCallback ≠ none ↔
      s.own.host.heartbeatCallback ≠ none ∧ ¬Did Unsets [e])
    (tended : s'.own.registry.Tended busy)
    (entries : ∀ entry, entry ∈ s'.own.registry.entries ↔
      entry ∈ s.own.registry.entries ∧ ¬Did (Stops entry.1) [e]) :
    Accounted busy start s' (t ++ [e]) where
  events := by rw [events, h.events, List.append_assoc]
  callbacks := List.forall_mem_append.mpr ⟨h.callbacks, List.forall_mem_singleton.mpr callback⟩
  shut := (congrArg Session.connection session).trans h.shut
  registered := by rw [registered, h.registered, did_append, not_or, and_assoc]
  tended := tended
  entries entry := by rw [entries, h.entries, did_append, not_or, and_assoc]

/-- An event that neither stops a reporter nor unsets the callbacks is of no consequence. -/
theorem idle (h : Accounted busy start s t) (callback : e.isCallback = true)
    (none : ¬Did Unsets [e] ∧ ∀ id, ¬Did (Stops id) [e])
    (events : s'.world.events = s.world.events ++ [e])
    (registry : s'.own.registry = s.own.registry)
    (session : s'.own.host.session = s.own.host.session)
    (heartbeat : s'.own.host.heartbeatCallback ≠ Option.none ↔
      s.own.host.heartbeatCallback ≠ Option.none) : Accounted busy start s' (t ++ [e]) :=
  h.add callback events session (heartbeat.trans (and_iff_left none.1).symm) (registry ▸ h.tended)
    fun entry => by rw [registry, and_iff_left (none.2 entry.1)]

/-- A callback is called. -/
theorem called (h : Accounted busy start s t) (callback : e.isCallback = true)
    (quiet : ∀ id action, e ≠ .reacts id action)
    (events : s'.world.events = s.world.events ++ [e])
    (registry : s'.own.registry = s.own.registry)
    (session : s'.own.host.session = s.own.host.session)
    (heartbeat : s'.own.host.heartbeatCallback ≠ none ↔ s.own.host.heartbeatCallback ≠ none) :
    Accounted busy start s' (t ++ [e]) := by
  have none {kind : Option String → CallbackAction → Prop} : ¬Did kind [e] :=
    fun ⟨id, action, he, _⟩ => quiet id action (List.mem_singleton.mp he).symm
  exact h.idle callback ⟨none, fun _ => none⟩ events registry session heartbeat

/-- Reporters are stopped. -/
theorem stops (h : Accounted busy start s t) (kept : action ≠ .unset) (test : String × Nat → Bool)
    (relieved : s.own.registry.Relieved s'.own.registry test)
    (stops : ∀ entry, test entry = true ↔ ¬Stops entry.1 id action)
    (events : s'.world.events = s.world.events ++ [.reacts id action])
    (host : s'.own.host = s.own.host) : Accounted busy start s' (t ++ [.reacts id action]) := by
  refine h.add rfl events (by rw [host]) ?_ (h.tended.relieved relieved) fun entry => ?_
  · rw [host, did_reacts]
    exact (and_iff_left kept).symm
  · rw [did_reacts, relieved.entries, List.mem_filter, stops]

end Accounted

/-- The reporter of an id is stopped by a callback. -/
theorem stop_accounted (h : Accounted busy start s t) (argument : Option String)
    (action : CallbackAction) (kept : action ≠ .unset) {stopped : String}
    (stops : ∀ i, Stops i argument action ↔ i = stopped) :
    Accounted busy start (after (discard (Watch.stop stopped))
      { s with world := s.world.note (.reacts argument action) })
      (t ++ [.reacts argument action]) := by
  let s₁ : Scene (Watch Client) := { s with world := s.world.note (.reacts argument action) }
  have own := (Watch.leads_stop stopped s₁ rfl).2
  rw [after_discard]
  refine h.stops kept (fun entry => entry.1 ≠ stopped) ?_ (fun entry => ?_) ?_ (by rw [own])
  · rw [own]
    exact .halt h.tended.nodup stopped
  · rw [decide_eq_true_iff, stops]
  · exact (Frame.bears_hushed.stop stopped s₁).1.trans (World.events_note _ _)

theorem stopAll_accounted (h : Accounted busy start s t) :
    Accounted busy start (after Watch.stopAll
      { s with world := s.world.note (.reacts id .stopAll) }) (t ++ [.reacts id .stopAll]) := by
  let s₁ : Scene (Watch Client) := { s with world := s.world.note (.reacts id .stopAll) }
  have own := (Watch.leads_stopAll s₁ rfl).2
  refine h.stops nofun (fun _ => false) ?_ (fun entry => ?_) ?_ (by rw [own])
  · rw [own]
    exact .haltAll _
  · exact ⟨nofun, fun h => absurd trivial h⟩
  · exact (Frame.bears_hushed.stopAll s₁).1.trans (World.events_note _ _)

/-! ## The callbacks are called -/

/-- Since then, the connection callback may have been called some more, and all is accounted for. -/
def Since (busy : Option Nat) (start : Scene (Watch Client)) (u : List Event)
    (s : Scene (Watch Client)) : Prop :=
  ∃ v, (∀ e ∈ v, e.isReport = false) ∧ Accounted busy start s (u ++ v)

theorem Accounted.since (h : Accounted busy start s u) : Since busy start u s :=
  ⟨[], List.forall_mem_nil _, by rwa [List.append_nil]⟩

theorem Since.trans {v : List Event} (quiet : ∀ e ∈ v, e.isReport = false)
    (h : Since busy start (u ++ v) s) : Since busy start u s := by
  obtain ⟨w, quiet', accounted⟩ := h
  rw [List.append_assoc] at accounted
  exact ⟨v ++ w, List.forall_mem_append.mpr ⟨quiet, quiet'⟩, accounted⟩

/-- The frame of what is accounted for while the heartbeat callback is not called. -/
def accounts (busy : Option Nat) (start : Scene (Watch Client)) (u : List Event) :
    Frame (Scene (Watch Client)) where
  holds a b := Since busy start u a → Since busy start u b
  refl _ h := h
  trans hab hbc h := hbc (hab h)

theorem accounts_of_keep {α : Type} {x : Deed α}
    (events : ∀ s, (after x s).world.events = s.world.events)
    (registry : ∀ s, (after x s).own.registry = s.own.registry)
    (session : ∀ s, (after x s).own.host.session = s.own.host.session)
    (heartbeat : ∀ s, (after x s).own.host.heartbeatCallback = s.own.host.heartbeatCallback) :
    Respects (accounts busy start u) x := by
  rintro s ⟨v, quiet, accounted⟩
  exact ⟨v, quiet, accounted.keep (events s) (registry s) (session s) (heartbeat s)⟩

theorem accounts_log (source : Source) (level : Int) (message : LooseText) (traced : Bool) :
    Respects (accounts busy start u) (Act.log source level message traced) :=
  accounts_of_keep (fun s => World.events_log s.world source level message traced) (fun _ => rfl)
    (fun _ => rfl) fun _ => rfl

/-- **What a callback does is accounted for**, if what follows when it disconnects is. -/
theorem accounts_react {leave : Deed Unit} (hl : Respects (accounts busy start u) leave)
    (argument : Option String) (action : CallbackAction) :
    Respects (accounts busy start u) (react leave argument action) := by
  rintro s ⟨v, quiet, accounted⟩
  have one : ∀ e ∈ [Event.reacts argument action], e.isReport = false :=
    List.forall_mem_singleton.mpr rfl
  have since {s' : Scene (Watch Client)}
      (h : Accounted busy start s' (u ++ v ++ [.reacts argument action])) : Since busy start u s' :=
    (h.since.trans one).trans quiet
  have idle (hu : action ≠ .unset) (hs : ∀ i, ¬Stops i argument action) :
      Since busy start u { s with world := s.world.note (.reacts argument action) } :=
    since (accounted.idle rfl ⟨mt did_reacts.mp hu, fun i => mt did_reacts.mp (hs i)⟩
      (World.events_note _ _) rfl rfl .rfl)
  unfold react
  rw [after_bind, after_note]
  cases action with
  | fail => exact idle nofun fun _ => id
  | stopArgument =>
    cases argument with
    | none => exact idle nofun fun _ => nofun
    | some id =>
      refine since (stop_accounted accounted (some id) .stopArgument nofun fun i => ?_)
      exact ⟨fun same => (Option.some.inj same).symm, fun same => congrArg some same.symm⟩
  | stop id => exact since (stop_accounted accounted argument (.stop id) nofun fun i => eq_comm)
  | stopAll => exact since (stopAll_accounted accounted)
  | disconnect => exact hl _ (idle nofun fun _ => id)
  | unset =>
    refine since (accounted.add rfl (World.events_note _ _) rfl ?_ accounted.tended fun entry => ?_)
    · exact ⟨fun h => absurd rfl h, fun h => absurd (did_reacts.mpr rfl) h.2⟩
    · exact (and_iff_left (mt did_reacts.mp id)).symm

/-- A channel that is shut is not closed once more. -/
theorem after_close_of_shut (h : Shut s) : after (onSession Session.close) s = s := by
  have shut : Session.Shut (sessionOf s) := h
  rw [after_onSession, (Session.close_of_shut shut).2]
  rfl

theorem accounts_hangUp {tell : Bool → Deed Unit}
    (ht : Respects (accounts busy start u) (tell false)) :
    Respects (accounts busy start u) (hangUp tell) := by
  refine .bind ?_ fun _ => .bind ?_ fun _ => ht
  · rintro s ⟨v, quiet, accounted⟩
    rw [after_close_of_shut accounted.shut]
    exact ⟨v, quiet, accounted⟩
  · exact accounts_of_keep (fun _ => rfl) (fun _ => rfl) (fun _ => rfl) fun _ => rfl

/-- **All that the callbacks do while they are called is accounted for**, be it to disconnect. -/
theorem suffers_accounts : Suffers (accounts busy start u) where
  told connected := by
    rintro s ⟨v, quiet, accounted⟩
    have called : Accounted busy start
        { s with world := s.world.note (.connectionCallback connected) }
        (u ++ v ++ [.connectionCallback connected]) :=
      accounted.called rfl (fun _ _ => nofun) (World.events_note _ _) rfl rfl .rfl
    exact (called.since.trans (List.forall_mem_singleton.mpr rfl)).trans quiet
  log := accounts_log
  callback _ := accounts_of_keep (fun _ => rfl) (fun _ => rfl) (fun _ => rfl) fun _ => rfl
  react := accounts_react

theorem accounts_notify (connected : Bool) :
    Respects (accounts busy start u) (notify connected) :=
  suffers_accounts.notify (fun _ ht => accounts_hangUp (ht false)) connected

/-- **To set the flag is accounted for**, whomever it is told. -/
theorem accounts_setConnected (connected always : Bool) :
    Respects (accounts busy start u) (setConnected connected always) := by
  refine .bind respects_current fun c => .bind ?_ fun _ => ?_
  · exact accounts_of_keep (fun _ => rfl) (fun _ => rfl) (fun _ => rfl) fun _ => rfl
  · split
    · exact accounts_notify connected
    · exact .pure _

theorem accounts_disconnect : Respects (accounts busy start u) disconnect :=
  accounts_hangUp (accounts_notify false)

end Client

end Vigil
