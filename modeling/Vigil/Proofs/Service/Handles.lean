import Vigil.Proofs.Journal
import Vigil.Proofs.Service.Faults

/-!
# Handles of the service manager

The calls of the service manager are made with handles, and a handle has the rights that it was
opened with. `Scoped` is the grammar of the journals in which a handle is used between its opening
and its return only: a scope opens one, does something with it and gives it back, and the scopes
lie one within the other.

* `Scoped.handlesReturned`: what the grammar comes to, said of the journal alone.
* `Controller.handles_returned`: every operation of the controller leaves such a journal.
-/

namespace Vigil

open Act

/-- The rights that the handle of a service has that was just created: all of them. -/
def Access.all : Nat := 0xF01FF

/-! ## What a journal says of handles -/

/-- A handle with the rights it was opened with, or with those that a call needs of it. -/
structure Handle where
  number : Nat
  rights : Nat

/-- The handle has the rights that are needed of it. -/
structure Handle.Grants (handle need : Handle) : Prop where
  number : handle.number = need.number
  rights : handle.rights &&& need.rights = need.rights

theorem Handle.Grants.of_rights {number rights right : Nat} (h : rights &&& right = right) :
    Grants ⟨number, rights⟩ ⟨number, right⟩ := ⟨rfl, h⟩

namespace Event

/-- The handle that a call was given. -/
def granted? : Event → Option Handle
  | .openManager access (some number) => some ⟨number, access⟩
  | .openService _ _ access (some number) => some ⟨number, access⟩
  | .createService _ _ _ _ (some number) => some ⟨number, Access.all⟩
  | _ => none

/-- The handle that a call gives back, whatever came of it. -/
def returned? : Event → Option Nat
  | .closeHandle number _ => some number
  | _ => none

/-- The handle that a call is made with, and the right it needs. Any handle can be given back. -/
def needed? : Event → Option Handle
  | .openService manager .. => some ⟨manager, Access.connect⟩
  | .createService manager .. => some ⟨manager, Access.createService⟩
  | .queryStatus service _ => some ⟨service, Access.queryStatus⟩
  | .startService service _ => some ⟨service, Access.start⟩
  | .controlService service _ => some ⟨service, Access.stop⟩
  | .deleteService service _ => some ⟨service, Access.delete⟩
  | .closeHandle number _ => some ⟨number, 0⟩
  | _ => none

/-- The call is made with one of the handles that are held, if with any, and has its right. -/
def Entitled (held : List Handle) (e : Event) : Prop :=
  ∀ need, e.needed? = some need → ∃ handle ∈ held, handle.Grants need

/-- An entitled call of the service manager that neither is given a handle nor gives one back. -/
structure Plain (held : List Handle) (e : Event) : Prop where
  service : e.isService = true
  entitled : e.Entitled held
  grants_none : e.granted? = none
  returns_none : e.returned? = none

theorem Entitled.of_head {e : Event} {handle need : Handle} {held : List Handle}
    (hn : e.needed? = some need) (h : handle.Grants need) : e.Entitled (handle :: held) := by
  intro other ho
  obtain rfl : need = other := Option.some.inj (hn.symm.trans ho)
  exact ⟨handle, List.mem_cons_self, h⟩

theorem isService_of_needed? {e : Event} {need : Handle} (h : e.needed? = some need) :
    e.isService = true := by
  cases e <;> first | rfl | cases h

theorem isService_of_granted? {e : Event} {handle : Handle} (h : e.granted? = some handle) :
    e.isService = true := by
  cases e <;> first | rfl | cases h

theorem Plain.of_head {e : Event} {handle need : Handle} {held : List Handle}
    (hn : e.needed? = some need) (h : handle.Grants need) (hg : e.granted? = none)
    (hr : e.returned? = none) : e.Plain (handle :: held) :=
  ⟨isService_of_needed? hn, .of_head hn h, hg, hr⟩

theorem returned?_of_granted? {e : Event} {handle : Handle} (h : e.granted? = some handle) :
    e.returned? = none := by
  cases e <;> first | rfl | cases h

end Event

/-- The handles that were given out, in this order. -/
def granted (t : List Event) : List Handle := t.filterMap Event.granted?

/-- The numbers of the handles that were given out, in this order. -/
def grantedNumbers (t : List Event) : List Nat := (granted t).map (·.number)

/-- The numbers of the handles that were given back, in this order. -/
def returned (t : List Event) : List Nat := t.filterMap Event.returned?

/-- **Every handle is returned**, as a property of the journal of an operation. -/
structure HandlesReturned (t : List Event) : Prop where
  granted_once : (grantedNumbers t).Nodup
  /-- Each handle is given back once, the one that was given out last being the first. -/
  returned_eq : returned t = (grantedNumbers t).reverse
  /-- Every call is made with a handle that was given out, has the right and was not given back. -/
  entitled : ∀ {before e later}, t = before ++ e :: later → ∀ need, e.needed? = some need →
    need.number ∉ returned before ∧ e.Entitled (granted before)

/-! ## The grammar -/

/-- The journals of what is done while some handles are held: plain calls, or a scope in which one
more handle is held. -/
inductive Scoped : (held : List Handle) → List Event → Prop
  | plain {held t} (h : ∀ e ∈ t, e.Plain held) : Scoped held t
  | scope {held e handle body done} (he : e.Entitled held) (hg : e.granted? = some handle)
      (new : ∀ other ∈ held, other.number ≠ handle.number) (hb : Scoped (handle :: held) body) :
      Scoped held (e :: (body ++ [.closeHandle handle.number done]))

namespace Scoped

variable {held : List Handle} {t : List Event}

/-- What a scope gives out: its own handle and those of its body. -/
theorem granted_scope {e : Event} {handle : Handle} {body : List Event} {number : Nat} {done : Bool}
    (h : e.granted? = some handle) :
    granted (e :: (body ++ [.closeHandle number done])) = handle :: granted body := by
  rw [granted, List.filterMap_cons_some h, List.filterMap_append]
  exact congrArg _ (List.append_nil _)

/-- What a scope gives back: the handles of its body and then its own. -/
theorem returned_scope {e : Event} {handle : Handle} {body : List Event} {number : Nat}
    {done : Bool} (h : e.granted? = some handle) :
    returned (e :: (body ++ [.closeHandle number done])) = returned body ++ [number] := by
  rw [returned, List.filterMap_cons_none (Event.returned?_of_granted? h), List.filterMap_append]
  rfl

theorem granted_of_plain (h : ∀ e ∈ t, e.Plain held) : granted t = [] :=
  List.filterMap_eq_nil_iff.mpr fun e he => (h e he).grants_none

theorem returned_of_plain (h : ∀ e ∈ t, e.Plain held) : returned t = [] :=
  List.filterMap_eq_nil_iff.mpr fun e he => (h e he).returns_none

/-- The handles that are given out are new. -/
theorem fresh (h : Scoped held t) :
    ∀ handle ∈ granted t, ∀ other ∈ held, other.number ≠ handle.number := by
  induction h with
  | plain h =>
    rw [granted_of_plain h]
    exact List.forall_mem_nil _
  | scope he hg new hb ih =>
    rw [granted_scope hg]
    intro handle hm other ho
    rcases List.mem_cons.mp hm with rfl | hm
    · exact new other ho
    · exact ih handle hm other (List.mem_cons_of_mem _ ho)

theorem granted_once (h : Scoped held t) : (grantedNumbers t).Nodup := by
  induction h with
  | plain h =>
    rw [grantedNumbers, granted_of_plain h]
    exact List.nodup_nil
  | scope he hg new hb ih =>
    rename_i handle body done
    rw [grantedNumbers, granted_scope hg]
    refine List.nodup_cons.mpr ⟨fun hm => ?_, ih⟩
    obtain ⟨other, ho, same⟩ := List.mem_map.mp hm
    exact hb.fresh other ho handle List.mem_cons_self same.symm

theorem returned_eq (h : Scoped held t) : returned t = (grantedNumbers t).reverse := by
  induction h with
  | plain h => rw [returned_of_plain h, grantedNumbers, granted_of_plain h]; rfl
  | scope he hg new hb ih =>
    rw [returned_scope hg, grantedNumbers, granted_scope hg, ih, List.map_cons, List.reverse_cons]
    rfl

/-- A handle that is held is not given back. -/
theorem not_mem_returned (h : Scoped held t) {handle : Handle} (hm : handle ∈ held) :
    handle.number ∉ returned t := by
  rw [h.returned_eq, List.mem_reverse, grantedNumbers, List.mem_map]
  rintro ⟨other, ho, same⟩
  exact h.fresh other ho handle hm same.symm

/-- Every call is made with a handle that is held or was given out, has the right and was not given
back. -/
theorem entitled (h : Scoped held t) {before later : List Event} {e : Event}
    (split : t = before ++ e :: later) {need : Handle} (hn : e.needed? = some need) :
    need.number ∉ returned before ∧ e.Entitled (held ++ granted before) := by
  induction h generalizing before later with
  | plain h =>
    subst split
    have quiet : ∀ d ∈ before, d.Plain _ := fun d hd => h d (List.mem_append_left _ hd)
    rw [returned_of_plain quiet, granted_of_plain quiet, List.append_nil]
    exact ⟨List.not_mem_nil, (h e (List.mem_append_right _ List.mem_cons_self)).entitled⟩
  | scope he hg new hb ih =>
    rename_i held opening handle body done
    cases before with
    | nil =>
      obtain ⟨rfl, -⟩ := List.cons.inj split
      simpa [granted, returned] using he
    | cons d before =>
      obtain ⟨rfl, tail⟩ := List.cons.inj split
      have grants : granted (opening :: before) = handle :: granted before :=
        List.filterMap_cons_some hg
      have returns : returned (opening :: before) = returned before :=
        List.filterMap_cons_none (Event.returned?_of_granted? hg)
      rw [grants, returns]
      rcases last_or_within tail with ⟨rfl, rfl⟩ | ⟨rest, within⟩
      · obtain rfl : (⟨handle.number, 0⟩ : Handle) = need := Option.some.inj hn
        have unreturned : handle.number ∉ returned before := hb.not_mem_returned List.mem_cons_self
        refine ⟨unreturned, fun need hn => ?_⟩
        obtain rfl : (⟨handle.number, 0⟩ : Handle) = need := Option.some.inj hn
        exact ⟨handle, by simp, rfl, Nat.and_zero _⟩
      · obtain ⟨unreturned, entitled⟩ := ih within
        refine ⟨unreturned, fun need hn => ?_⟩
        obtain ⟨other, ho, grants⟩ := entitled need hn
        exact ⟨other, by simpa [or_left_comm] using ho, grants⟩

/-- The grammar has calls of the service manager alone. -/
theorem isService (h : Scoped held t) : ∀ e ∈ t, e.isService = true := by
  induction h with
  | plain h => exact fun e he => (h e he).service
  | scope he hg new hb ih =>
    intro d hd
    rcases List.mem_cons.mp hd with rfl | hd
    · exact Event.isService_of_granted? hg
    · rcases List.mem_append.mp hd with hd | hd
      · exact ih d hd
      · exact List.mem_singleton.mp hd ▸ rfl

/-- **The grammar returns every handle.** -/
theorem handlesReturned (h : Scoped [] t) : HandlesReturned t where
  granted_once := h.granted_once
  returned_eq := h.returned_eq
  entitled split _ hn := h.entitled split hn

end Scoped

/-! ## Actions that hold handles -/

/-- Makes no call, and gives out no handle. -/
def silence {σ : Type} : Frame (Scene σ) where
  holds a b := b.world.events = a.world.events ∧ b.world.manager.given = a.world.manager.given
  refl _ := ⟨rfl, rfl⟩
  trans hab hbc := ⟨hbc.1.trans hab.1, hbc.2.trans hab.2⟩

/-- Makes plain calls alone while some handles are held. -/
def plainly {σ : Type} (held : List Handle) : Frame (Scene σ) := adding (Event.Plain held)

namespace Service

variable {σ : Type} {held : List Handle}

theorem silent_log (source : Source) (level : Int) (message : LooseText) :
    Respects silence (Act.log source level message : Act σ Unit) := fun s => by
  rw [after_log]
  exact ⟨World.events_log .., congrArg Manager.given (World.manager_log ..)⟩

theorem given_next (m : Manager) (p : Primitive) : (m.next p).2.given = m.given := by
  unfold Manager.next
  split <;> rfl

/-- Asking for an answer is no call yet. -/
theorem silent_ask (p : Primitive) : Respects silence (ask p : Act σ Answer) := fun s =>
  ⟨rfl, given_next s.world.manager p⟩

theorem plainly_of_silent {α : Type} {x : Act σ α} (h : Respects silence x) :
    Respects (plainly held) x := Adding.of_same fun s => (h s).1

/-- A call that gives out no handle is plain, whatever came of it. -/
theorem plainly_doing {p : Primitive} {event : Bool → Event} {action : String}
    (h : ∀ done, (event done).Plain held) :
    Respects (plainly held) (doing p event action : Act σ Unit) := by
  refine .bind (plainly_of_silent (silent_ask p)) fun answer => ?_
  split
  · exact .bind (Adding.note (h false)) fun _ => .fail _
  · exact Adding.note (h true)

theorem plainly_readState {service : Nat}
    (h : ∀ state, (Event.queryStatus service state).Plain held) :
    Respects (plainly held) (readState service : Act σ ServiceState) := by
  refine .bind .world fun w => .bind (Adding.note (h _)) fun _ => ?_
  split
  · exact .pure _
  · exact .stumble _

theorem plainly_query {service : Nat}
    (h : ∀ state, (Event.queryStatus service state).Plain held) :
    Respects (plainly held) (query service : Act σ ServiceState) := by
  refine .bind (plainly_of_silent (silent_ask _)) fun answer => ?_
  split
  · exact .bind (Adding.note (h none)) fun _ => .fail _
  · split
    · exact .bind (plainly_of_silent fun _ => ⟨rfl, rfl⟩) fun _ => plainly_readState h
    · exact plainly_readState h

/-- A handle is given back, whatever comes of it. -/
theorem events_closeHandle (number : Nat) (s : Scene σ) :
    ∃ done, (after (closeHandle number) s).world.events =
      s.world.events ++ [.closeHandle number done] := by
  unfold closeHandle
  rw [after_bind, outcome_ask, after_ask]
  cases (s.world.manager.next .closeHandle).1 with
  | failed code => exact ⟨false, (World.events_log ..).trans (World.events_note _ _)⟩
  | done => exact ⟨true, World.events_note _ _⟩
  | state value => exact ⟨true, World.events_note _ _⟩

/-- An opening fails, or gives out the next handle. -/
theorem opening_cases (p : Primitive) (event : Option Nat → Event) (action : String)
    (s : Scene σ) :
    (∃ e, outcome (opening p event action) s = .error e ∧
      (after (opening p event action) s).world.events = s.world.events ++ [event none]) ∨
    ∃ number, outcome (opening p event action) s = .ok number ∧
      (after (opening p event action) s).world.events = s.world.events ++ [event (some number)] ∧
      number = s.world.manager.given + 1 ∧
      (after (opening p event action) s).world.manager.given = number := by
  have given := given_next s.world.manager p
  unfold opening
  simp only [outcome_bind, after_bind, outcome_ask, after_ask]
  cases (s.world.manager.next p).1 with
  | failed code => exact .inl ⟨_, rfl, World.events_note _ _⟩
  | done => exact .inr ⟨_, rfl, World.events_note _ _, congrArg (· + 1) given, rfl⟩
  | state value => exact .inr ⟨_, rfl, World.events_note _ _, congrArg (· + 1) given, rfl⟩

end Service

namespace Controller

variable {α β : Type} {held : List Handle}

/-- While some handles are held that were given out, what the action does is a journal of the
grammar. -/
def Scopes (held : List Handle) (x : Act Controller α) : Prop :=
  ∀ s, (∀ handle ∈ held, handle.number ≤ s.world.manager.given) →
    ∃ t, (after x s).world.events = s.world.events ++ t ∧ Scoped held t

namespace Scopes

theorem of_plainly {x : Act Controller α} (h : Respects (plainly held) x) : Scopes held x := by
  intro s _
  obtain ⟨t, ht, hp⟩ := h s
  exact ⟨t, ht, .plain hp⟩

/-- What is silent may come first. -/
theorem silent_bind {x : Act Controller α} {f : α → Act Controller β} (hx : Respects silence x)
    (hf : ∀ a, Scopes held (f a)) : Scopes held (x >>= f) := by
  intro s below
  obtain ⟨events, given⟩ := hx s
  rw [after_bind]
  split
  · rw [← events]
    exact hf _ _ fun handle hm => given ▸ below handle hm
  · exact ⟨[], by rw [events, List.append_nil], .plain (List.forall_mem_nil _)⟩

/-- What is silent may come last. -/
theorem bind_silent {x : Act Controller α} {f : α → Act Controller β} (hx : Scopes held x)
    (hf : ∀ a, Respects silence (f a)) : Scopes held (x >>= f) := by
  intro s below
  rw [after_bind]
  split
  · rw [(hf _ _).1]
    exact hx s below
  · exact hx s below

theorem map {x : Act Controller α} (f : α → β) (hx : Scopes held x) : Scopes held (f <$> x) := by
  intro s below
  rw [after_map]
  exact hx s below

theorem attempt {x : Act Controller α} (hx : Scopes held x) : Scopes held (Act.attempt x) := by
  intro s below
  rw [after_attempt]
  exact hx s below

theorem guarded {x : Act Controller α} (hx : Scopes held x) :
    Scopes held (Controller.guarded x) := by
  refine bind_silent (.attempt hx) fun r => ?_
  split
  · exact .pure _
  · exact .pure _
  · exact .throw _

/-- **A handle that is opened and then held is a scope**, however the action with it ends. -/
theorem opening {p : Primitive} {event : Option Nat → Event} {action : String} {rights : Nat}
    {x : Nat → Act Controller α} (service : (event none).isService = true)
    (entitled : ∀ number?, (event number?).Entitled held)
    (grants : ∀ number, (event (some number)).granted? = some ⟨number, rights⟩)
    (grants_none : (event none).granted? = none) (returns_none : (event none).returned? = none)
    (hx : ∀ number, Scopes (⟨number, rights⟩ :: held) (x number)) :
    Scopes held (Service.opening p event action >>= fun number => holding number x) := by
  intro s below
  rw [after_bind]
  rcases Service.opening_cases p event action s with
    ⟨e, fails, events⟩ | ⟨number, opens, events, next, given⟩
  · rw [fails]
    exact ⟨_, events, .plain (List.forall_mem_singleton.mpr
      ⟨service, entitled none, grants_none, returns_none⟩)⟩
  · rw [opens]
    dsimp only
    have new : ∀ other ∈ held, other.number < number := fun other ho =>
      next ▸ Nat.lt_succ_of_le (below other ho)
    obtain ⟨body, within, inner⟩ := hx number (after (Service.opening p event action) s) (by
      rw [given]
      exact List.forall_mem_cons.mpr ⟨Nat.le_refl _, fun other ho => Nat.le_of_lt (new other ho)⟩)
    obtain ⟨done, closes⟩ := Service.events_closeHandle number
      (after (x number) (after (Service.opening p event action) s))
    have scope : Scoped held (event (some number) :: (body ++ [.closeHandle number done])) :=
      .scope (entitled _) (grants number) (fun other ho => Nat.ne_of_lt (new other ho)) inner
    refine ⟨_, ?_, scope⟩
    rw [holding, after_ensure, closes, within, events]
    simp

end Scopes

/-! ## The operations -/

theorem silent_log (level : Int) (message : String) : Respects silence (log level message) :=
  Service.silent_log _ _ _

theorem silent_prepare : Respects silence prepare := by
  refine .bind .own fun c => ?_
  split
  · exact .pure _
  · refine .bind .world fun w => ?_
    split
    · exact fun _ => ⟨rfl, rfl⟩
    · exact .fail _

theorem withManager_scopes {access : Nat} {x : Nat → Act Controller α}
    (hx : ∀ number, Scopes [⟨number, access⟩] (x number)) : Scopes [] (withManager access x) :=
  .silent_bind silent_prepare fun _ => .opening rfl (fun _ _ => nofun) (fun _ => rfl) rfl rfl hx

theorem withService_scopes {access : Nat} {x : Nat → Act Controller α}
    (hx : ∀ manager service,
      Scopes [⟨service, access⟩, ⟨manager, Access.connect⟩] (x service)) :
    Scopes [] (withService access x) := by
  refine withManager_scopes fun manager => .silent_bind .own fun c => ?_
  exact .opening rfl (fun _ => .of_head rfl (.of_rights (Nat.and_self _))) (fun _ => rfl) rfl rfl
    (hx manager)

theorem isInstalled_scopes : Scopes [] isInstalled := by
  refine .silent_bind .own fun c => .bind_silent (.guarded ?_) fun r => ?_
  · exact withService_scopes fun _ _ => .of_plainly (.pure _)
  · split
    · exact .pure _
    · split
      · exact .bind (silent_log _ _) fun _ => .pure _
      · exact .pure _

/-- A handle with the right to query may be queried. -/
theorem plainly_query {service rights : Nat}
    (h : rights &&& Access.queryStatus = Access.queryStatus) :
    Respects (plainly (⟨service, rights⟩ :: held)) (Service.query service : Act Controller _) :=
  Service.plainly_query fun _ => .of_head rfl (.of_rights h) rfl rfl

theorem queryState_scopes : Scopes [] queryState := by
  refine .silent_bind .own fun c => .bind_silent (.guarded ?_) fun r => ?_
  · exact withService_scopes fun _ _ => .of_plainly (plainly_query (by decide))
  · split
    · exact .pure _
    · exact .bind (silent_log _ _) fun _ => .pure _

theorem isRunning_scopes : Scopes [] isRunning := .bind_silent queryState_scopes fun _ => .pure _

/-- A handle that is held for nothing is given back at once. -/
theorem holding_nothing (number : Nat) :
    holding number (fun _ => pure ()) = Service.closeHandle number := by
  funext s
  show Act.ensure (pure ()) (Service.closeHandle number) s = Service.closeHandle number s
  cases h : Service.closeHandle number s <;> simp [Act.ensure, h, pure, EStateM.pure]

/-- The handle of a service that was just created is given back at once. -/
theorem create_scopes (manager : Nat) (c : Controller) (path : String) :
    Scopes [⟨manager, Access.createService⟩] (do
      let service ← Service.create manager c.name c.display path
      Service.closeHandle service) := by
  simp only [← holding_nothing]
  exact .opening rfl (fun _ => .of_head rfl (.of_rights (Nat.and_self _))) (fun _ => rfl) rfl rfl
    fun _ => .of_plainly (.pure _)

theorem install_scopes (path : String) : Scopes [] (install path) := by
  have rest : Scopes [] (do
      let c ← Act.own
      withManager Access.createService fun manager => do
        let service ← Service.create manager c.name c.display path
        Service.closeHandle service
      log Level.info s!"Service '{c.name}' installed for '{path}'.") :=
    .silent_bind .own fun c => .bind_silent
      (withManager_scopes fun manager => create_scopes manager c path) fun _ => silent_log _ _
  unfold install
  split
  · exact .silent_bind (.fail _) fun _ => rest
  · exact rest

theorem plainly_guarded {x : Act Controller α} (h : Respects (plainly held) x) :
    Respects (plainly held) (guarded x) := by
  refine .bind (.attempt h) fun r => ?_
  split
  · exact .pure _
  · exact .pure _
  · exact .throw _

theorem plainly_log (level : Int) (message : String) :
    Respects (plainly held) (log level message) := Adding.log _ _ _ _

theorem plainly_sleep (seconds : Float) :
    Respects (plainly held) (Act.sleep seconds : Act Controller Unit) :=
  Adding.sleep ⟨rfl, nofun, rfl, rfl⟩

theorem plainly_stopBefore {service rights : Nat}
    (hq : rights &&& Access.queryStatus = Access.queryStatus)
    (hs : rights &&& Access.stop = Access.stop) :
    Respects (plainly (⟨service, rights⟩ :: held)) (stopBefore service) := by
  refine .bind (plainly_guarded (plainly_query hq)) fun r => ?_
  split
  · exact plainly_log _ _
  · split
    · have rest : Respects (plainly (⟨service, rights⟩ :: held))
          (do Act.sleep (← Act.own).grace : Act Controller Unit) :=
        .bind .own fun _ => plainly_sleep _
      refine .bind (plainly_guarded (Service.plainly_doing fun _ =>
        .of_head rfl (.of_rights hs) rfl rfl)) fun r => ?_
      split
      · exact .bind (plainly_log _ _) fun _ => rest
      · exact rest
    · exact .pure _

theorem uninstall_scopes : Scopes [] uninstall := by
  refine .bind_silent (withService_scopes fun manager service => .of_plainly ?_) fun _ =>
    .bind .own fun _ => silent_log _ _
  refine .bind (plainly_stopBefore (by decide) (by decide)) fun _ => ?_
  exact Service.plainly_doing fun _ => .of_head rfl (.of_rights (by decide)) rfl rfl

theorem plainly_poll {service rights : Nat}
    (hq : rights &&& Access.queryStatus = Access.queryStatus) (target : ServiceState)
    (attempts : Nat) (seen : Option ServiceState) :
    Respects (plainly (⟨service, rights⟩ :: held)) (poll service target attempts seen) := by
  induction attempts generalizing seen with
  | zero => exact .pure _
  | succ attempts ih =>
    refine .bind (plainly_guarded (plainly_query hq)) fun r => ?_
    split
    · split
      · exact .pure _
      · exact .bind .own fun _ => .bind (plainly_sleep _) fun _ => ih _
    · exact .bind (plainly_log _ _) fun _ => .bind .own fun _ => .bind (plainly_sleep _) fun _ =>
        ih _

theorem plainly_awaitState {service rights : Nat}
    (hq : rights &&& Access.queryStatus = Access.queryStatus) (target : ServiceState) :
    Respects (plainly (⟨service, rights⟩ :: held)) (awaitState service target) := by
  refine .bind .own fun c => .bind (plainly_poll hq _ _ _) fun seen => ?_
  dsimp only
  split
  · exact .pure _
  · exact .bind (.orStumble _) fun _ => .bind (plainly_log _ _) fun _ => .pure _

theorem start_scopes : Scopes [] start := by
  refine .silent_bind .own fun c => .bind_silent
    (withService_scopes fun manager service => .of_plainly ?_) fun _ =>
      .bind (silent_log _ _) fun _ => .pure _
  have waits : Respects (plainly [⟨service, Access.start ||| Access.queryStatus⟩,
      ⟨manager, Access.connect⟩]) (awaitState service .running) :=
    plainly_awaitState (by decide) .running
  refine .bind (plainly_guarded (Service.plainly_doing fun _ =>
    .of_head rfl (.of_rights (by decide)) rfl rfl)) fun r => ?_
  split
  · split
    · exact .bind (.fail _) fun _ => .bind (plainly_log _ _) fun _ => waits
    · exact .bind (plainly_log _ _) fun _ => waits
  · exact waits

theorem stop_scopes : Scopes [] stop := by
  refine .silent_bind .own fun c => .bind_silent
    (withService_scopes fun manager service => .of_plainly ?_) fun p => ?_
  · refine .bind (plainly_guarded (Service.plainly_doing fun _ =>
      .of_head rfl (.of_rights (by decide)) rfl rfl)) fun r => ?_
    split
    · exact .bind (plainly_awaitState (by decide) .stopped) fun _ => .pure _
    · split
      · exact .bind (.fail _) fun _ => .bind (plainly_log _ _) fun _ => .pure _
      · exact .bind (plainly_log _ _) fun _ => .pure _
  · dsimp only
    split
    · exact .bind (silent_log _ _) fun _ => .pure _
    · exact .pure _

/-- Whatever is asked of the controller, what it does is a journal of the grammar. -/
theorem perform_scopes (c : Call) : Scopes [] (perform c) := by
  cases c with
  | isInstalled => exact .map _ isInstalled_scopes
  | isRunning => exact .map _ isRunning_scopes
  | queryState => exact .map _ queryState_scopes
  | install path => exact .bind_silent (install_scopes path) fun _ => .pure _
  | uninstall => exact .bind_silent uninstall_scopes fun _ => .pure _
  | start => exact .map _ start_scopes
  | stop => exact .map _ stop_scopes

/-- Nothing but the service manager is called. -/
theorem calls_of_scopes {x : Act Controller α} (h : Scopes [] x) :
    Respects (adding fun e => e.isService) x := by
  intro s
  obtain ⟨t, events, within⟩ := h s (List.forall_mem_nil _)
  exact ⟨t, events, within.isService⟩

/-- **Every handle is returned.** In whatever scene the controller is asked for something, and
whatever the service manager answers: what is done before it answers or fails uses only handles
that were opened for it, each with the rights that the call needs, and gives every one of them back
once, in the reverse order of their opening. -/
theorem handles_returned (c : Call) (s : Scene Controller) :
    ∃ t, (after (perform c) s).world.events = s.world.events ++ t ∧ HandlesReturned t := by
  obtain ⟨t, events, within⟩ := perform_scopes c s (List.forall_mem_nil _)
  exact ⟨t, events, within.handlesReturned⟩

/-- The handle of the service is given back before that of the service manager. -/
example : (after (perform (.install "guard.exe")) ⟨{}, {}⟩).world.events =
    [.openManager 2 (some 1), .createService 1 "ProcessGuardService" "Process Guard Service"
      "guard.exe" (some 2), .closeHandle 2 true, .closeHandle 1 true] := rfl

end Controller

end Vigil
