import Vigil.Proofs.Reporter.Host

/-!
# What the operations of a watch do to its registry

An operation of the reporters that sends no heartbeat always returns, changes the registry alone,
and what it returns can be read off the registry it finds: `Watch.Leads` says so of one registry,
with a rule for each combinator. Stopping a reporter comes to `Registry.halt`, and stopping all to
`Registry.haltAll`. A heartbeat may do anything; `Watch.reaches_beat` says what is done before it
and after it, whatever it comes to.

* `Watch.leads_stop`, `Watch.leads_stopAll`: what the two operations come to.
* `Watch.reaches_beat`, `reaches_start`, `reaches_tick`: the operations that send heartbeats.
-/

namespace Vigil

namespace Registry

/-- A reporter that waits exits; another one does what it does. -/
def retired (reporter : Reporter) : Reporter :=
  if reporter.phase = .parked then { reporter with phase := .exited } else reporter

/-- The registry with one reporter exited if it waits. -/
def retire (r : Registry) (number : Nat) : Registry := r.change number retired

/-- The registry after the reporter of an id was stopped. -/
def halt (r : Registry) (id : String) : Registry :=
  match r.number? id with
  | none => r
  | some number => ((r.cancel number).retire number).discharge id number

/-- The registry after all reporters in charge were stopped. -/
def haltAll (r : Registry) : Registry :=
  let cancelled := r.entries.foldl (fun r e => r.cancel e.2) r
  let joined := r.entries.foldl (fun r e => r.retire e.2) cancelled
  r.entries.foldl (fun r e => r.discharge e.1 e.2) joined

theorem ext {r r' : Registry} (hr : ∀ k, r.reporter? k = r'.reporter? k)
    (he : r.entries = r'.entries) : r = r' := by
  cases r
  cases r'
  cases he
  rw [Registry.mk.injEq]
  exact ⟨List.ext_getElem? hr, rfl⟩

/-- What a change does depends on the reporter that is changed alone. -/
theorem change_congr {r : Registry} {number : Nat} {f g : Reporter → Reporter}
    (h : ∀ reporter, r.reporter? number = some reporter → f reporter = g reporter) :
    r.change number f = r.change number g := by
  refine ext (fun k => ?_) rfl
  rw [reporter?_change, reporter?_change]
  split
  · rename_i hk
    subst hk
    cases hn : r.reporter? number with
    | none => rfl
    | some reporter => simp [h reporter hn]
  · rfl

theorem change_self (r : Registry) (number : Nat) : (r.change number fun x => x) = r := by
  refine ext (fun k => ?_) rfl
  rw [reporter?_change]
  split <;> simp

end Registry

namespace Watch

open Act

variable {σ α β : Type}

/-- From the one registry the action returns `a` and leaves the other one, and changes nothing else
of the watch. -/
def Leads (r : Registry) (x : Act (Watch σ) α) (a : α) (r' : Registry) : Prop :=
  ∀ s, s.own.registry = r →
    outcome x s = .ok a ∧ (after x s).own = ⟨r', s.own.host⟩

namespace Leads

variable {r r₁ r₂ : Registry}

theorem pure (a : α) : Leads (σ := σ) r (Pure.pure a) a r := fun _ h => ⟨rfl, h ▸ rfl⟩

theorem bind {x : Act (Watch σ) α} {k : α → Act (Watch σ) β} {a : α} {b : β} (hx : Leads r x a r₁)
    (hk : Leads r₁ (k a) b r₂) : Leads r (x >>= k) b r₂ := by
  intro s h
  obtain ⟨hxo, hxa⟩ := hx s h
  obtain ⟨hko, hka⟩ := hk (after x s) (by rw [hxa])
  rw [outcome_bind, after_bind, hxo]
  refine ⟨hko, hka.trans ?_⟩
  rw [hxa]

/-- What follows such an action starts from what it leaves. -/
theorem reaches {x : Act (Watch σ) α} {a : α} {s : Scene (Watch σ)}
    {Q : α → Scene (Watch σ) → Prop} (h : Leads s.own.registry x a r)
    (hQ : ∀ t : Scene (Watch σ), t.own = ⟨r, s.own.host⟩ → Q a t) : Reaches s x Q := by
  obtain ⟨returns, own⟩ := h s rfl
  exact ⟨a, returns, hQ _ own⟩

/-- What follows a look at the registry sees the registry that is there. -/
theorem current_bind {k : Registry → Act (Watch σ) α} {a : α} (h : Leads r (k r) a r₁) :
    Leads r (current >>= k) a r₁ := by
  rintro s rfl
  exact h s rfl

theorem map {x : Act (Watch σ) α} (f : α → β) {a : α} (h : Leads r x a r₁) :
    Leads r (f <$> x) (f a) r₁ := by
  intro s hs
  obtain ⟨returns, own⟩ := h s hs
  rw [outcome_map, after_map, returns]
  exact ⟨rfl, own⟩

theorem alter (f : Registry → Registry) : Leads (σ := σ) r (Watch.alter f) () (f r) := by
  rintro s rfl
  exact ⟨rfl, rfl⟩

theorem log (level : Int) (message : LooseText) (traced : Bool) :
    Leads (σ := σ) r (Watch.log level message traced) () r := by
  rintro s rfl
  exact ⟨rfl, rfl⟩

theorem logAs (number : Nat) (id message : String) :
    Leads (σ := σ) r (Watch.logAs number id message) () r := by
  rintro s rfl
  exact ⟨rfl, rfl⟩

theorem forM {l : List β} {f : β → Act (Watch σ) PUnit} {g : Registry → β → Registry}
    (h : ∀ b r, Leads r (f b) ⟨⟩ (g r b)) : Leads r (l.forM f) ⟨⟩ (l.foldl g r) := by
  induction l generalizing r with
  | nil => exact .pure _
  | cons b rest ih => exact .bind (h b r) ih

end Leads

/-! ## Stopping -/

variable {r : Registry}

theorem leads_leave (number : Nat) (reporter : Reporter) :
    Leads (σ := σ) r (leave number reporter) () (r.enter number .exited) :=
  .bind (.alter _) (.logAs _ _ _)

/-- A reporter that is waited for exits if it waits itself. -/
theorem leads_join (number : Nat) : Leads (σ := σ) r (join number) () (r.retire number) := by
  refine .current_bind ?_
  cases found : r.reporter? number with
  | none =>
    have same : r.retire number = r :=
      (Registry.change_congr fun x hx => nomatch found.symm.trans hx).trans (r.change_self number)
    rw [same]
    exact .pure _
  | some reporter =>
    have this (x : Reporter) (hx : r.reporter? number = some x) : x = reporter :=
      Option.some.inj (hx.symm.trans found)
    dsimp only
    split
    · rename_i hp
      have exits : r.retire number = r.enter number .exited := by
        refine Registry.change_congr fun x hx => ?_
        rw [this x hx, Registry.retired, if_pos hp]
      rw [exits]
      exact leads_leave _ _
    · rename_i hp
      have same : r.retire number = r := by
        refine (Registry.change_congr fun x hx => ?_).trans (r.change_self number)
        rw [this x hx, Registry.retired, if_neg hp]
      rw [same]
      exact .pure _

/-- **A stop tells whether somebody was in charge of the id**, and then nobody is. -/
theorem leads_stop (id : String) :
    Leads (σ := σ) r (stop id) (r.number? id).isSome (r.halt id) := by
  refine .current_bind ?_
  unfold Registry.halt
  cases r.number? id with
  | none => exact .pure _
  | some number =>
    exact .bind (.alter _) (.bind (leads_join _) (.bind (.alter _) (.bind (.log _ _ _) (.pure _))))

/-- **Stopping all reporters cancels them, waits for them, and discharges them.** -/
theorem leads_stopAll : Leads (σ := σ) r stopAll () r.haltAll := by
  refine .current_bind (.bind (.forM fun _ _ => .alter _) (.bind (.forM fun _ _ => leads_join _)
    (.bind (.forM fun _ _ => .alter _) ?_)))
  split
  · exact .pure _
  · exact .log _ _ _

theorem leads_isRunning (id : String) :
    Leads (σ := σ) r (isRunning id) (r.isRunning id) r :=
  .current_bind (.pure _)

theorem leads_activeIds : Leads (σ := σ) r activeIds r.activeIds r := .current_bind (.pure _)

/-! ## Heartbeats -/

variable {send : String → Act (Watch σ) Unit} {s : Scene (Watch σ)}

theorem reaches_current {Q : Registry → Scene (Watch σ) → Prop} (h : Q s.own.registry s) :
    Reaches s current Q := ⟨_, rfl, h⟩

/-- A reporter that has beaten waits if it is live, and else exits. -/
theorem leads_rest (number : Nat) (reporter : Reporter) :
    Leads (σ := σ) r
      (do
        if (← current).isLive number then alter (·.enter number .parked)
        else leave number reporter)
      () (r.enter number (if r.isLive number then .parked else .exited)) := by
  refine .current_bind ?_
  split
  · exact .alter _
  · exact leads_leave _ _

/-- The scene in which a reporter sends its heartbeat. -/
structure Beating (s : Scene (Watch σ)) (number : Nat) (reporter : Reporter)
    (before : Scene (Watch σ)) : Prop where
  own : before.own = ⟨s.own.registry.enter number .beating, s.own.host⟩
  events : before.world.events = s.world.events ++ [.beat reporter.id]
  now : before.world.now = s.world.now

/-- The scene after that, in which the reporter waits if it is live and else has exited. -/
structure Rested (sent : Scene (Watch σ)) (number : Nat) (reporter : Reporter)
    (t : Scene (Watch σ)) : Prop where
  own : t.own = ⟨sent.own.registry.enter number
    (if sent.own.registry.isLive number then .parked else .exited), sent.own.host⟩
  events : t.world.events =
    sent.world.events ++ [.park (reporterMark ++ reporter.id) reporter.interval]

/-- **A reporter beats**: it sends its heartbeat, and whatever that comes to, the reporter rests
afterwards. -/
theorem reaches_beat {number : Nat} {reporter : Reporter}
    (found : s.own.registry.reporter? number = some reporter) {Q : Unit → Scene (Watch σ) → Prop}
    (h : ∀ before t : Scene (Watch σ), Beating s number reporter before →
      Rested (after (send reporter.id) before) number reporter t → Q () t) :
    Reaches s (beat send number) Q := by
  refine .bind (reaches_current ?_)
  rw [found]
  refine .bind (.update (.bind (.speaking (.bind (.note (.bind (.attempt ?_)))))))
  generalize hb : Scene.mk _ _ = before
  have beating : Beating s number reporter before := by
    rw [← hb]
    exact ⟨rfl, World.events_note _ _, rfl⟩
  -- Whatever the heartbeat came to, the rest starts from the watch that it left.
  have rest (u : Scene (Watch σ)) (own : u.own = (after (send reporter.id) before).own)
      (events : u.world.events = (after (send reporter.id) before).world.events) :
      Reaches u (note (.park (reporterMark ++ reporter.id) reporter.interval) >>= fun _ => do
        if (← current).isLive number then alter (·.enter number .parked)
        else leave number reporter) Q := by
    refine .bind (.note ?_)
    generalize hv : Scene.mk _ _ = v
    obtain ⟨returns, rested⟩ := leads_rest number reporter v rfl
    refine ⟨(), returns, h before _ beating ⟨?_, ?_⟩⟩
    · rw [rested, ← hv, own]
    · have quiet : Respects Frame.hushed (σ := Watch σ) (do
          if (← current).isLive number then alter (·.enter number .parked)
          else leave number reporter) := by
        refine .bind Frame.Bears.current fun r => ?_
        split
        · exact Frame.bears_hushed.registry _
        · exact Frame.bears_hushed.leave _ _
      rw [(quiet v).1, ← hv, World.events_note, events]
  cases outcome (send reporter.id) before with
  | ok _ => exact .pure (rest _ rfl rfl)
  | error e => exact ⟨(), rfl, rest _ rfl (World.events_log _ _ _ _ _)⟩

/-- A start for an id that runs does nothing. -/
theorem reaches_start_running {id : String} (h : s.own.registry.isRunning id = true)
    {interval : Float} {Q : Bool → Scene (Watch σ) → Prop} (hQ : Q false s) :
    Reaches s (start send id interval) Q := by
  refine .bind (reaches_current ?_)
  rw [if_pos h]
  exact .pure hQ

/-- A start for an id that nobody is in charge of enlists a reporter, which beats. -/
theorem reaches_start {id : String} (h : s.own.registry.number? id = none) {interval : Float}
    {Q : Bool → Scene (Watch σ) → Prop}
    (hQ : ∀ t : Scene (Watch σ), t.own = ⟨s.own.registry.enlist id interval, s.own.host⟩ →
      Frame.hushed.holds s t →
      Reaches t (beat send s.own.registry.reporters.length) fun _ => Q true) :
    Reaches s (start send id interval) Q := by
  have idle : s.own.registry.isRunning id = false := by rw [Registry.isRunning, h]
  refine .bind (reaches_current ?_)
  rw [idle, if_neg nofun]
  refine .bind (reaches_current ?_)
  rw [h]
  refine .bind (reaches_current (.bind (.update (.bind ⟨(), rfl, .bind ⟨(), rfl, ?_⟩⟩))))
  refine .bind ((hQ _ rfl ?_).mono fun _ _ => .pure)
  exact Frame.hushed.trans (Frame.hushed_log _ _ _ _ _) (Frame.bears_hushed.logAs _ _ _ _)

/-- An interval that nobody waits for elapses without anything. -/
theorem reaches_tick_none {id : String} (h : s.own.registry.parked? id = none)
    {Q : Bool → Scene (Watch σ) → Prop} (hQ : Q false s) : Reaches s (tick send id) Q := by
  refine .bind (reaches_current ?_)
  rw [h]
  exact .pure hQ

/-- When the interval of a reporter elapses, it beats. -/
theorem reaches_tick {id : String} {number : Nat} (h : s.own.registry.parked? id = some number)
    {Q : Bool → Scene (Watch σ) → Prop} (hQ : Reaches s (beat send number) fun _ => Q true) :
    Reaches s (tick send id) Q := by
  refine .bind (reaches_current ?_)
  rw [h]
  exact .bind (hQ.mono fun _ _ => .pure)

end Watch

end Vigil
