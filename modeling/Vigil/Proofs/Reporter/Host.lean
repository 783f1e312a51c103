import Vigil.Proofs.Journal
import Vigil.Reporter.Watch

/-!
# What the reporters leave alone

The registry and the host of a watch are apart: starting, stopping and ticking reporters changes
the host by nothing but the heartbeats that are sent. A frame that spares the reporters, what they
log and when they beat therefore holds of every operation of the reporters as soon as it holds of
the heartbeats.

* `Frame.Bears`, `Frame.Spares`: the frames of this kind; the first one says nothing of heartbeats.
* `Frame.spares_host`, `Frame.spares_adding`: what is said of the host alone is one of them, and so
  is which events are added to the journal.
-/

namespace Vigil

open Act

namespace Event

/-- The event marks the beginning or the end of a heartbeat. -/
def isBeat : Event → Bool
  | .beat _ | .park .. => true
  | _ => false

end Event

namespace Frame

variable {σ : Type}

/-- The frame that looks at the host alone. -/
def host (F : Frame σ) : Frame (Scene (Watch σ)) := (F.seen Watch.host).own

/-- The frame allows for any change of the registry and for what is logged, and does not mind who
speaks. -/
structure Bears (F : Frame (Scene (Watch σ))) : Prop where
  registry : ∀ f, Respects F (Watch.alter f)
  log : ∀ level message traced, Respects F (Watch.log level message traced)
  speaking : ∀ {α : Type} (speaker : Speaker) {x : Act (Watch σ) α}, Respects F x →
    Respects F (Act.speaking speaker x)

/-- And it allows for the marks of heartbeats. -/
structure Spares (F : Frame (Scene (Watch σ))) : Prop extends Bears F where
  note : ∀ {e : Event}, e.isBeat = true → Respects F (Act.note e)

theorem spares_host (F : Frame σ) : Spares F.host where
  registry _ s := F.refl s.own.host
  log _ _ _ s := F.refl s.own.host
  note _ s := F.refl s.own.host
  speaking speaker _ h := .speaking speaker h

theorem bears_adding (P : Event → Prop) : Bears (σ := σ) (adding P) where
  registry _ := Adding.update _
  log level message traced := Adding.log .reporters level message traced
  speaking speaker _ := Adding.speaking speaker

theorem spares_adding {P : Event → Prop} (h : ∀ e, e.isBeat = true → P e) :
    Spares (σ := σ) (adding P) where
  toBears := bears_adding P
  note he := Adding.note (h _ he)

/-- Nothing happens, and no time passes. -/
def hushed : Frame (Scene σ) where
  holds a b := b.world.events = a.world.events ∧ b.world.now = a.world.now
  refl _ := ⟨rfl, rfl⟩
  trans hab hbc := ⟨hbc.1.trans hab.1, hbc.2.trans hab.2⟩

theorem hushed_log (source : Source) (level : Int) (message : LooseText) (traced : Bool) :
    Respects hushed (Act.log source level message traced : Act σ Unit) := fun s =>
  ⟨World.events_log s.world source level message traced,
    World.now_log s.world source level message traced⟩

theorem bears_hushed : Bears (σ := σ) hushed where
  registry _ _ := ⟨rfl, rfl⟩
  log level message traced := hushed_log .reporters level message traced
  speaking speaker x h s := by
    rw [after_speaking]
    exact h { s with world := { s.world with speaker } }

theorem Spares.both {F G : Frame (Scene (Watch σ))} (hF : F.Spares) (hG : G.Spares) :
    (F.both G).Spares where
  registry f s := ⟨hF.registry f s, hG.registry f s⟩
  log level message traced s := ⟨hF.log level message traced s, hG.log level message traced s⟩
  note he s := ⟨hF.note he s, hG.note he s⟩
  speaking speaker _ h s :=
    ⟨hF.speaking speaker (fun a => (h a).1) s, hG.speaking speaker (fun a => (h a).2) s⟩

end Frame

namespace Frame.Bears

open Watch

variable {σ : Type} {F : Frame (Scene (Watch σ))}

/-! ## Stopping -/

theorem current : Respects F (Watch.current (σ := σ)) := .map _ .own

theorem logAs (h : F.Bears) (number : Nat) (id message : String) :
    Respects F (Watch.logAs number id message) :=
  h.speaking _ (h.log _ _ _)

theorem leave (h : F.Bears) (number : Nat) (reporter : Reporter) :
    Respects F (Watch.leave number reporter) :=
  .bind (h.registry _) fun _ => h.logAs _ _ _

theorem join (h : F.Bears) (number : Nat) : Respects F (Watch.join number) := by
  refine .bind current fun r => ?_
  split
  · split
    · exact h.leave _ _
    · exact .pure _
  · exact .pure _

theorem stop (h : F.Bears) (id : String) : Respects F (Watch.stop id) := by
  refine .bind current fun r => ?_
  split
  · exact .pure _
  · exact .bind (h.registry _) fun _ => .bind (h.join _) fun _ =>
      .bind (h.registry _) fun _ => .bind (h.log _ _ _) fun _ => .pure _

theorem stopAll (h : F.Bears) : Respects F Watch.stopAll := by
  refine .bind current fun r => ?_
  refine .bind (.forM fun _ => h.registry _) fun _ => ?_
  refine .bind (.forM fun _ => h.join _) fun _ => ?_
  refine .bind (.forM fun _ => h.registry _) fun _ => ?_
  split
  · exact .pure _
  · exact h.log _ _ _

theorem activeIds : Respects F (Watch.activeIds (σ := σ)) := .map _ current

end Frame.Bears

namespace Frame.Spares

open Watch

variable {σ : Type} {F : Frame (Scene (Watch σ))}

/-! ## Heartbeats -/

variable {send : String → Act (Watch σ) Unit}

/-- A reporter does what its heartbeat does. -/
theorem beat (h : F.Spares) (hs : ∀ id, Respects F (send id)) (number : Nat) :
    Respects F (Watch.beat send number) := by
  refine .bind Bears.current fun r => ?_
  split
  · refine .bind (h.registry _) fun _ => .bind ?_ fun _ => .bind (h.note rfl) fun _ => ?_
    · refine h.speaking _ (.bind (h.note rfl) fun _ => .bind (.attempt (hs _)) fun outcome => ?_)
      split
      · exact h.log _ _ _
      · exact .pure _
    · refine .bind Bears.current fun r => ?_
      split
      · exact h.registry _
      · exact h.leave _ _
  · exact .pure _

theorem start (h : F.Spares) (hs : ∀ id, Respects F (send id)) (id : String) (interval : Float) :
    Respects F (Watch.start send id interval) := by
  refine .bind Bears.current fun r => ?_
  split
  · exact .pure _
  · have rest : Respects F (do
        let number := (← Watch.current).reporters.length
        Watch.alter (·.enlist id interval)
        Watch.log Level.info s!"Heartbeat thread started for '{id}'."
        Watch.logAs number id
          s!"Heartbeat reporter for '{id}' started (interval {Number.plain.render interval}s)."
        Watch.beat send number
        pure true) :=
      .bind Bears.current fun _ => .bind (h.registry _) fun _ => .bind (h.log _ _ _) fun _ =>
        .bind (h.logAs _ _ _) fun _ => .bind (h.beat hs _) fun _ => .pure _
    refine .bind Bears.current fun r => ?_
    split
    · exact .bind (h.join _) fun _ => rest
    · exact rest

theorem tick (h : F.Spares) (hs : ∀ id, Respects F (send id)) (id : String) :
    Respects F (Watch.tick send id) := by
  refine .bind Bears.current fun r => ?_
  split
  · exact .pure _
  · exact .bind (h.beat hs _) fun _ => .pure _

end Frame.Spares

namespace Watch

variable {σ α : Type} {F : Frame σ}

/-- A hosted action does to the host what it does to its own state. -/
theorem respects_hosted {x : Act σ α} (hx : Respects F.own x) : Respects F.host (hosted x) := by
  intro s
  show F.holds s.own.host (Act.after (hosted x) s).own.host
  rw [hosted, after_within]
  exact hx ⟨s.world, s.own.host⟩

theorem respects_note {e : Event} : Respects F.host (note (σ := Watch σ) e) :=
  fun s => F.refl s.own.host

theorem respects_log {source : Source} {level : Int} {message : LooseText} {traced : Bool} :
    Respects F.host (Act.log (σ := Watch σ) source level message traced) :=
  fun s => F.refl s.own.host

end Watch

end Vigil
