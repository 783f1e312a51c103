import Vigil.Proofs.Act

/-!
# What actions add to the journal

The journal only grows: an action adds events behind those that are there. `adding P` is the frame
of what adds events of the kind `P` alone. The kinds told apart here are the calls to the pipe, the
calls of the service manager and those of the callbacks.
-/

namespace Vigil

open Act

namespace Event

/-- The event is a call to the pipe, or a pause between two of them. -/
def isPipe : Event → Bool
  | .openPipe .. | .write .. | .read .. | .close .. | .wait .. | .sleep _ => true
  | _ => false

/-- The event is a pause between two attempts to open the pipe. -/
def isPause : Event → Bool
  | .wait .. | .sleep _ => true
  | _ => false

/-- The event is a call of the service manager, or a pause between two of them. -/
def isService : Event → Bool
  | .openManager .. | .openService .. | .createService .. | .deleteService .. | .startService ..
  | .controlService .. | .queryStatus .. | .closeHandle .. | .sleep _ => true
  | _ => false

/-- The event is a call of a callback, or what a callback does. -/
def isCallback : Event → Bool
  | .heartbeatCallback _ | .connectionCallback _ | .reacts .. => true
  | _ => false

/-- The event closes a connection of the pipe. -/
def isClosing : Event → Bool
  | .close .. => true
  | _ => false

theorem isPipe_of_isClosing {e : Event} (h : e.isClosing = true) : e.isPipe = true := by
  cases e <;> first | rfl | cases h

theorem isPipe_of_isPause {e : Event} (h : e.isPause = true) : e.isPipe = true := by
  cases e <;> first | rfl | cases h

end Event

/-- What stands in a list with one more element at its end is that element, or stands before it. -/
theorem last_or_within {α : Type} {body before later : List α} {last e : α}
    (h : body ++ [last] = before ++ e :: later) :
    before = body ∧ e = last ∨ ∃ rest, body = before ++ e :: rest := by
  rcases later.eq_nil_or_concat with rfl | ⟨rest, other, rfl⟩
  · obtain ⟨rfl, same⟩ := List.append_inj' h rfl
    exact .inl ⟨rfl, (List.singleton_inj.mp same).symm⟩
  · rw [List.concat_eq_append, ← List.cons_append, ← List.append_assoc] at h
    exact .inr ⟨rest, (List.append_inj' h rfl).1⟩

/-- Adds events of one kind alone. -/
def adding {σ : Type} (P : Event → Prop) : Frame (Scene σ) where
  holds a b := ∃ t, b.world.events = a.world.events ++ t ∧ ∀ e ∈ t, P e
  refl _ := ⟨[], (List.append_nil _).symm, List.forall_mem_nil _⟩
  trans := by
    rintro a b c ⟨t, ht, hp⟩ ⟨u, hu, hq⟩
    refine ⟨t ++ u, by rw [hu, ht, List.append_assoc], fun e he => ?_⟩
    exact (List.mem_append.mp he).elim (hp e) (hq e)

namespace Adding

variable {σ τ α : Type} {P Q : Event → Prop}

theorem mono {x : Act σ α} (h : Respects (adding P) x) (hPQ : ∀ e, P e → Q e) :
    Respects (adding Q) x := by
  intro s
  obtain ⟨t, ht, hp⟩ := h s
  exact ⟨t, ht, fun e he => hPQ e (hp e he)⟩

/-- What leaves the events as they are adds none. -/
theorem of_same {x : Act σ α} (h : ∀ s, (after x s).world.events = s.world.events) :
    Respects (adding P) x := fun s =>
  ⟨[], by rw [h, List.append_nil], List.forall_mem_nil _⟩

theorem update (f : σ → σ) : Respects (adding P) (Act.update f) := of_same fun _ => rfl

theorem log (source : Source) (level : Int) (message : LooseText) (traced : Bool) :
    Respects (adding P) (Act.log source level message traced : Act σ Unit) :=
  of_same fun s => World.events_log s.world source level message traced

/-- A step of the world that puts one event into the journal. -/
theorem alter {f : World → World} (h : ∀ w, ∃ e, (f w).events = w.events ++ [e] ∧ P e) :
    Respects (adding P) (Act.alter f : Act σ Unit) := by
  intro s
  obtain ⟨e, he, hp⟩ := h s.world
  exact ⟨[e], he, List.forall_mem_singleton.mpr hp⟩

theorem note {e : Event} (h : P e) : Respects (adding P) (Act.note e : Act σ Unit) :=
  alter fun w => ⟨e, World.events_note w e, h⟩

theorem sleep {seconds : Float} (h : P (.sleep seconds)) :
    Respects (adding P) (Act.sleep seconds : Act σ Unit) :=
  alter fun w => ⟨.sleep seconds, World.events_sleep w seconds, h⟩

theorem speaking {x : Act σ α} (speaker : Speaker) (h : Respects (adding P) x) :
    Respects (adding P) (Act.speaking speaker x) := by
  intro s
  rw [after_speaking]
  exact h { s with world := { s.world with speaker } }

theorem within {part : σ → τ} {put : τ → σ → σ} {x : Act τ α} (h : Respects (adding P) x) :
    Respects (adding P) (Act.within part put x) := by
  intro s
  rw [after_within]
  exact h ⟨s.world, part s.own⟩

end Adding

end Vigil
