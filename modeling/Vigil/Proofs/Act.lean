import Vigil.World.Act

/-!
# What actions keep, what they return, and runs of calls

A frame is a relation that no step and any two steps stay within. An action *respects* a frame of
scenes if it stays within it, whatever it comes to. One rule for each combinator takes this from
the parts of an action to the whole (`Respects.bind`, `Respects.ensure`, …), so that what an
operation leaves alone is proved along its text.

`Returns` is the other half: an action that always returns, and what it returns; `Reaches` says of
one scene what is returned from it and where that leads, and `Raises` what an action raises if it
does not return. A `Triple` tells both ends of an action: where it leads from some
scenes if it returns, and where if it fails.

`Run` is a sequence of calls to a part of the client, each made whatever the earlier ones came to.
Between two calls the outside may become another one: its clocks, its platform, and all that its
pipe and its service manager have in store.
-/

namespace Vigil

/-- A relation that no step and any two steps stay within. -/
structure Frame (σ : Type) where
  holds : σ → σ → Prop
  refl : ∀ a, holds a a
  trans : ∀ {a b c}, holds a b → holds b c → holds a c

namespace Frame

variable {σ τ : Type}

/-- The frame of what is seen of a state. -/
def seen (F : Frame τ) (view : σ → τ) : Frame σ where
  holds a b := F.holds (view a) (view b)
  refl a := F.refl (view a)
  trans := F.trans

/-- Stays within both frames. -/
def both (F G : Frame σ) : Frame σ where
  holds a b := F.holds a b ∧ G.holds a b
  refl a := ⟨F.refl a, G.refl a⟩
  trans hab hbc := ⟨F.trans hab.1 hbc.1, G.trans hab.2 hbc.2⟩

/-- The frame that looks at the own state alone. -/
def own (F : Frame σ) : Frame (Scene σ) := F.seen Scene.own

end Frame

namespace Act

variable {σ τ α β : Type}

/-! ## Frames -/

/-- Whatever the action comes to, it stays within the frame. -/
def Respects (F : Frame (Scene σ)) (x : Act σ α) : Prop := ∀ s, F.holds s (after x s)

namespace Respects

variable {F : Frame (Scene σ)}

theorem pure (a : α) : Respects F (Pure.pure a) := fun s => F.refl s

theorem throw (e : Raised) : Respects F (MonadExcept.throw e : Act σ α) := fun s => F.refl s

theorem fail (e : Error) : Respects F (Act.fail e : Act σ α) := fun s => F.refl s

theorem stumble (m : Mishap) : Respects F (Act.stumble m : Act σ α) := fun s => F.refl s

theorem orStumble (r : Except Mishap α) : Respects F (Act.orStumble r) := by
  intro s
  rw [after_orStumble]
  exact F.refl s

theorem world : Respects F (Act.world : Act σ World) := fun s => F.refl s

theorem own : Respects F (Act.own : Act σ σ) := fun s => F.refl s

theorem bind {x : Act σ α} {f : α → Act σ β} (hx : Respects F x) (hf : ∀ a, Respects F (f a)) :
    Respects F (x >>= f) := by
  intro s
  rw [after_bind]
  split
  · exact F.trans (hx s) (hf _ _)
  · exact hx s

/-- What follows a value needs to stay within the frame only for values that come. -/
theorem bind_of_outcome {x : Act σ α} {f : α → Act σ β} (hx : Respects F x)
    (hf : ∀ s a, outcome x s = .ok a → Respects F (f a)) : Respects F (x >>= f) := by
  intro s
  rw [after_bind]
  split
  · rename_i a ha
    exact F.trans (hx s) (hf s a ha _)
  · exact hx s

theorem map {x : Act σ α} (f : α → β) (hx : Respects F x) : Respects F (f <$> x) := by
  intro s
  rw [after_map]
  exact hx s

theorem discard {x : Act σ α} (hx : Respects F x) : Respects F (Functor.discard x) := by
  intro s
  rw [after_discard]
  exact hx s

theorem attempt {x : Act σ α} (hx : Respects F x) : Respects F (Act.attempt x) := by
  intro s
  rw [after_attempt]
  exact hx s

theorem ensure {x : Act σ α} {last : Act σ Unit} (hx : Respects F x) (hl : Respects F last) :
    Respects F (Act.ensure x last) := by
  intro s
  rw [after_ensure]
  exact F.trans (hx s) (hl _)

theorem forM_of_mem {l : List β} {f : β → Act σ PUnit} (hf : ∀ b ∈ l, Respects F (f b)) :
    Respects F (l.forM f) := by
  induction l with
  | nil => exact pure _
  | cons b rest ih =>
    rw [List.forall_mem_cons] at hf
    exact bind hf.1 fun _ => ih hf.2

theorem forM {l : List β} {f : β → Act σ PUnit} (hf : ∀ b, Respects F (f b)) :
    Respects F (l.forM f) := forM_of_mem fun b _ => hf b

theorem speaking {F : Frame σ} {x : Act σ α} (speaker : Speaker) (hx : Respects F.own x) :
    Respects F.own (Act.speaking speaker x) := by
  intro s
  show F.holds s.own _
  rw [after_speaking]
  exact hx { s with world := { s.world with speaker } }

end Respects

/-! ## What always returns -/

/-- The action returns, and `Q` holds of what it returns. -/
def Returns (Q : α → Prop) (x : Act σ α) : Prop := ∀ s, ∃ a, outcome x s = .ok a ∧ Q a

namespace Returns

variable {P : α → Prop} {Q : β → Prop}

theorem pure {a : α} (h : P a) : Returns P (Pure.pure a : Act σ α) := fun _ => ⟨a, rfl, h⟩

theorem bind {x : Act σ α} {f : α → Act σ β} (hx : Returns P x) (hf : ∀ a, P a → Returns Q (f a)) :
    Returns Q (x >>= f) := by
  intro s
  obtain ⟨a, e, ha⟩ := hx s
  rw [outcome_bind, e]
  exact hf a ha _

theorem alter (f : World → World) : Returns (fun _ => True) (Act.alter f : Act σ Unit) :=
  fun _ => ⟨(), rfl, trivial⟩

theorem update (f : σ → σ) : Returns (fun _ => True) (Act.update f) := fun _ => ⟨(), rfl, trivial⟩

/-- An attempt returns what the action came to. -/
theorem attempt (x : Act σ α) : Returns (fun _ => True) (Act.attempt x) := fun s =>
  ⟨outcome x s, outcome_attempt s x, trivial⟩

theorem forM {l : List β} {f : β → Act σ PUnit} (hf : ∀ b, Returns (fun _ => True) (f b)) :
    Returns (fun _ => True) (l.forM f) := by
  induction l with
  | nil => exact pure trivial
  | cons b rest ih => exact bind (hf b) fun _ _ => ih

end Returns

/-! ## What is reached from one scene -/

/-- From the scene the action returns, and `Q` holds of what it returns and of where it leads. -/
def Reaches (s : Scene σ) (x : Act σ α) (Q : α → Scene σ → Prop) : Prop :=
  ∃ a, outcome x s = .ok a ∧ Q a (after x s)

namespace Reaches

variable {s : Scene σ} {Q : α → Scene σ → Prop} {R : β → Scene σ → Prop}

theorem pure {a : α} (h : Q a s) : Reaches s (Pure.pure a) Q := ⟨a, rfl, h⟩

theorem bind {x : Act σ α} {f : α → Act σ β} (h : Reaches s x fun a t => Reaches t (f a) R) :
    Reaches s (x >>= f) R := by
  obtain ⟨a, returns, b, returns', hR⟩ := h
  refine ⟨b, ?_, ?_⟩
  · rw [outcome_bind, returns]
    exact returns'
  · rw [after_bind, returns]
    exact hR

theorem map {x : Act σ α} {f : α → β} (h : Reaches s x fun a => R (f a)) :
    Reaches s (f <$> x) R := by
  obtain ⟨a, returns, hR⟩ := h
  refine ⟨f a, ?_, ?_⟩
  · rw [outcome_map, returns]
    rfl
  · rw [after_map]
    exact hR

theorem update {f : σ → σ} {Q : Unit → Scene σ → Prop} (h : Q () { s with own := f s.own }) :
    Reaches s (Act.update f) Q := ⟨(), rfl, h⟩

theorem note {e : Event} {Q : Unit → Scene σ → Prop}
    (h : Q () { s with world := s.world.note e }) : Reaches s (Act.note e) Q := ⟨(), rfl, h⟩

/-- An attempt returns what the action came to. -/
theorem attempt {x : Act σ α} {Q : Except Raised α → Scene σ → Prop}
    (h : Q (outcome x s) (Act.after x s)) : Reaches s (Act.attempt x) Q := by
  refine ⟨outcome x s, outcome_attempt s x, ?_⟩
  rw [after_attempt]
  exact h

theorem speaking {speaker : Speaker} {x : Act σ α}
    (h : Reaches { s with world := { s.world with speaker } } x fun a t =>
      Q a { t with world := { t.world with speaker := s.world.speaker } }) :
    Reaches s (Act.speaking speaker x) Q := by
  obtain ⟨a, returns, hQ⟩ := h
  refine ⟨a, ?_, ?_⟩
  · rw [outcome_speaking, returns]
  · rw [after_speaking]
    exact hQ

theorem mono {x : Act σ α} {Q' : α → Scene σ → Prop} (h : Reaches s x Q)
    (hQ : ∀ a t, Q a t → Q' a t) : Reaches s x Q' := by
  obtain ⟨a, returns, reached⟩ := h
  exact ⟨a, returns, hQ a _ reached⟩

theorem after {P : Scene σ → Prop} {x : Act σ α} (h : Reaches s x fun _ => P) :
    P (Act.after x s) := by
  obtain ⟨_, _, hP⟩ := h
  exact hP

end Reaches

/-! ## What is raised -/

/-- Whatever the action raises is of the kind `R`. -/
def Raises (R : Raised → Prop) (x : Act σ α) : Prop := ∀ s e, outcome x s = .error e → R e

namespace Raises

variable {R S : Raised → Prop}

/-- An action that is a step of the world or of the own state raises nothing. -/
theorem step {x : Act σ α} (h : ∀ s, ∃ a, outcome x s = .ok a) : Raises R x := by
  intro s e he
  obtain ⟨a, ha⟩ := h s
  rw [ha] at he
  cases he

/-- What always returns raises nothing. -/
theorem of_returns {P : α → Prop} {x : Act σ α} (h : Returns P x) : Raises R x :=
  step fun s => by
    obtain ⟨a, returns, -⟩ := h s
    exact ⟨a, returns⟩

theorem pure (a : α) : Raises R (Pure.pure a : Act σ α) := step fun _ => ⟨a, rfl⟩

theorem world : Raises R (Act.world : Act σ World) := step fun s => ⟨s.world, rfl⟩

theorem own : Raises R (Act.own : Act σ σ) := step fun s => ⟨s.own, rfl⟩

theorem alter (f : World → World) : Raises R (Act.alter f : Act σ Unit) := step fun _ => ⟨(), rfl⟩

theorem update (f : σ → σ) : Raises R (Act.update f) := step fun _ => ⟨(), rfl⟩

theorem throw {e : Raised} (h : R e) : Raises R (MonadExcept.throw e : Act σ α) :=
  fun _ _ he => Except.error.inj he ▸ h

theorem fail {e : Error} (h : R (.error e)) : Raises R (Act.fail e : Act σ α) := throw h

theorem stumble {m : Mishap} (h : R (.mishap m)) : Raises R (Act.stumble m : Act σ α) := throw h

theorem orStumble {r : Except Mishap α} (h : ∀ m, r = .error m → R (.mishap m)) :
    Raises R (Act.orStumble r : Act σ α) := by
  cases r with
  | ok a => exact pure a
  | error m => exact stumble (h m rfl)

theorem bind {x : Act σ α} {f : α → Act σ β} (hx : Raises R x) (hf : ∀ a, Raises R (f a)) :
    Raises R (x >>= f) := by
  intro s e he
  rw [outcome_bind] at he
  split at he
  · exact hf _ _ e he
  · rename_i h
    cases he
    exact hx s _ h

theorem map {x : Act σ α} (f : α → β) (hx : Raises R x) : Raises R (f <$> x) := by
  intro s e he
  rw [outcome_map] at he
  cases h : outcome x s with
  | ok a => simp [h, Except.map] at he
  | error raised =>
    rw [h] at he
    cases he
    exact hx s _ h

/-- An attempt returns a value or what is raised. -/
theorem attempt {x : Act σ α} (h : Raises R x) :
    Returns (fun r => ∀ e, r = .error e → R e) (Act.attempt x) := fun s =>
  ⟨outcome x s, outcome_attempt s x, h s⟩

/-- What follows an attempt has to deal only with what is raised. -/
theorem attempt_bind {x : Act σ α} {f : Except Raised α → Act σ β} (hx : Raises R x)
    (hf : ∀ r, (∀ e, r = .error e → R e) → Raises S (f r)) :
    Raises S (Act.attempt x >>= f) := by
  intro s e he
  rw [outcome_bind, outcome_attempt] at he
  exact hf _ (hx s) _ e he

theorem ensure {x : Act σ α} {last : Act σ Unit} (hx : Raises R x) (hl : Raises R last) :
    Raises R (Act.ensure x last) := by
  intro s e he
  rw [outcome_ensure] at he
  split at he
  · exact hx s e he
  · rename_i h
    cases he
    exact hl _ _ h

end Raises

/-! ## Triples -/

/-- From `P` the action leads to `Q` if it returns, and to `E` if it fails. -/
structure Triple (P : Scene σ → Prop) (x : Act σ α) (Q : α → Scene σ → Prop)
    (E : Scene σ → Prop) : Prop where
  leads : ∀ s, P s →
    match outcome x s with
    | .ok a => Q a (after x s)
    | .error _ => E (after x s)

namespace Triple

variable {P P' E E' : Scene σ → Prop} {Q Q' : α → Scene σ → Prop} {R : β → Scene σ → Prop}
variable {x : Act σ α}

theorem of_ok (h : Triple P x Q E) {s : Scene σ} (hs : P s) {a : α} (e : outcome x s = .ok a) :
    Q a (Act.after x s) := by
  have := h.leads s hs
  rwa [e] at this

theorem of_error (h : Triple P x Q E) {s : Scene σ} (hs : P s) {raised : Raised}
    (e : outcome x s = .error raised) : E (Act.after x s) := by
  have := h.leads s hs
  rwa [e] at this

theorem intro (hok : ∀ s a, P s → outcome x s = .ok a → Q a (Act.after x s))
    (herr : ∀ s e, P s → outcome x s = .error e → E (Act.after x s)) : Triple P x Q E where
  leads s hs := by
    split
    · exact hok s _ hs ‹_›
    · exact herr s _ hs ‹_›

/-- An action that leads to the same scenes however it ends. -/
theorem of_after (h : ∀ s, P s → E (Act.after x s)) : Triple P x (fun _ => E) E :=
  intro (fun s _ hs _ => h s hs) fun s _ hs _ => h s hs

theorem mono (h : Triple P x Q E) (hP : ∀ s, P' s → P s) (hQ : ∀ a s, Q a s → Q' a s)
    (hE : ∀ s, E s → E' s) : Triple P' x Q' E' :=
  intro (fun s a hs e => hQ a _ (h.of_ok (hP s hs) e)) fun s _ hs e =>
    hE _ (h.of_error (hP s hs) e)

/-- From fewer scenes an action leads nowhere else. -/
theorem of_pre (h : Triple P x Q E) (hP : ∀ s, P' s → P s) : Triple P' x Q E :=
  h.mono hP (fun _ _ hs => hs) fun _ hs => hs

theorem pure {a : α} (h : ∀ s, P s → Q a s) : Triple P (Pure.pure a) Q E := ⟨h⟩

theorem throw {e : Raised} (h : ∀ s, P s → E s) :
    Triple P (MonadExcept.throw e : Act σ α) Q E := ⟨h⟩

theorem fail {e : Error} (h : ∀ s, P s → E s) : Triple P (Act.fail e : Act σ α) Q E := ⟨h⟩

theorem stumble {m : Mishap} (h : ∀ s, P s → E s) : Triple P (Act.stumble m : Act σ α) Q E := ⟨h⟩

theorem orStumble {r : Except Mishap α} (hQ : ∀ a s, P s → Q a s) (hE : ∀ s, P s → E s) :
    Triple P (Act.orStumble r) Q E := by
  cases r with
  | ok a => exact ⟨hQ a⟩
  | error m => exact ⟨hE⟩

theorem world : Triple P Act.world (fun w s => P s ∧ s.world = w) E := ⟨fun _ h => ⟨h, rfl⟩⟩

theorem own : Triple P Act.own (fun o s => P s ∧ s.own = o) E := ⟨fun _ h => ⟨h, rfl⟩⟩

theorem alter {f : World → World} {Q : Unit → Scene σ → Prop}
    (h : ∀ s, P s → Q () { s with world := f s.world }) : Triple P (Act.alter f) Q E := ⟨h⟩

theorem update {f : σ → σ} {Q : Unit → Scene σ → Prop}
    (h : ∀ s, P s → Q () { s with own := f s.own }) : Triple P (Act.update f) Q E := ⟨h⟩

theorem bind {f : α → Act σ β} (hx : Triple P x Q E) (hf : ∀ a, Triple (Q a) (f a) R E) :
    Triple P (x >>= f) R E where
  leads s hs := by
    rw [outcome_bind, after_bind]
    cases e : outcome x s with
    | ok a => exact (hf a).leads _ (hx.of_ok hs e)
    | error _ => exact hx.of_error hs e

theorem map {f : α → β} (hx : Triple P x (fun a => R (f a)) E) : Triple P (f <$> x) R E where
  leads s hs := by
    rw [outcome_map, after_map]
    cases e : outcome x s with
    | ok a => exact hx.of_ok hs e
    | error _ => exact hx.of_error hs e

/-- An attempt returns in both cases. -/
theorem attempt {Q : Except Raised α → Scene σ → Prop} (hx : Triple P x (fun a => Q (.ok a)) E)
    (hE : ∀ e s, E s → Q (.error e) s) : Triple P (Act.attempt x) Q E' where
  leads s hs := by
    rw [outcome_attempt, after_attempt]
    cases e : outcome x s with
    | ok a => exact hx.of_ok hs e
    | error raised => exact hE raised _ (hx.of_error hs e)

/-- What comes last starts where the action returned or where it failed. -/
theorem ensure {last : Act σ Unit} (hx : Triple P x Q E)
    (hok : ∀ a, Triple (Q a) last (fun _ => Q' a) E')
    (herr : Triple E last (fun _ => E') E') : Triple P (Act.ensure x last) Q' E' where
  leads s hs := by
    rw [outcome_ensure, after_ensure]
    cases e : outcome x s with
    | ok a =>
      cases el : outcome last (Act.after x s) with
      | ok u => exact (hok a).of_ok (hx.of_ok hs e) el
      | error _ => exact (hok a).of_error (hx.of_ok hs e) el
    | error _ =>
      cases el : outcome last (Act.after x s) with
      | ok u => exact herr.of_ok (hx.of_error hs e) el
      | error _ => exact herr.of_error (hx.of_error hs e) el

/-- Whatever the action came to, it led here. -/
theorem after (h : Triple P x (fun _ => E) E) {s : Scene σ} (hs : P s) : E (Act.after x s) := by
  cases e : outcome x s with
  | ok a => exact h.of_ok hs e
  | error _ => exact h.of_error hs e

end Triple

end Act

/-! ## Runs -/

/-- What an outside is to a client: what the clocks show, and what the pipe and the service
manager have in store. -/
structure Surroundings where
  now : Float
  mono : Float
  platform : Platform
  exe : Except String String
  pipe : List Opening
  waits : List Waiting
  answers : Primitive → List Answer
  state : UInt32

/-- The world with another outside. What was given out and written down stays. -/
def World.amid (w : World) (o : Surroundings) : World :=
  { w with
    now := o.now
    mono := o.mono
    platform := o.platform
    exe := o.exe
    pipe := o.pipe
    waits := o.waits
    manager := { w.manager with answers := o.answers, state := o.state } }

/-- The scenes that calls lead to, with the calls made so far. -/
inductive Act.Run {σ κ ρ : Type} (perform : κ → Act σ ρ) (start : Scene σ) :
    List κ → Scene σ → Prop
  | start : Run perform start [] start
  | call {calls : List κ} {s : Scene σ} (h : Run perform start calls s) (c : κ) :
      Run perform start (calls ++ [c]) (Act.after (perform c) s)
  | outside {calls : List κ} {s : Scene σ} (h : Run perform start calls s) (o : Surroundings) :
      Run perform start calls { s with world := s.world.amid o }

end Vigil
