import Vigil.Proofs.Client.Operations

/-!
# What a connection callback is told

The journal of a step shows when the callbacks were called, and what the connection callback was
told. A notice that repeats the one before has to be made by an explicit connect or disconnect: by
the call itself, which then calls back for the first time, or by a callback that disconnects, which
is marked in the journal.

* `Faithful`: the journals of which this is true.
* `Fresh.told_eq`: where no notice repeats another, the values alternate.
-/

namespace Vigil

namespace Event

/-- What the connection callback is told. -/
def told? : Event → Option Bool
  | .connectionCallback connected => some connected
  | _ => none

/-- The event is a call of the heartbeat callback. -/
def isReport : Event → Bool
  | .heartbeatCallback _ => true
  | _ => false

theorem told?_of_not_isCallback {e : Event} (h : e.isCallback = false) : e.told? = none := by
  cases e <;> first | rfl | cases h

theorem not_isReport_of_not_isCallback {e : Event} (h : e.isCallback = false) :
    e.isReport = false := by
  cases e <;> first | rfl | cases h

theorem not_isCallback_of_isPipe {e : Event} (h : e.isPipe = true) : e.isCallback = false := by
  cases e <;> first | rfl | cases h

theorem not_isCallback_of_isClosing {e : Event} (h : e.isClosing = true) :
    e.isCallback = false := not_isCallback_of_isPipe (isPipe_of_isClosing h)

theorem not_isCallback_of_isService {e : Event} (h : e.isService = true) :
    e.isCallback = false := by
  cases e <;> first | rfl | cases h

theorem not_isCallback_of_isBeat {e : Event} (h : e.isBeat = true) : e.isCallback = false := by
  cases e <;> first | rfl | cases h

end Event

/-- What the connection callback was told, in this order. -/
def told (t : List Event) : List Bool := t.filterMap Event.told?

/-- How often the heartbeat callback was called. -/
def reports (t : List Event) : Nat := t.countP Event.isReport

section Told

theorem told_append (t u : List Event) : told (t ++ u) = told t ++ told u := List.filterMap_append

/-- What was told last in the whole is what was told last in its second part, or else in its first
one. -/
theorem lastTold_append (t u : List Event) (b : Bool) :
    (told (t ++ u)).getLastD b = (told u).getLastD ((told t).getLastD b) := by
  rw [told_append]
  cases told u with
  | nil => simp
  | cons a m => simp [List.getLastD_eq_getLast?, List.getLast?_append]

/-- After a notice, this is what was told last. -/
theorem lastTold_notice (t : List Event) (b d : Bool) :
    (told (t ++ [.connectionCallback d])).getLastD b = d := by
  rw [lastTold_append]
  rfl

end Told

/-! ## Explicit notices -/

/-- What the callbacks of a client may do when they are called. -/
def Client.scripts (c : Client) : List CallbackAction :=
  (c.connectionCallback.getD [] ++ c.heartbeatCallback.getD []).flatten

/-- A callback disconnects: that is what was done last, and nothing was done since but to close
connections. -/
def Disconnecting (v : List Event) : Prop :=
  ∃ earlier id closings, v = earlier ++ .reacts id .disconnect :: closings ∧
    ∀ e ∈ closings, e.isClosing = true

/-- A notice that comes after this part of a step is made by an explicit connect or disconnect: by
the call, if no callback was called before, or by a callback. -/
def Explicit (call : ClientCall) (v : List Event) : Prop :=
  (call.isExplicit = true ∧ ∀ e ∈ v, e.isCallback = false) ∨ Disconnecting v

/-- A notice of a step that repeats the one before is made explicitly. Before the step the
connection callback was told `b`. -/
def Faithful (call : ClientCall) (b : Bool) (t : List Event) : Prop :=
  ∀ v d x, t = v ++ .connectionCallback d :: x → (told v).getLastD b = d → Explicit call v

section Faithful

variable {call : ClientCall} {b : Bool} {t u : List Event}

/-- To close connections changes nothing about who makes the next notice. -/
theorem Explicit.closing (h : Explicit call t) (hu : ∀ e ∈ u, e.isClosing = true) :
    Explicit call (t ++ u) := by
  rcases h with ⟨explicit, ht⟩ | ⟨earlier, id, closings, rfl, hclosings⟩
  · exact .inl ⟨explicit, List.forall_mem_append.mpr ⟨ht, fun e he =>
      Event.not_isCallback_of_isClosing (hu e he)⟩⟩
  · exact .inr ⟨earlier, id, closings ++ u, by simp, List.forall_mem_append.mpr ⟨hclosings, hu⟩⟩

theorem Faithful.nil : Faithful call b [] := by
  intro v d x split
  cases v <;> cases split

/-- What is no notice may come after. -/
theorem Faithful.append (h : Faithful call b t) (hu : ∀ e ∈ u, e.told? = none) :
    Faithful call b (t ++ u) := by
  intro v d x split repeats
  rcases List.append_eq_append_iff.mp split with ⟨w, rfl, hw⟩ | ⟨w, rfl, hw⟩
  · cases hu (.connectionCallback d) (hw ▸ List.mem_append_right _ List.mem_cons_self)
  · cases w with
    | nil =>
      obtain rfl : .connectionCallback d :: x = u := hw
      cases hu _ List.mem_cons_self
    | cons e w =>
      obtain ⟨rfl, -⟩ := List.cons.inj hw
      exact h v d w rfl repeats

/-- A notice may come after that repeats nothing or is made explicitly. -/
theorem Faithful.notice {d : Bool} (h : Faithful call b t)
    (hd : (told t).getLastD b = d → Explicit call t) :
    Faithful call b (t ++ [.connectionCallback d]) := by
  intro v d' x split repeats
  rcases last_or_within split with ⟨rfl, same⟩ | ⟨rest, within⟩
  · obtain rfl : d' = d := Event.connectionCallback.inj same
    exact hd repeats
  · exact h v d' rest within repeats

/-- Where nothing disconnects, no notice is made explicitly. -/
theorem not_explicit (hcall : call.isExplicit = false) {v : List Event}
    (hv : ∀ id, .reacts id .disconnect ∉ v) : ¬Explicit call v := by
  rintro (⟨explicit, -⟩ | ⟨earlier, id, closings, rfl, -⟩)
  · cases hcall.symm.trans explicit
  · exact hv id (List.mem_append_right _ List.mem_cons_self)

end Faithful

/-! ## Values that alternate -/

/-- No notice repeats the one before, and the first one does not repeat `b`. -/
def Fresh (b : Bool) (t : List Event) : Prop :=
  ∀ v d x, t = v ++ .connectionCallback d :: x → (told v).getLastD b ≠ d

theorem Fresh.append {b : Bool} {t u : List Event} (ht : Fresh b t)
    (hu : Fresh ((told t).getLastD b) u) : Fresh b (t ++ u) := by
  intro v d x split
  rcases List.append_eq_append_iff.mp split with ⟨w, rfl, hw⟩ | ⟨w, rfl, hw⟩
  · rw [lastTold_append]
    exact hu w d x hw
  · cases w with
    | nil =>
      rw [List.append_nil] at hu
      exact hu [] d x hw.symm
    | cons e w =>
      obtain ⟨rfl, -⟩ := List.cons.inj hw
      exact ht v d w rfl

/-- Where nothing disconnects, a faithful journal has no repetitions. -/
theorem Faithful.fresh {call : ClientCall} {b : Bool} {t : List Event} (h : Faithful call b t)
    (hcall : call.isExplicit = false) (ht : ∀ id, .reacts id .disconnect ∉ t) : Fresh b t :=
  fun v d x split repeats => not_explicit hcall
    (fun id hv => ht id (split ▸ List.mem_append_left _ hv)) (h v d x split repeats)

/-- So many values that alternate, the first of which is this one. -/
def alternating (b : Bool) : Nat → List Bool
  | 0 => []
  | n + 1 => b :: alternating (!b) n

/-- **Where no notice repeats another, the values alternate.** -/
theorem Fresh.told_eq {t : List Event} {b : Bool} (h : Fresh b t) :
    told t = alternating (!b) (told t).length := by
  -- What was told last moves along the journal.
  induction t generalizing b with
  | nil => rfl
  | cons e t ih =>
    cases he : e.told? with
    | none =>
      have skip (v : List Event) : told (e :: v) = told v := List.filterMap_cons_none he
      rw [skip]
      refine ih fun v d x split => ?_
      rw [← skip v]
      exact h (e :: v) d x (congrArg (e :: ·) split)
    | some d =>
      have first (v : List Event) : told (e :: v) = d :: told v := List.filterMap_cons_some he
      obtain rfl : e = .connectionCallback d := by
        cases e <;> first | cases he; rfl | cases he
      obtain rfl : d = !b := by
        have new : b ≠ d := h [] d t rfl
        cases b <;> cases d <;> simp_all
      rw [first, List.length_cons, alternating, ← ih]
      intro v d x split
      have new := h (_ :: v) d x (congrArg (_ :: ·) split)
      rw [first, List.getLastD_cons] at new
      exact new

end Vigil
