import Vigil.Proofs.Client.Indifferent

/-!
# Calls within calls

A connection callback that disconnects is called again while it is called. How deep such calls may
be is bounded by what the callback has left to answer, and this is no bound at all: what is left
never grows, and every call uses up one answer. So to tell the callback is to call it, where to
disconnect means to tell it in its turn.

* `Client.Alike`: two actions that do the same while so much is left.
* `Client.callBackWithin_alike`: calls that may be deep enough do the same.
* `Client.notify_eq`: the equation without a bound.
-/

namespace Vigil

open Act

namespace Client

variable {α β : Type} {n : Nat} {leave leave' : Deed Unit}

/-- How many calls the connection callback has left to answer. -/
def callsLeft (c : Client) : Nat := (c.connectionCallback.getD []).length

/-- Gives the connection callback no more to answer. -/
def dwindles : Frame Client where
  holds c d := d.callsLeft ≤ c.callsLeft
  refl _ := Nat.le_refl _
  trans hab hbc := Nat.le_trans hbc hab

/-- The two actions do the same where no more than so much is left, and leave no more. -/
def Alike (n : Nat) (x y : Deed α) : Prop :=
  ∀ s, s.own.host.callsLeft ≤ n →
    outcome x s = outcome y s ∧ after x s = after y s ∧ (after x s).own.host.callsLeft ≤ n

namespace Alike

theorem of_dwindles {x : Deed α} (h : Respects dwindles.host x) : Alike n x x :=
  fun s hs => ⟨rfl, rfl, Nat.le_trans (h s) hs⟩

theorem bind {x y : Deed α} {f g : α → Deed β} (hx : Alike n x y) (hf : ∀ a, Alike n (f a) (g a)) :
    Alike n (x >>= f) (y >>= g) := by
  intro s hs
  obtain ⟨ends, leads, kept⟩ := hx s hs
  rw [outcome_bind, outcome_bind, after_bind, after_bind, ← ends, ← leads]
  cases outcome x s with
  | ok a => exact hf a _ kept
  | error e => exact ⟨rfl, rfl, kept⟩

theorem attempt {x y : Deed α} (h : Alike n x y) : Alike n (Act.attempt x) (Act.attempt y) := by
  intro s hs
  obtain ⟨ends, leads, kept⟩ := h s hs
  rw [outcome_attempt, outcome_attempt, after_attempt, after_attempt]
  exact ⟨congrArg _ ends, leads, kept⟩

theorem forM {γ : Type} {l : List γ} {f g : γ → Deed Unit} (h : ∀ c, Alike n (f c) (g c)) :
    Alike n (l.forM f) (l.forM g) := by
  induction l with
  | nil => exact of_dwindles (.pure _)
  | cons c rest ih => exact bind (h c) fun _ => ih

end Alike

/-! ## Calls that may be deep enough -/

theorem react_alike (h : Alike n leave leave') (id : Option String) (action : CallbackAction) :
    Alike n (react leave id action) (react leave' id action) := by
  refine .bind (.of_dwindles Watch.respects_note) fun _ => ?_
  cases action with
  | fail => exact .of_dwindles (.stumble _)
  | stopArgument =>
    cases id with
    | some id => exact .of_dwindles (.discard (dwindles.spares_host.stop id))
    | none => exact .of_dwindles (.pure _)
  | stop id => exact .of_dwindles (.discard (dwindles.spares_host.stop id))
  | stopAll => exact .of_dwindles dwindles.spares_host.stopAll
  | disconnect => exact h
  | unset => exact .of_dwindles fun _ => Nat.zero_le _

theorem respond_alike (h : Alike n leave leave') (id : Option String)
    (actions : List CallbackAction) (complaint : String) :
    Alike n (respond leave id actions complaint) (respond leave' id actions complaint) := by
  refine .bind (.attempt (.forM (react_alike h id))) fun outcome => .of_dwindles ?_
  split
  · exact Watch.respects_log
  · exact .pure _

/-- A call uses up one answer, so that what happens when the callback disconnects needs to be alike
only where less is left. -/
theorem callBack_alike (h : ∀ m, n = m + 1 → Alike m leave leave') (connected : Bool) :
    Alike n (callBack leave connected) (callBack leave' connected) := by
  intro s hs
  cases hc : s.own.host.connectionCallback with
  | none =>
    obtain ⟨ends, leads⟩ := callBack_of_none hc leave connected
    obtain ⟨ends', leads'⟩ := callBack_of_none hc leave' connected
    rw [ends, ends', leads, leads']
    exact ⟨rfl, rfl, hs⟩
  | some callback =>
    obtain ⟨ends, leads⟩ := callBack_of_some hc leave connected
    obtain ⟨ends', leads'⟩ := callBack_of_some hc leave' connected
    rw [ends, ends', leads, leads']
    cases callback with
    | nil => exact ⟨rfl, rfl, Nat.zero_le _⟩
    | cons actions rest =>
      rw [callsLeft, hc] at hs
      obtain ⟨m, rfl⟩ := Nat.exists_eq_add_one.mpr (Nat.lt_of_lt_of_le (Nat.succ_pos _) hs)
      obtain ⟨same, same', kept⟩ := respond_alike (h m rfl) none actions
        "Connection-changed callback raised: " (calling (actions :: rest) connected s)
        (Nat.le_of_succ_le_succ hs)
      exact ⟨same, same', Nat.le_succ_of_le kept⟩

theorem dwindles_close : Respects dwindles.host (onSession Session.close) := by
  intro s
  have closed := after_onSession Session.close s
  show callsLeft (after _ s).own.host ≤ _
  rw [closed]
  exact Nat.le_refl _

theorem hangUp_alike {tell tell' : Bool → Deed Unit} (h : Alike n (tell false) (tell' false)) :
    Alike n (hangUp tell) (hangUp tell') :=
  .bind (.of_dwindles dwindles_close) fun _ =>
    .bind (.of_dwindles fun _ => Nat.le_refl _) fun _ => h

/-- **Calls that may be deep enough do the same**: as deep as there are answers left. -/
theorem callBackWithin_alike {depth depth' : Nat} (h : n ≤ depth) (h' : n ≤ depth')
    (connected : Bool) :
    Alike n (callBackWithin depth connected) (callBackWithin depth' connected) := by
  induction n generalizing depth depth' connected with
  | zero =>
    have called (depth : Nat) : ∃ leave, callBackWithin depth = callBack leave := by
      cases depth <;> exact ⟨_, rfl⟩
    obtain ⟨leave, e⟩ := called depth
    obtain ⟨leave', e'⟩ := called depth'
    rw [e, e']
    exact callBack_alike (fun m hm => absurd hm (Nat.zero_ne_add_one m)) connected
  | succ n ih =>
    obtain ⟨depth, rfl⟩ := Nat.exists_eq_add_one.mpr (Nat.lt_of_lt_of_le (Nat.succ_pos _) h)
    obtain ⟨depth', rfl⟩ := Nat.exists_eq_add_one.mpr (Nat.lt_of_lt_of_le (Nat.succ_pos _) h')
    refine callBack_alike (fun m hm => ?_) connected
    cases hm
    exact hangUp_alike (ih (Nat.le_of_succ_le_succ h) (Nat.le_of_succ_le_succ h') false)

/-- The callback is told as if it were called so deep. -/
theorem notify_alike {depth : Nat} (h : n ≤ depth) (connected : Bool) :
    Alike n (notify connected) (callBackWithin depth connected) := by
  intro s hs
  obtain ⟨ends, leads, kept⟩ := callBackWithin_alike (Nat.le_refl s.own.host.callsLeft)
    (Nat.le_trans hs h) connected s (Nat.le_refl _)
  exact ⟨ends, leads, Nat.le_trans kept hs⟩

theorem callBack_notify_alike {depth : Nat} (h : n ≤ depth) (connected : Bool) :
    Alike n (callBack (hangUp notify) connected) (callBackWithin depth connected) := by
  cases depth with
  | zero =>
    obtain rfl : n = 0 := Nat.le_zero.mp h
    exact callBack_alike (fun m hm => absurd hm (Nat.zero_ne_add_one m)) connected
  | succ depth =>
    refine callBack_alike (fun m hm => ?_) connected
    subst hm
    exact hangUp_alike (notify_alike (Nat.le_of_succ_le_succ h) false)

/-- **To tell the connection callback is to call it**, and to tell it in its turn when it
disconnects. -/
theorem notify_eq (connected : Bool) : notify connected = callBack (hangUp notify) connected := by
  refine Act.eq_of_runs fun s => ?_
  have enough : s.own.host.callsLeft ≤ s.own.host.callsLeft := Nat.le_refl _
  obtain ⟨ends, leads, -⟩ := notify_alike enough connected s enough
  obtain ⟨ends', leads', -⟩ := callBack_notify_alike enough connected s enough
  exact ⟨ends.trans ends'.symm, leads.trans leads'.symm⟩

end Client

end Vigil
