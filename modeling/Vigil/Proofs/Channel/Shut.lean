import Vigil.Channel.Session
import Vigil.Proofs.Act

/-!
# What an operation of a session leaves open

Read off the session alone, from any state it may be in: a close, a send and an exchange leave
nothing open, and neither does an attempt to connect that fails.
-/

namespace Vigil.Session

/-- No connection is open. -/
def Shut (s : Scene Session) : Prop := s.own.connection = none

/-- Where no connection is open nothing is closed. -/
theorem close_of_shut {s : Scene Session} (shut : Shut s) :
    Act.outcome close s = .ok () ∧ Act.after close s = s := by
  have absent : s.own.connection = none := shut
  unfold close
  simp only [Act.outcome_bind, Act.after_bind, Act.outcome_own, Act.after_own, absent]
  exact ⟨rfl, rfl⟩

theorem close_shut : Act.Triple (fun _ => True) close (fun _ => Shut) Shut :=
  .of_after fun s _ => by rw [Shut, after_close_own]

/-- A session that could not connect holds no connection. -/
theorem connect_shut (timeout : Float) :
    Act.Triple (fun _ => True) (connect timeout) (fun _ _ => True) Shut := by
  refine .bind close_shut fun _ => .bind .world fun w => .bind .own fun own => ?_
  refine .bind (Q := fun _ => Shut) (.of_after ?_) fun c => ?_
  · rintro s ⟨⟨hs, -⟩, -⟩
    rw [Shut, Pipe.after_reach_own]
    exact hs
  · refine .bind (Q := fun _ _ => True) (.update fun _ _ => trivial) fun _ => ?_
    exact .alter fun _ _ => trivial

/-- **Nothing is open after a send**, whatever came of it. -/
theorem send_shut (payload : Bytes) :
    Act.Triple (fun _ => True) (send payload) (fun _ => Shut) Shut := by
  refine .bind .own fun own => ?_
  split
  · rename_i hc
    refine .fail ?_
    rintro s ⟨-, rfl⟩
    exact hc
  · refine .bind (Q := fun _ => Shut) ?_ fun reply => ?_
    · exact .ensure (.of_after (E := fun _ => True) fun _ _ => trivial) (fun _ => close_shut)
        close_shut
    · split
      · exact .fail fun _ hs => hs
      · split
        · exact .fail fun _ hs => hs
        · exact .pure fun _ hs => hs

/-- **Nothing is open after an exchange**, whatever came of it. -/
theorem exchange_shut (payload : Bytes) (timeout : Float) :
    Act.Triple (fun _ => True) (exchange payload timeout) (fun _ => Shut) Shut := by
  refine .bind (Q := fun _ _ => True) (.alter fun _ _ => trivial) fun _ => ?_
  refine .bind .own fun own => ?_
  dsimp only
  split
  · exact (send_shut payload).of_pre fun _ _ => trivial
  · exact .bind ((connect_shut timeout).of_pre fun _ _ => trivial) fun _ => send_shut payload

end Vigil.Session
