import Vigil.Channel.Session
import Vigil.Proofs.Journal

/-!
# What a session calls

All that the operations of a session add to the journal are calls to the pipe; closing adds
closings alone. An exchange marks its beginning, once.
-/

namespace Vigil

open Act

namespace World

theorem events_opened (w : World) (path : String) (o : Opening) (rest : List Opening) :
    ∃ handle, (w.opened path o rest).events = w.events ++ [.openPipe path handle] := by
  unfold opened
  cases o.result with
  | ok line => exact ⟨some w.lines, events_note _ _⟩
  | error mishap => exact ⟨none, events_note _ _⟩

theorem events_waited (w : World) (path : String) (millis : Nat) (answer : Waiting) :
    (w.waited path millis answer).events = w.events ++ [.wait path millis] :=
  events_note _ _

end World

namespace Pipe

variable {σ : Type}

theorem adding_opened (path : String) (o : Opening) (rest : List Opening) :
    Respects (adding fun e => e.isPipe) (Act.alter (·.opened path o rest) : Act σ Unit) := by
  refine Adding.alter fun w => ?_
  obtain ⟨handle, h⟩ := w.events_opened path o rest
  exact ⟨.openPipe path handle, h, rfl⟩

theorem adding_tryOpen (path : String) (o : Opening) (rest : List Opening) :
    Respects (adding fun e => e.isPipe) (tryOpen path o rest : Act σ _) := by
  refine .bind .world fun w => .bind (adding_opened path o rest) fun _ => ?_
  split <;> exact .pure _

/-- Waiting is all that is done between two attempts. -/
theorem pauses_wait (path : String) (seconds : Float) :
    Respects (adding fun e => e.isPause) (wait path seconds : Act σ Unit) := by
  refine .bind .world fun w => ?_
  split
  · exact Adding.sleep rfl
  · refine .bind (.orStumble _) fun millis => .bind .world fun w => ?_
    refine .bind (Adding.alter fun w => ⟨_, w.events_waited path millis _, rfl⟩) fun _ => ?_
    split
    · exact .stumble _
    · split
      · exact Adding.log _ _ _ _
      · exact .pure _

theorem adding_wait (path : String) (seconds : Float) :
    Respects (adding fun e => e.isPipe) (wait path seconds : Act σ Unit) :=
  Adding.mono (pauses_wait path seconds) fun _ => Event.isPipe_of_isPause

theorem adding_reach (path : String) (timeout deadline : Float) (openings : List Opening) :
    Respects (adding fun e => e.isPipe) (reach path timeout deadline openings : Act σ _) := by
  induction openings with
  | nil => exact .bind (adding_opened path .absent []) fun _ => .fail _
  | cons o rest ih =>
    refine .bind (adding_tryOpen path o rest) fun outcome => ?_
    split
    · exact .pure _
    · refine .bind .world fun w => ?_
      dsimp only
      split
      · exact .fail _
      · exact .bind (adding_wait path _) fun _ => ih
    · exact .fail _
    · exact .fail _
    · exact .stumble _

end Pipe

namespace Session

theorem adding_close : Respects (adding fun e => e.isClosing) close := by
  refine .bind .own fun session => ?_
  split
  · exact .pure _
  · refine .bind (Adding.update _) fun _ => .bind (Adding.note rfl) fun _ => ?_
    split
    · exact .pure _
    · exact Adding.log _ _ _ _
    · exact .stumble _

theorem calls_close : Respects (adding fun e => e.isPipe) close :=
  Adding.mono adding_close fun _ => Event.isPipe_of_isClosing

theorem calls_connect (timeout : Float) : Respects (adding fun e => e.isPipe) (connect timeout) :=
  .bind calls_close fun _ => .bind .world fun _ => .bind .own fun _ =>
    .bind (Pipe.adding_reach _ _ _ _) fun _ => .bind (Adding.update _) fun _ =>
      Adding.log _ _ _ _

theorem calls_write (connection : Connection) (payload : Bytes) :
    Respects (adding fun e => e.isPipe) (write connection payload) := by
  unfold write
  dsimp only
  split
  · exact .bind (Adding.note rfl) fun _ => .throw _
  · refine .bind (Adding.note rfl) fun _ => ?_
    split
    · exact .fail _
    · exact .pure _

theorem calls_read (connection : Connection) (limit : Int) :
    Respects (adding fun e => e.isPipe) (read connection limit) := by
  unfold read
  dsimp only
  split
  · exact .bind (Adding.note rfl) fun _ => .throw _
  · exact .bind (Adding.note rfl) fun _ => .pure _

theorem calls_send (payload : Bytes) : Respects (adding fun e => e.isPipe) (send payload) := by
  refine .bind .own fun session => ?_
  split
  · exact .fail _
  · rename_i connection _
    have transfer : Respects (adding fun e => e.isPipe) (do
        write connection payload
        read connection (session.bufferSize + 1)) :=
      .bind (calls_write connection payload) fun _ => calls_read connection _
    refine .bind (.ensure transfer calls_close) fun reply => ?_
    split
    · exact .fail _
    · split
      · exact .fail _
      · exact .pure _

/-- **An exchange marks its beginning**, and all that follows are calls to the pipe. -/
theorem events_exchange (payload : Bytes) (timeout : Float) (s : Scene Session) :
    ∃ t, (after (exchange payload timeout) s).world.events =
      s.world.events ++ .exchange payload :: t ∧ ∀ e ∈ t, e.isPipe = true := by
  have rest : Respects (adding fun e => e.isPipe) (do
      unless (← Act.own).isOpen do
        connect timeout
      send payload : Act Session Bytes) := by
    refine .bind .own fun session => ?_
    dsimp only
    split
    · exact calls_send payload
    · exact .bind (calls_connect timeout) fun _ => calls_send payload
  obtain ⟨t, ht, pipe⟩ := rest { s with world := s.world.note (.exchange payload) }
  refine ⟨t, ?_, pipe⟩
  rw [World.events_note, List.append_assoc] at ht
  exact ht

/-- An exchange adds its mark and calls to the pipe. -/
theorem adding_exchange {P : Event → Prop} (mark : ∀ payload, P (.exchange payload))
    (pipe : ∀ e, e.isPipe = true → P e) (payload : Bytes) (timeout : Float) :
    Respects (adding P) (exchange payload timeout) := by
  intro s
  obtain ⟨t, ht, calls⟩ := events_exchange payload timeout s
  exact ⟨_, ht, List.forall_mem_cons.mpr ⟨mark payload, fun e he => pipe e (calls e he)⟩⟩

end Session

end Vigil
