import Vigil.Channel.Session
import Vigil.Proofs.Act

/-!
# What a session lets out

A session makes errors of its own out of what the system reports while it opens the pipe, writes
and reads. `Breaks` says what else it may meet when it connects: a close or an opening that fails
for another reason, and a wait that raises anything.

* `Session.Breaks.outcome`: connecting lets this out.
* `Session.connect_cases`: else it succeeds, or ends with an error of the channel.
* `Session.exchange_raises`: an exchange ends with an error of its own or a mishap.
-/

namespace Vigil

open Act

namespace Pipe

variable {σ : Type}

/-- The scene after an attempt to open the pipe. -/
def opened (path : String) (o : Opening) (rest : List Opening) (s : Scene σ) : Scene σ :=
  { s with world := s.world.opened path o rest }

/-- The seconds that are left. -/
def remaining (deadline : Float) (s : Scene σ) : Float := deadline - s.world.mono

/-- The attempt finds the pipe busy, and there is time left. -/
structure Waits (path : String) (deadline : Float) (o : Opening) (rest : List Opening)
    (s : Scene σ) : Prop where
  busy : ∃ fault, o.result = .error (.os fault) ∧ fault.code = some busyCode
  left : ¬remaining deadline (opened path o rest s) ≤ 0

/-- What reaching the pipe lets out: what an opening raises that is not of the system, and what a
wait raises. -/
inductive Breaks (path : String) (deadline : Float) :
    List Opening → Scene σ → Mishap → Prop
  | opening {o rest s m} (h : o.result = .error m) (hm : ∀ fault, m ≠ .os fault) :
      Breaks path deadline (o :: rest) s m
  | waiting {o rest s m} (hw : Waits path deadline o rest s)
      (h : outcome (wait path (remaining deadline (opened path o rest s))) (opened path o rest s) =
        .error (.mishap m)) : Breaks path deadline (o :: rest) s m
  | again {o rest s m} (hw : Waits path deadline o rest s)
      (h : Breaks path deadline rest
        (after (wait path (remaining deadline (opened path o rest s))) (opened path o rest s)) m)
      (hok : outcome (wait path (remaining deadline (opened path o rest s)))
        (opened path o rest s) = .ok ()) : Breaks path deadline (o :: rest) s m

/-- A wait raises what the system raises, and what the conversion of its time raises. -/
theorem wait_cases (path : String) (seconds : Float) (s : Scene σ) :
    outcome (wait path seconds) s = .ok () ∨
      ∃ m, outcome (wait path seconds) s = .error (.mishap m) := by
  unfold wait
  simp only [outcome_bind, outcome_world, after_world]
  cases s.world.platform with
  | other => exact .inl rfl
  | windows =>
    cases waitMillis seconds with
    | error reason => exact .inr ⟨_, rfl⟩
    | ok millis =>
      have whole : Act.orStumble ((Except.ok millis).mapError Mishap.notWhole) =
        (pure millis : Act σ Nat) := rfl
      simp only [whole, outcome_bind, outcome_pure, after_pure, outcome_world, after_world,
        outcome_alter, after_alter]
      split
      · exact .inr ⟨_, rfl⟩
      · split
        · exact .inl rfl
        · exact .inl rfl

variable {path : String} {timeout deadline : Float}

theorem outcome_reach_cons (o : Opening) (rest : List Opening) (s : Scene σ) :
    outcome (reach path timeout deadline (o :: rest)) s =
      match o.result with
      | .ok line => .ok ⟨s.world.lines, line⟩
      | .error m =>
        match OpenFault.of m with
        | .busy =>
          if remaining deadline (opened path o rest s) ≤ 0 then
            .error (.error (.channel (.stayedBusy timeout)))
          else
            let t := opened path o rest s
            let pause := wait path (remaining deadline t)
            match outcome pause t with
            | .ok _ => outcome (reach path timeout deadline rest) (after pause t)
            | .error raised => .error raised
        | .missing => .error (.error (.channel .pipeMissing))
        | .system fault => .error (.error (.channel (.cannotOpen fault)))
        | .other mishap => .error (.mishap mishap) := by
  rw [reach, tryOpen]
  simp only [outcome_bind, after_bind, outcome_world, after_world, outcome_alter, after_alter]
  cases hr : o.result with
  | ok line => rfl
  | error m =>
    simp only [outcome_pure, after_pure]
    cases OpenFault.of m with
    | busy =>
      simp only [outcome_bind, outcome_world, after_world]
      split <;> rename_i h
      · exact (if_pos h).symm
      · rw [if_neg (show ¬remaining deadline (opened path o rest s) ≤ 0 from h), outcome_bind]
        simp only [remaining, opened]
        cases outcome (wait path (deadline - (s.world.opened path o rest).mono))
          { s with world := s.world.opened path o rest } <;> rfl
    | _ => rfl

theorem OpenFault.of_eq_busy_iff (m : Mishap) :
    OpenFault.of m = .busy ↔ ∃ fault, m = .os fault ∧ fault.code = some busyCode := by
  cases m with
  | os fault =>
    unfold OpenFault.of
    by_cases h : fault.code = some busyCode
    · simp [h]
    · simp only [h, if_false]
      split <;> simp [h]
  | _ => simp [OpenFault.of]

theorem OpenFault.of_eq_other_iff (m m' : Mishap) :
    OpenFault.of m = .other m' ↔ m = m' ∧ ∀ fault, m ≠ .os fault := by
  cases m with
  | os fault =>
    by_cases h : fault.code = some busyCode
    · simp [OpenFault.of, h]
    · by_cases hm : fault.missing = true <;> simp [OpenFault.of, h, hm]
  | _ => simp [OpenFault.of]

theorem Breaks.outcome {openings : List Opening} {s : Scene σ} {m : Mishap}
    (h : Breaks path deadline openings s m) :
    outcome (reach path timeout deadline openings) s = .error (.mishap m) := by
  induction h with
  | opening h hm =>
    rw [outcome_reach_cons, h]
    dsimp only
    rw [(OpenFault.of_eq_other_iff _ _).mpr ⟨rfl, hm⟩]
  | waiting hw h =>
    obtain ⟨fault, hr, hc⟩ := hw.busy
    rw [outcome_reach_cons, hr]
    dsimp only
    rw [(OpenFault.of_eq_busy_iff _).mpr ⟨fault, rfl, hc⟩]
    dsimp only
    rw [if_neg hw.left, h]
  | again hw _ hok ih =>
    obtain ⟨fault, hr, hc⟩ := hw.busy
    rw [outcome_reach_cons, hr]
    dsimp only
    rw [(OpenFault.of_eq_busy_iff _).mpr ⟨fault, rfl, hc⟩]
    dsimp only
    rw [if_neg hw.left, hok]
    exact ih

/-- Reaching the pipe breaks, gives a connection, or ends with an error of the channel. -/
theorem reach_cases (openings : List Opening) (s : Scene σ) :
    (∃ m, Breaks path deadline openings s m) ∨
    (∃ c, outcome (reach path timeout deadline openings) s = .ok c) ∨
    ∃ fault, outcome (reach path timeout deadline openings) s =
      .error (.error (.channel fault)) := by
  induction openings generalizing s with
  | nil => exact .inr (.inr ⟨_, rfl⟩)
  | cons o rest ih =>
    rw [outcome_reach_cons]
    cases hr : o.result with
    | ok line => exact .inr (.inl ⟨_, rfl⟩)
    | error m =>
      dsimp only
      cases hf : OpenFault.of m with
      | busy =>
        obtain ⟨fault, rfl, hc⟩ := (OpenFault.of_eq_busy_iff m).mp hf
        by_cases hl : remaining deadline (opened path o rest s) ≤ 0
        · rw [if_pos hl]
          exact .inr (.inr ⟨_, rfl⟩)
        · rw [if_neg hl]
          have hw : Waits path deadline o rest s := ⟨⟨fault, hr, hc⟩, hl⟩
          rcases wait_cases path (remaining deadline (opened path o rest s)) (opened path o rest s)
            with hok | ⟨m, he⟩
          · dsimp only
            rw [hok]
            refine (ih _).imp (fun ⟨m, hb⟩ => ?_) id
            exact ⟨m, .again hw hb hok⟩
          · exact .inl ⟨m, .waiting hw he⟩
      | missing => exact .inr (.inr ⟨_, rfl⟩)
      | system fault => exact .inr (.inr ⟨_, rfl⟩)
      | other m' =>
        obtain ⟨-, hos⟩ := (OpenFault.of_eq_other_iff m m').mp hf
        exact .inl ⟨m, .opening hr hos⟩

end Pipe

namespace Session

/-- What a close lets out: what it raises that is not of the system. -/
structure CloseBreaks (s : Scene Session) (m : Mishap) : Prop where
  raised : ∃ c, s.own.connection = some c ∧ c.line.closeFault = some m
  alien : ∀ fault, m ≠ .os fault

/-- What connecting lets out: what breaks the close of the connection that was held, or else what
breaks reaching the pipe. -/
inductive Breaks (timeout : Float) (s : Scene Session) : Mishap → Prop
  | closing {m} (h : CloseBreaks s m) : Breaks timeout s m
  | reaching {m} (hok : outcome close s = .ok ())
      (h : Pipe.Breaks s.own.path
        ((after close s).world.mono + if 0.0 > timeout then 0.0 else timeout)
        (after close s).world.pipe (after close s) m) : Breaks timeout s m

theorem CloseBreaks.outcome {s : Scene Session} {m : Mishap} (h : CloseBreaks s m) :
    outcome close s = .error (.mishap m) := by
  obtain ⟨⟨c, hc, hm⟩, hos⟩ := h
  unfold close
  simp only [outcome_bind, outcome_own, after_own, hc, outcome_update, after_update, outcome_note,
    after_note, hm]
  cases m with
  | os fault => exact absurd rfl (hos fault)
  | _ => rfl

theorem close_cases (s : Scene Session) : (∃ m, CloseBreaks s m) ∨ outcome close s = .ok () := by
  unfold close
  simp only [outcome_bind, outcome_own, after_own]
  cases hc : s.own.connection with
  | none => exact .inr rfl
  | some c =>
    simp only [outcome_bind, outcome_update, after_update, outcome_note, after_note]
    cases hm : c.line.closeFault with
    | none => exact .inr rfl
    | some m =>
      cases m with
      | os fault => exact .inr rfl
      | _ => exact .inl ⟨_, ⟨c, hc, hm⟩, nofun⟩

/-- A connection is sought under the path of the session, and kept. -/
theorem outcome_connect_of_close {timeout : Float} {s : Scene Session}
    (h : outcome close s = .ok ()) :
    outcome (connect timeout) s =
      (outcome (Pipe.reach s.own.path timeout
        ((after close s).world.mono + if 0.0 > timeout then 0.0 else timeout)
        (after close s).world.pipe) (after close s)).map fun _ => () := by
  have path : (after close s).own.path = s.own.path := by rw [after_close_own]
  rw [connect, outcome_bind, h]
  simp only [outcome_bind, outcome_world, after_world, outcome_own, after_own, path]
  cases outcome (Pipe.reach s.own.path timeout _ (after close s).world.pipe) (after close s) <;> rfl

theorem Breaks.outcome {timeout : Float} {s : Scene Session} {m : Mishap}
    (h : Breaks timeout s m) : outcome (connect timeout) s = .error (.mishap m) := by
  cases h with
  | closing h => rw [connect, outcome_bind, h.outcome]
  | reaching hok h =>
    rw [outcome_connect_of_close hok, h.outcome]
    rfl

/-- **Connecting breaks, succeeds, or ends with an error of the channel.** -/
theorem connect_cases (timeout : Float) (s : Scene Session) :
    (∃ m, Breaks timeout s m) ∨ outcome (connect timeout) s = .ok () ∨
      ∃ fault, outcome (connect timeout) s = .error (.error (.channel fault)) := by
  rcases close_cases s with ⟨m, h⟩ | hok
  · exact .inl ⟨m, .closing h⟩
  · rw [outcome_connect_of_close hok]
    rcases Pipe.reach_cases (after close s).world.pipe (after close s) with
      ⟨m, h⟩ | ⟨c, h⟩ | ⟨fault, h⟩
    · exact .inl ⟨m, .reaching hok h⟩
    · rw [h]
      exact .inr (.inl rfl)
    · rw [h]
      exact .inr (.inr ⟨fault, rfl⟩)

/-! ## Exchanges -/

/-- What is raised is an error of the channel or of the protocol, or a mishap. -/
def OfChannel : Raised → Prop
  | .error (.channel _) | .error (.protocol _) | .mishap _ => True
  | .error _ => False

theorem close_raises : Raises OfChannel close := by
  intro s e he
  rcases close_cases s with ⟨m, h⟩ | h
  · cases h.outcome.symm.trans he
    trivial
  · cases h.symm.trans he

theorem connect_raises (timeout : Float) : Raises OfChannel (connect timeout) := by
  intro s e he
  rcases connect_cases timeout s with ⟨m, h⟩ | h | ⟨fault, h⟩
  · cases h.outcome.symm.trans he
    trivial
  · cases h.symm.trans he
  · cases h.symm.trans he
    trivial

theorem transferFault_ofChannel (m : Mishap) : OfChannel (transferFault m) := by
  cases m <;> trivial

theorem write_raises (c : Connection) (payload : Bytes) : Raises OfChannel (write c payload) := by
  unfold write
  dsimp only
  split
  · exact .bind (.alter _) fun _ => .throw (transferFault_ofChannel _)
  · refine .bind (.alter _) fun _ => ?_
    split
    · exact .fail trivial
    · exact .pure _

theorem read_raises (c : Connection) (limit : Int) : Raises OfChannel (read c limit) := by
  unfold read
  dsimp only
  split
  · exact .bind (.alter _) fun _ => .throw (transferFault_ofChannel _)
  · exact .bind (.alter _) fun _ => .pure _

theorem send_raises (payload : Bytes) : Raises OfChannel (send payload) := by
  refine .bind .own fun session => ?_
  split
  · exact .fail trivial
  · refine .bind (.ensure (.bind (write_raises _ _) fun _ => read_raises _ _) close_raises)
      fun reply => ?_
    split
    · exact .fail trivial
    · split
      · exact .fail trivial
      · exact .pure _

/-- **An exchange ends with an error of the channel or of the protocol, or with a mishap**, if it
does not give a reply. -/
theorem exchange_raises (payload : Bytes) (timeout : Float) :
    Raises OfChannel (exchange payload timeout) := by
  refine .bind (.alter _) fun _ => .bind .own fun session => ?_
  dsimp only
  split
  · exact send_raises payload
  · exact .bind (connect_raises timeout) fun _ => send_raises payload

end Session

end Vigil
