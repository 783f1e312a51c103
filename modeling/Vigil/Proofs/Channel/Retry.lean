import Mathlib.Data.List.Forall2
import Vigil.Proofs.Channel.Exchange

/-!
# How often the pipe is tried

Connecting tries to open the pipe, and waits between two attempts. An attempt is followed by a wait
if it found the pipe busy and there was time left right after it; the wait is for just that time,
and the next attempt comes right after the wait. Any other attempt is the last one, and decides what
connecting comes to.

* `Follow`: attempts that follow each other.
* `Pipe.reach_retries`: reaching the pipe makes such attempts and nothing else.
* `Session.connect_tries`: so does connecting, after it closed what was held.
-/

namespace Vigil

open Act

/-- Whether an attempt finds all instances of the pipe busy. -/
def Opening.isBusy (o : Opening) : Bool :=
  match o.result with
  | .error (.os fault) => fault.code = some Pipe.busyCode
  | _ => false

theorem Opening.isBusy_iff {o : Opening} :
    o.isBusy = true ↔ ∃ fault, o.result = .error (.os fault) ∧ fault.code = some Pipe.busyCode := by
  unfold isBusy
  cases o.result with
  | ok line => exact iff_of_false nofun nofun
  | error m =>
    cases m with
    | os fault => simp
    | _ => exact iff_of_false nofun nofun

/-- The event is an attempt to open the pipe, whatever comes of it. -/
def Event.isAttempt : Event → Bool
  | .openPipe .. => true
  | _ => false

namespace Pipe

variable {σ : Type} {path : String} {timeout deadline : Float} {openings : List Opening}
  {s : Scene σ}

/-! ## Attempts -/

/-- An attempt: what it came to, and the scene right after it. -/
structure Attempt (σ : Type) where
  opening : Opening
  scene : Scene σ

namespace Attempt

/-- The attempt that is made with these openings in this scene. Where none are left, there is no
pipe. -/
def next (path : String) (openings : List Opening) (s : Scene σ) : Attempt σ :=
  ⟨openings.headD .absent, opened path (openings.headD .absent) openings.tail s⟩

/-- The seconds that are left right after the attempt. -/
def left (deadline : Float) (a : Attempt σ) : Float := remaining deadline a.scene

/-- The attempt found the pipe busy, and there was time left. -/
def Again (deadline : Float) (a : Attempt σ) : Prop :=
  a.opening.isBusy = true ∧ ¬a.left deadline ≤ 0

/-- What is done until the next attempt: a wait for just the time that is left. -/
def pause (path : String) (deadline : Float) (a : Attempt σ) : Act σ Unit :=
  wait path (a.left deadline)

end Attempt

/-- Attempts that follow each other: each is made with the openings that are left, the first one in
the scene, and any other one right after the pause behind the one before it. -/
inductive Follow (path : String) (deadline : Float) :
    List Opening → Scene σ → List (Attempt σ) → Prop
  | one (openings : List Opening) (s : Scene σ) :
      Follow path deadline openings s [.next path openings s]
  | more {openings : List Opening} {s : Scene σ} {later : List (Attempt σ)}
      (h : Follow path deadline openings.tail
        (after ((Attempt.next path openings s).pause path deadline)
          (Attempt.next path openings s).scene) later) :
      Follow path deadline openings s (.next path openings s :: later)

/-- The event of a pause of some seconds, which the system may cut short or round. -/
def Pauses (path : String) (platform : Platform) (seconds : Float) (e : Event) : Prop :=
  match platform with
  | .other => e = .sleep (if retryDelay < seconds then retryDelay else seconds)
  | .windows => ∃ millis, waitMillis seconds = .ok millis ∧ e = .wait path millis

/-- The events of attempts that failed, each with the pause behind it, and of one more attempt. -/
def tries (path : String) (pauses : List Event) (handle : Option Nat) : List Event :=
  pauses.flatMap (fun e => [.openPipe path none, e]) ++ [.openPipe path handle]

/-- What the last attempt decides: with a connection it is had, and without one the pipe cannot be
reached. -/
def Decides (last : Opening) (handle : Option Nat) (ends : Except Raised Connection) : Prop :=
  match last.result with
  | .ok line => ∃ n, handle = some n ∧ ends = .ok ⟨n, line⟩
  | .error _ => handle = none ∧
      ∃ fault, ends = .error (.error (.channel fault)) ∧ fault.isUnavailable = true

/-- A wait that returns is one event. -/
theorem wait_pauses {seconds : Float} (h : outcome (wait path seconds) s = .ok ()) :
    ∃ e, Pauses path s.world.platform seconds e ∧
      (after (wait path seconds) s).world.events = s.world.events ++ [e] := by
  cases hp : s.world.platform with
  | other =>
    simp only [wait, after_bind, outcome_world, after_world, hp]
    exact ⟨_, rfl, World.events_sleep _ _⟩
  | windows =>
    simp only [wait, outcome_bind, after_bind, outcome_world, after_world, hp, outcome_orStumble,
      after_orStumble] at h ⊢
    cases hm : waitMillis seconds with
    | error reason =>
      rw [hm] at h
      cases h
    | ok millis =>
      refine ⟨_, ⟨millis, hm, rfl⟩, ?_⟩
      simp only [Except.mapError, outcome_alter, after_alter]
      split
      · exact World.events_waited _ _ _ _
      · split
        · rw [after_log, World.events_log]
          exact World.events_waited _ _ _ _
        · exact World.events_waited _ _ _ _

/-! ## Reaching the pipe -/

/-- The connection an attempt gives, if it gives one. -/
def handleOf (o : Opening) (s : Scene σ) : Option Nat :=
  match o.result with
  | .ok _ => some s.world.lines
  | .error _ => none

theorem events_next (path : String) (openings : List Opening) (s : Scene σ) :
    (Attempt.next path openings s).scene.world.events =
      s.world.events ++ [.openPipe path (handleOf (openings.headD .absent) s)] := by
  unfold Attempt.next opened World.opened handleOf
  dsimp only
  cases (openings.headD .absent).result with
  | ok line => exact World.events_note _ _
  | error m => exact World.events_note _ _

/-- Actions that run alike end alike. -/
theorem same_of_run {α : Type} {x y : Act σ α} {s t : Scene σ} (h : x s = y t) :
    outcome x s = outcome y t ∧ after x s = after y t := by
  unfold outcome Act.after
  rw [h]
  exact ⟨rfl, rfl⟩

/-- After an attempt that is not the last one there is a pause, and then what is left to do. -/
theorem reach_run_again (timeout : Float) {o : Opening} {rest : List Opening}
    (again : (Attempt.next path (o :: rest) s).Again deadline) :
    reach path timeout deadline (o :: rest) s =
      ((Attempt.next path (o :: rest) s).pause path deadline >>= fun _ =>
        reach path timeout deadline rest) (Attempt.next path (o :: rest) s).scene := by
  obtain ⟨busy, left⟩ := again
  obtain ⟨fault, hr, hc⟩ := Opening.isBusy_iff.mp busy
  have result : o.result = .error (.os fault) := hr
  have isBusy : OpenFault.of (.os fault) = .busy :=
    (OpenFault.of_eq_busy_iff _).mpr ⟨fault, rfl, hc⟩
  have found : tryOpen path o rest s = .ok (.error .busy) (opened path o rest s) := by
    simp only [tryOpen, result, isBusy]
    rfl
  have left : ¬deadline - (opened path o rest s).world.mono ≤ 0 := left
  rw [reach]
  simp only [bind, EStateM.bind, found, Act.world]
  rw [if_neg left]
  rfl

/-- An attempt that was not the last one is followed by a pause, and by what is left to do. -/
theorem reach_again (timeout : Float) {o : Opening} {rest : List Opening}
    (again : (Attempt.next path (o :: rest) s).Again deadline)
    (returns : outcome ((Attempt.next path (o :: rest) s).pause path deadline)
      (Attempt.next path (o :: rest) s).scene = .ok ()) :
    let t := after ((Attempt.next path (o :: rest) s).pause path deadline)
      (Attempt.next path (o :: rest) s).scene
    outcome (reach path timeout deadline (o :: rest)) s =
        outcome (reach path timeout deadline rest) t ∧
      after (reach path timeout deadline (o :: rest)) s =
        after (reach path timeout deadline rest) t := by
  have run := same_of_run (reach_run_again timeout again)
  rw [outcome_bind, after_bind, returns] at run
  exact run

/-- Where the last attempt found the pipe busy, no time was left. -/
theorem late_of_busy {o : Opening} {rest : List Opening} {m : Mishap} (result : o.result = .error m)
    (found : OpenFault.of m = .busy)
    (last : ¬(Attempt.next path (o :: rest) s).Again deadline) :
    remaining deadline (opened path o rest s) ≤ 0 := by
  obtain ⟨fault, rfl, code⟩ := (OpenFault.of_eq_busy_iff m).mp found
  have busy : o.isBusy = true := Opening.isBusy_iff.mpr ⟨fault, result, code⟩
  exact Decidable.not_not.mp fun left => last ⟨busy, left⟩

/-- After the last attempt nothing is done. -/
theorem after_reach_last (timeout : Float)
    (last : ¬(Attempt.next path openings s).Again deadline) :
    after (reach path timeout deadline openings) s = (Attempt.next path openings s).scene := by
  cases openings with
  | nil => rfl
  | cons o rest =>
    rw [reach, tryOpen]
    simp only [after_bind, outcome_bind, outcome_world, after_world, outcome_alter, after_alter]
    cases hr : o.result with
    | ok line => rfl
    | error m =>
      simp only [outcome_pure, after_pure]
      cases hf : OpenFault.of m with
      | busy =>
        have late : deadline - (s.world.opened path o rest).mono ≤ 0 := late_of_busy hr hf last
        simp only [after_bind, outcome_world, after_world]
        rw [if_pos late]
        rfl
      | missing => rfl
      | system fault => rfl
      | other mishap => rfl

/-- The last attempt decides. -/
theorem reach_last (timeout : Float) (openings : List Opening)
    (system : ∀ m, (openings.headD .absent).result = .error m → ∃ fault, m = .os fault)
    (last : ¬(Attempt.next path openings s).Again deadline) :
    Decides (openings.headD .absent) (handleOf (openings.headD .absent) s)
        (outcome (reach path timeout deadline openings) s) ∧
      after (reach path timeout deadline openings) s = (Attempt.next path openings s).scene := by
  refine ⟨?_, after_reach_last timeout last⟩
  cases openings with
  | nil => exact ⟨rfl, _, rfl, rfl⟩
  | cons o rest =>
    rw [List.headD_cons] at system ⊢
    unfold Decides handleOf
    rw [outcome_reach_cons]
    cases hr : o.result with
    | ok line => exact ⟨_, rfl, rfl⟩
    | error m =>
      obtain ⟨fault, rfl⟩ := system m hr
      dsimp only
      cases hf : OpenFault.of (.os fault) with
      | busy =>
        dsimp only
        rw [if_pos (late_of_busy hr hf last)]
        exact ⟨rfl, _, rfl, rfl⟩
      | missing => exact ⟨rfl, _, rfl, rfl⟩
      | system fault => exact ⟨rfl, _, rfl, rfl⟩
      | other mishap => exact absurd rfl (((OpenFault.of_eq_other_iff _ _).mp hf).2 fault)

/-- The course of reaching the pipe from a scene to another: attempts that follow each other, of
which only the last one is not made again, with a pause behind every other one. -/
structure Retries (path : String) (deadline : Float) (openings : List Opening) (s : Scene σ)
    (early : List (Attempt σ)) (last : Attempt σ) (pauses : List Event) (handle : Option Nat)
    (t : Scene σ) : Prop where
  follow : Follow path deadline openings s (early ++ [last])
  again : ∀ a ∈ early, a.Again deadline
  stops : ¬last.Again deadline
  paused : List.Forall₂ (fun a e => Pauses path a.scene.world.platform (a.left deadline) e) early
    pauses
  journal : t.world.events = s.world.events ++ tries path pauses handle

/-- An attempt that is not made again is the only one. -/
theorem Retries.one {openings : List Opening} {s : Scene σ}
    (stops : ¬(Attempt.next path openings s).Again deadline) :
    Retries path deadline openings s [] (.next path openings s) []
      (handleOf (openings.headD .absent) s) (Attempt.next path openings s).scene :=
  ⟨.one _ _, List.forall_mem_nil _, stops, .nil, events_next path openings s⟩

/-- An attempt that is made again comes before those that follow the pause. -/
theorem Retries.more {o : Opening} {rest : List Opening} {s t : Scene σ}
    {early : List (Attempt σ)} {last : Attempt σ} {pauses : List Event} {handle : Option Nat}
    (again : (Attempt.next path (o :: rest) s).Again deadline)
    (returns : outcome ((Attempt.next path (o :: rest) s).pause path deadline)
      (Attempt.next path (o :: rest) s).scene = .ok ())
    (h : Retries path deadline rest (after ((Attempt.next path (o :: rest) s).pause path deadline)
      (Attempt.next path (o :: rest) s).scene) early last pauses handle t) :
    ∃ e, Retries path deadline (o :: rest) s (.next path (o :: rest) s :: early) last (e :: pauses)
      handle t := by
  obtain ⟨e, pause, waited⟩ := wait_pauses returns
  obtain ⟨fault, missed, -⟩ := Opening.isBusy_iff.mp again.1
  have none : handleOf o s = none := by
    rw [handleOf, show o.result = .error (.os fault) from missed]
  refine ⟨e, .more h.follow, List.forall_mem_cons.mpr ⟨again, h.again⟩, h.stops,
    .cons pause h.paused, ?_⟩
  have now := events_next path (o :: rest) s
  rw [List.headD_cons, none] at now
  rw [h.journal]
  have before : (after ((Attempt.next path (o :: rest) s).pause path deadline)
      (Attempt.next path (o :: rest) s).scene).world.events = s.world.events ++
        [.openPipe path Option.none, e] := by
    rw [Attempt.pause, waited, now, List.append_assoc]
    rfl
  rw [before, List.append_assoc]
  rfl

/-- **Reaching the pipe is attempts with pauses between them**, if nothing breaks it, and the last
one decides. -/
theorem reach_retries (path : String) (timeout deadline : Float) (openings : List Opening)
    (s : Scene σ) (h : ∀ m, ¬Breaks path deadline openings s m) :
    ∃ early last pauses handle,
      Retries path deadline openings s early last pauses handle
        (after (reach path timeout deadline openings) s) ∧
      Decides last.opening handle (outcome (reach path timeout deadline openings) s) := by
  induction openings generalizing s with
  | nil =>
    have stops : ¬(Attempt.next path [] s).Again deadline := fun again => Bool.false_ne_true again.1
    obtain ⟨decides, same⟩ :=
      reach_last timeout [] (fun m e => ⟨_, (Except.error.inj e).symm⟩) stops
    rw [same]
    exact ⟨_, _, _, _, .one stops, decides⟩
  | cons o rest ih =>
    by_cases again : (Attempt.next path (o :: rest) s).Again deadline
    · obtain ⟨fault, missed, code⟩ := Opening.isBusy_iff.mp again.1
      have waits : Waits path deadline o rest s := ⟨⟨fault, missed, code⟩, again.2⟩
      have returns : outcome ((Attempt.next path (o :: rest) s).pause path deadline)
          (Attempt.next path (o :: rest) s).scene = .ok () :=
        (wait_cases path _ _).resolve_right fun ⟨m, e⟩ => h m (.waiting waits e)
      obtain ⟨early, last, pauses, handle, retries, decides⟩ :=
        ih _ fun m broken => h m (.again waits broken returns)
      obtain ⟨e, all⟩ := retries.more again returns
      obtain ⟨ends, same⟩ := reach_again timeout again returns
      rw [ends, same]
      exact ⟨_, _, _, _, all, decides⟩
    · have system : ∀ m, o.result = .error m → ∃ fault, m = .os fault := by
        intro m e
        by_contra alien
        exact h m (.opening e fun fault os => alien ⟨fault, os⟩)
      obtain ⟨decides, same⟩ := reach_last timeout (o :: rest) system again
      rw [same]
      exact ⟨_, _, _, _, .one again, decides⟩

/-! ## How many attempts -/

/-- No more attempts are made again than find the pipe busy in a row. -/
theorem Follow.length_le {early : List (Attempt σ)} {last : Attempt σ}
    (h : Follow path deadline openings s (early ++ [last]))
    (busy : ∀ a ∈ early, a.opening.isBusy = true) :
    early.length ≤ (openings.takeWhile Opening.isBusy).length := by
  induction early generalizing openings s with
  | nil => exact Nat.zero_le _
  | cons a early ih =>
    obtain ⟨first, others⟩ := List.forall_mem_cons.mp busy
    rw [List.cons_append] at h
    generalize more : early ++ [last] = attempts at h ih
    cases h with
    | one => exact absurd more (List.append_ne_nil_of_right_ne_nil early (List.cons_ne_nil last []))
    | more later =>
      cases openings with
      | nil => exact absurd first Bool.false_ne_true
      | cons o rest =>
        have found : o.isBusy = true := first
        rw [List.takeWhile_cons, if_pos found]
        exact Nat.succ_le_succ (ih later others)

theorem Pauses.isPause {platform : Platform} {seconds : Float} {e : Event}
    (h : Pauses path platform seconds e) : e.isPause = true := by
  cases platform with
  | other =>
    obtain rfl : e = .sleep _ := h
    rfl
  | windows =>
    obtain ⟨millis, -, rfl⟩ := h
    rfl

theorem isPause_of_paused {early : List (Attempt σ)} {pauses : List Event}
    (h : List.Forall₂ (fun a e => Pauses path a.scene.world.platform (a.left deadline) e) early
      pauses) : ∀ e ∈ pauses, e.isPause = true := by
  induction h with
  | nil => exact List.forall_mem_nil _
  | cons pause _ ih => exact List.forall_mem_cons.mpr ⟨pause.isPause, ih⟩

/-- There is one attempt more than there are pauses. -/
theorem countP_tries (path : String) (handle : Option Nat) {pauses : List Event}
    (h : ∀ e ∈ pauses, e.isPause = true) :
    (tries path pauses handle).countP Event.isAttempt = pauses.length + 1 ∧
      (tries path pauses handle).countP Event.isPause = pauses.length := by
  induction pauses with
  | nil => exact ⟨rfl, rfl⟩
  | cons e pauses ih =>
    obtain ⟨pause, others⟩ := List.forall_mem_cons.mp h
    have quiet : e.isAttempt = false := by
      cases e <;> first | rfl | cases pause
    have first : tries path (e :: pauses) handle =
        .openPipe path none :: e :: tries path pauses handle := rfl
    obtain ⟨attempts, waits⟩ := ih others
    constructor
    · rw [first, List.countP_cons_of_pos rfl, List.countP_cons_of_neg (by simp [quiet]), attempts,
        List.length_cons]
    · rw [first, List.countP_cons_of_neg Bool.false_ne_true, List.countP_cons_of_pos pause, waits,
        List.length_cons]

end Pipe

namespace Session

variable {s : Scene Session}

/-- What is closed by a close. -/
def closing (s : Scene Session) : List Event :=
  s.own.connection.toList.map fun c => .close c.number c.line.closeFault

theorem events_close (s : Scene Session) :
    (after close s).world.events = s.world.events ++ closing s := by
  unfold closing
  cases held : s.own.connection with
  | none =>
    rw [(close_of_shut held).2]
    exact (List.append_nil _).symm
  | some c => exact (close_course held).1

/-- A close does not use up what the pipe has in store. -/
theorem pipe_close (s : Scene Session) : (after close s).world.pipe = s.world.pipe := by
  unfold close
  simp only [after_bind, outcome_own, after_own]
  cases s.own.connection with
  | none => rfl
  | some c =>
    simp only [after_bind, outcome_update, after_update, outcome_note, after_note]
    cases c.line.closeFault with
    | none => rfl
    | some m =>
      cases m with
      | os fault =>
        rw [after_log]
        obtain ⟨_, _, kept⟩ := World.keep_eq _ _
        rw [World.log, kept]
        rfl
      | _ => rfl

/-- When an attempt to connect gives up. -/
def deadline (timeout : Float) (s : Scene Session) : Float :=
  (after close s).world.mono + if 0.0 > timeout then 0.0 else timeout

/-- Connecting keeps the connection that reaching the pipe comes to, and adds no event. -/
theorem connect_of_close (timeout : Float) {s : Scene Session} (h : outcome close s = .ok ()) :
    let reach := Pipe.reach s.own.path timeout (deadline timeout s) s.world.pipe
    let ends := outcome reach (after close s)
    outcome (connect timeout) s = ends.map (fun _ => ()) ∧
      (after (connect timeout) s).own.connection = ends.toOption ∧
      (after (connect timeout) s).world.events = (after reach (after close s)).world.events := by
  have path : (after close s).own.path = s.own.path := by rw [after_close_own]
  have connection : (after close s).own.connection = none := by rw [after_close_own]
  have same := Pipe.after_reach_own s.own.path timeout (deadline timeout s) s.world.pipe
    (after close s)
  refine ⟨?_, ?_⟩
  · rw [outcome_connect_of_close h, pipe_close]
    rfl
  · rw [connect, after_bind, h]
    simp only [after_bind, outcome_world, after_world, outcome_own, after_own, path, pipe_close,
      outcome_update, after_update, after_log]
    unfold deadline at same ⊢
    cases outcome (Pipe.reach s.own.path timeout _ s.world.pipe) (after close s) with
    | ok c => exact ⟨rfl, World.events_log _ _ _ _ _⟩
    | error raised => exact ⟨(congrArg Session.connection same).trans connection, rfl⟩

/-- **Connecting is attempts to open the pipe with waits between them**, after the connection that
was held is closed. A wait comes right after an attempt that found the pipe busy with time left, is
for just that time, and the next attempt comes right after it; any other attempt is the last one. So
there is one attempt more than there are waits, and at most one more than the pipe is found busy in
a row. The last attempt decides whether a connection is had. -/
theorem connect_tries (timeout : Float) {s : Scene Session} (h : ∀ m, ¬Breaks timeout s m) :
    ∃ early last pauses handle,
      Pipe.Retries s.own.path (deadline timeout s) s.world.pipe (after close s) early last pauses
        handle (after (connect timeout) s) ∧
      (after (connect timeout) s).world.events =
        s.world.events ++ closing s ++ Pipe.tries s.own.path pauses handle ∧
      (Pipe.tries s.own.path pauses handle).countP Event.isAttempt =
        (Pipe.tries s.own.path pauses handle).countP Event.isPause + 1 ∧
      (Pipe.tries s.own.path pauses handle).countP Event.isAttempt ≤
        (s.world.pipe.takeWhile Opening.isBusy).length + 1 ∧
      (∀ line, last.opening.result = .ok line → outcome (connect timeout) s = .ok () ∧
        ∃ n, handle = some n ∧
          (after (connect timeout) s).own.connection = some ⟨n, line⟩) ∧
      ∀ m, last.opening.result = .error m → handle = none ∧
        (after (connect timeout) s).own.connection = none ∧
        ∃ fault, outcome (connect timeout) s = .error (.error (.channel fault)) ∧
          fault.isUnavailable = true := by
  have returns : outcome close s = .ok () :=
    (close_cases s).resolve_left fun ⟨m, broken⟩ => h m (.closing broken)
  obtain ⟨early, last, pauses, handle, retries, decides⟩ :=
    Pipe.reach_retries s.own.path timeout (deadline timeout s) s.world.pipe (after close s)
      fun m broken => h m (.reaching returns ((pipe_close s).symm ▸ broken))
  obtain ⟨comes, held, events⟩ := connect_of_close timeout returns
  obtain ⟨attempts, waits⟩ := Pipe.countP_tries s.own.path handle
    (Pipe.isPause_of_paused retries.paused)
  have journal := events.trans retries.journal
  refine ⟨early, last, pauses, handle, { retries with journal }, ?_, ?_, ?_, ?_, ?_⟩
  · rw [journal, events_close]
  · rw [attempts, waits]
  · rw [attempts, ← retries.paused.length_eq]
    exact Nat.succ_le_succ (retries.follow.length_le fun a ha => (retries.again a ha).1)
  · intro line found
    rw [Pipe.Decides, found] at decides
    obtain ⟨n, given, ends⟩ := decides
    rw [comes, held, ends]
    exact ⟨rfl, n, given, rfl⟩
  · intro m missed
    rw [Pipe.Decides, missed] at decides
    obtain ⟨given, fault, ends, unavailable⟩ := decides
    rw [comes, held, ends]
    exact ⟨given, rfl, fault, rfl, unavailable⟩

/-- Where the pipe is busy once, it is tried twice at most, behind the close of what was held, a
close that fails included. -/
theorem connect_tries_of_busy :
    let busy : OsFault := { number := none, text := "busy", code := some Pipe.busyCode }
    let held : Connection := ⟨0, { reply := [], closeFault := some (.os busy) }⟩
    let s : Scene Session :=
      ⟨{ platform := .other, lines := 1,
          pipe := [⟨.error (.os busy), none⟩, ⟨.ok { reply := [] }, none⟩] },
        { path := "p", connection := some held }⟩
    (∀ m, ¬Breaks 1 s m) ∧ ∃ pauses handle,
      (after (connect 1) s).world.events =
        .close 0 (some (.os busy)) :: Pipe.tries "p" pauses handle ∧
      (Pipe.tries "p" pauses handle).countP Event.isAttempt ≤ 2 := by
  intro busy held s
  have calm : ∀ m, ¬Breaks 1 s m := by
    intro m broken
    cases broken with
    | closing h =>
      obtain ⟨⟨c, is, raised⟩, alien⟩ := h
      cases is
      exact alien busy (Option.some.inj raised).symm
    | reaching _ h =>
      cases h with
      | opening h alien => exact alien busy (Except.error.inj h).symm
      | waiting _ h => cases h
      | again _ h _ =>
        cases h with
        | opening h _ => cases h
        | waiting waits _ =>
          obtain ⟨fault, h, -⟩ := waits.busy
          cases h
        | again waits _ _ =>
          obtain ⟨fault, h, -⟩ := waits.busy
          cases h
  obtain ⟨-, -, pauses, handle, -, journal, -, bound, -⟩ := connect_tries 1 calm
  exact ⟨calm, pauses, handle, journal, bound⟩

end Session

end Vigil
