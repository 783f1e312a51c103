import Vigil.Proofs.Channel.Retry
import Vigil.Proofs.Number.AtMost

/-!
# The word that a wait is told by

The system takes the milliseconds of a wait as a word of 32 bits, so that only their rest by
`2 ^ 32` reaches it. Two words are no times: 0 leaves the time to the server, and the word of all
ones is a wait without an end. A wait is for one millisecond at least, and for as many as there are;
its rest can be either of the two.

* `Pipe.timed_iff`: the rests that make a wait one of some time.
* `Pipe.words_wait`: a wait gives the system one word, or none where its milliseconds are too many
  for a double.
* `Session.connect_asks`: connecting gives it one word for each attempt that is made again.
-/

namespace Vigil

open Act

namespace Pipe

/-! ## Words -/

/-- The word of 32 bits that the system is given for so many milliseconds. -/
def word (millis : Nat) : UInt32 := .ofNat millis

/-- The word for a time of the server's own choice. -/
def serversChoice : UInt32 := 0

/-- The word for a wait without an end. -/
def noEnd : UInt32 := 0xFFFFFFFF

/-- The word is taken for a time in milliseconds. -/
def Timed (w : UInt32) : Prop := w ≠ serversChoice ∧ w ≠ noEnd

/-- The word the system is given for so many seconds, if they have whole milliseconds. -/
def word? (seconds : Float) : Option UInt32 := (waitMillis seconds).toOption.map word

/-- The whole milliseconds of so many seconds are no number of full turns of a word, and not one
less than such a number. -/
def Tellable (seconds : Float) : Prop :=
  ∀ n, Number.truncate (seconds * 1000) = .ok n → 0 < n →
    n % 2 ^ 32 ≠ 0 ∧ n % 2 ^ 32 ≠ 2 ^ 32 - 1

theorem timed_word_iff (n : Int) :
    Timed (word (max 1 n).toNat) ↔ (0 < n → n % 2 ^ 32 ≠ 0 ∧ n % 2 ^ 32 ≠ 2 ^ 32 - 1) := by
  unfold Timed word serversChoice noEnd
  rw [← UInt32.toNat_inj.ne, ← UInt32.toNat_inj.ne, UInt32.toNat_ofNat']
  show _ ≠ 0 ∧ _ ≠ 2 ^ 32 - 1 ↔ _
  omega

variable {seconds : Float}

theorem word?_of_ok {n : Int} (h : Number.truncate (seconds * 1000) = .ok n) :
    word? seconds = some (word (max 1 n).toNat) := by
  rw [word?, waitMillis, h]
  rfl

theorem word?_of_error {reason : Number.NotWhole}
    (h : Number.truncate (seconds * 1000) = .error reason) : word? seconds = none := by
  rw [word?, waitMillis, h]
  rfl

/-- **A wait is told as a time** if and only if its milliseconds leave no such rest. -/
theorem timed_iff (seconds : Float) : (∀ w ∈ word? seconds, Timed w) ↔ Tellable seconds := by
  unfold Tellable
  cases whole : Number.truncate (seconds * 1000) with
  | error reason =>
    rw [word?_of_error whole]
    exact ⟨fun _ => nofun, fun _ => nofun⟩
  | ok n =>
    rw [word?_of_ok whole]
    constructor
    · rintro timed n ⟨⟩
      exact (timed_word_iff n).mp (timed _ rfl)
    · rintro tellable w ⟨⟩
      exact (timed_word_iff n).mpr (tellable n rfl)

/-- The factor from seconds to milliseconds. -/
theorem unpack_thousand : (1000 : Float).toModel.unpack =
    .finite .positive (1000 * 2 ^ 43) (-43) (by decide) := rfl

theorem unpack_mul_thousand (seconds : Float) : (seconds * 1000).toModel.unpack =
    (Float.Model.pack (.mul .binary64 seconds.toModel.unpack
      (.finite .positive (1000 * 2 ^ 43) (-43) (by decide)))).unpack := by
  rw [← unpack_thousand]
  rfl

/-- **A finite time has no word** only where its milliseconds are too many for a double. -/
theorem word?_eq_none_iff (finite : Number.isFinite seconds = true) :
    word? seconds = none ↔ Number.truncate (seconds * 1000) = .error .infinity := by
  cases whole : Number.truncate (seconds * 1000) with
  | error reason =>
    cases reason with
    | infinity => exact iff_of_true (word?_of_error whole) rfl
    | notANumber =>
      have number := Number.unpack_of_truncate whole
      rw [unpack_mul_thousand] at number
      exact absurd number
        (Number.mul_ne_notANumber ((Number.isFinite_iff seconds).mp finite) _ (by decide))
  | ok n =>
    rw [word?_of_ok whole]
    exact iff_of_false nofun nofun

/-- **The longest waits are the server's choice**: so many milliseconds are a double without a bit
in its last word. -/
theorem word?_of_long {n : Int} (h : Number.truncate (seconds * 1000) = .ok n)
    (long : 2 ^ 84 ≤ n) : word? seconds = some serversChoice := by
  have turns := Number.dvd_of_truncate h long
  rw [word?_of_ok h, word, serversChoice]
  congr 1
  rw [← UInt32.toNat_inj, UInt32.toNat_ofNat']
  show _ = 0
  omega

end Pipe

/-- The word the system is given by an event, if it is a wait. -/
def Event.word? : Event → Option UInt32
  | .wait _ millis => some (Pipe.word millis)
  | _ => none

/-- The words the system was given, in this order. -/
def words (t : List Event) : List UInt32 := t.filterMap Event.word?

theorem words_append (t u : List Event) : words (t ++ u) = words t ++ words u :=
  List.filterMap_append

namespace Pipe

variable {σ : Type} {path : String} {timeout deadline : Float} {s : Scene σ}

/-! ## Waiting -/

/-- The platform stays the same. -/
def samePlatform : Frame (Scene σ) where
  holds a b := b.world.platform = a.world.platform
  refl _ := rfl
  trans h h' := h'.trans h

theorem samePlatform_log (source : Source) (level : Int) (message : LooseText) (traced : Bool) :
    Respects samePlatform (Act.log source level message traced : Act σ Unit) :=
  fun s => World.platform_log s.world source level message traced

theorem samePlatform_wait (path : String) (seconds : Float) :
    Respects samePlatform (wait path seconds : Act σ Unit) := by
  refine .bind .world fun w => ?_
  split
  · exact fun _ => rfl
  · refine .bind (.orStumble _) fun millis => .bind .world fun w => ?_
    refine .bind (fun _ => rfl) fun _ => ?_
    split
    · exact .stumble _
    · split
      · exact samePlatform_log _ _ _ _
      · exact .pure _

/-- **A wait gives the system one word**, or none where its time has no whole milliseconds. -/
theorem words_wait (seconds : Float) (windows : s.world.platform = .windows) :
    words (after (wait path seconds) s).world.events =
      words s.world.events ++ (word? seconds).toList := by
  simp only [wait, after_bind, outcome_world, after_world, windows, outcome_orStumble,
    after_orStumble, word?]
  cases waitMillis seconds with
  | error reason => exact (List.append_nil _).symm
  | ok millis =>
    have waited (answer : Waiting) : words (s.world.waited path millis answer).events =
        words s.world.events ++ [word millis] := by
      rw [World.events_waited, words_append]
      rfl
    simp only [Except.mapError, outcome_alter, after_alter]
    split
    · exact waited _
    · split
      · rw [after_log, World.events_log]
        exact waited _
      · exact waited _

/-! ## Reaching the pipe -/

instance (deadline : Float) (a : Attempt σ) : Decidable (a.Again deadline) :=
  inferInstanceAs (Decidable (_ ∧ _))

/-- The word that is given to the system after an attempt: that of the time that is left, if there
is some and the pipe was busy. -/
def Attempt.word? (deadline : Float) (a : Attempt σ) : Option UInt32 :=
  if a.Again deadline then Pipe.word? (a.left deadline) else none

/-- The words after attempts. -/
def asked (deadline : Float) (attempts : List (Attempt σ)) : List UInt32 :=
  attempts.filterMap (·.word? deadline)

theorem asked_cons (a : Attempt σ) (later : List (Attempt σ)) :
    asked deadline (a :: later) = (a.word? deadline).toList ++ asked deadline later := by
  rw [asked, List.filterMap_cons, asked]
  cases a.word? deadline <;> rfl

/-- The words after attempts are times if the time that is left after each attempt made again can
be told. -/
theorem timed_asked_iff (attempts : List (Attempt σ)) :
    (∀ w ∈ asked deadline attempts, Timed w) ↔
      ∀ a ∈ attempts, a.Again deadline → Tellable (a.left deadline) := by
  have each (a : Attempt σ) : (∀ w ∈ a.word? deadline, Timed w) ↔
      (a.Again deadline → Tellable (a.left deadline)) := by
    unfold Attempt.word?
    split
    · rename_i again
      rw [timed_iff, forall_prop_of_true again]
    · rename_i stops
      exact iff_of_true nofun fun again => absurd again stops
  constructor
  · intro timed a here
    exact (each a).mp fun w told => timed w (List.mem_filterMap.mpr ⟨a, here, told⟩)
  · intro tellable w told
    obtain ⟨a, here, told⟩ := List.mem_filterMap.mp told
    exact (each a).mpr (tellable a here) w told

theorem words_next (path : String) (openings : List Opening) (s : Scene σ) :
    words (Attempt.next path openings s).scene.world.events = words s.world.events := by
  rw [events_next, words_append]
  exact List.append_nil _

theorem platform_next (path : String) (openings : List Opening) (s : Scene σ) :
    (Attempt.next path openings s).scene.world.platform = s.world.platform := by
  unfold Attempt.next opened World.opened
  dsimp only
  cases (openings.headD .absent).result <;> rfl

/-- An attempt and the pause behind it give the system the word of the attempt. -/
theorem words_pause (windows : s.world.platform = .windows) {openings : List Opening}
    (again : (Attempt.next path openings s).Again deadline) :
    words (after ((Attempt.next path openings s).pause path deadline)
        (Attempt.next path openings s).scene).world.events =
      words s.world.events ++ ((Attempt.next path openings s).word? deadline).toList := by
  rw [Attempt.pause, words_wait _ ((platform_next path openings s).trans windows), words_next,
    Attempt.word?, if_pos again]

/-- What the system is given while the pipe is reached: attempts follow each other, all but the last
one are made again, and each leads to its word. -/
structure Asks (path : String) (deadline : Float) (openings : List Opening) (s : Scene σ)
    (attempts : List (Attempt σ)) (t : Scene σ) : Prop where
  follow : Follow path deadline openings s attempts
  again : ∀ a ∈ attempts.dropLast, a.Again deadline
  words : words t.world.events = words s.world.events ++ asked deadline attempts

theorem Follow.ne_nil {openings : List Opening} {attempts : List (Attempt σ)}
    (h : Follow path deadline openings s attempts) : attempts ≠ [] := by
  cases h <;> exact List.cons_ne_nil _ _

/-- The only attempt gives its word. -/
theorem Asks.one {openings : List Opening} {t : Scene σ}
    (h : Vigil.words t.world.events =
      Vigil.words s.world.events ++ ((Attempt.next path openings s).word? deadline).toList) :
    Asks path deadline openings s [.next path openings s] t := by
  refine ⟨.one _ _, List.forall_mem_nil _, ?_⟩
  rw [h, asked_cons]
  exact congrArg _ (List.append_nil _).symm

/-- **Reaching the pipe gives the system one word for each attempt that is followed by a wait**,
that of the time that was left right after it. -/
theorem reach_asks (path : String) (timeout deadline : Float) (openings : List Opening)
    (windows : s.world.platform = .windows) :
    ∃ attempts, Asks path deadline openings s attempts
      (after (reach path timeout deadline openings) s) := by
  have last {openings : List Opening} {s : Scene σ}
      (stops : ¬(Attempt.next path openings s).Again deadline) :
      Asks path deadline openings s [.next path openings s]
        (after (reach path timeout deadline openings) s) := by
    refine .one ?_
    rw [after_reach_last timeout stops, words_next, Attempt.word?, if_neg stops]
    exact (List.append_nil _).symm
  induction openings generalizing s with
  | nil => exact ⟨_, last fun again => Bool.false_ne_true again.1⟩
  | cons o rest ih =>
    by_cases again : (Attempt.next path (o :: rest) s).Again deadline
    · have paused := words_pause windows again
      have still := (samePlatform_wait path ((Attempt.next path (o :: rest) s).left deadline)
        (Attempt.next path (o :: rest) s).scene).trans
          ((platform_next path (o :: rest) s).trans windows)
      obtain ⟨attempts, asks⟩ := ih still
      rw [(same_of_run (reach_run_again timeout again)).2, after_bind]
      cases outcome ((Attempt.next path (o :: rest) s).pause path deadline)
          (Attempt.next path (o :: rest) s).scene with
      | ok _ =>
        refine ⟨_, .more asks.follow, ?_, ?_⟩
        · rw [List.dropLast_cons_of_ne_nil asks.follow.ne_nil]
          exact List.forall_mem_cons.mpr ⟨again, asks.again⟩
        · rw [asked_cons, ← List.append_assoc, ← paused]
          exact asks.words
      -- The wait that breaks off was the last thing that was done, after its word was given.
      | error _ => exact ⟨_, .one paused⟩
    · exact ⟨_, last again⟩

end Pipe

/-! ## Connecting -/

namespace Session

variable {s : Scene Session}

theorem samePlatform_close : Respects Pipe.samePlatform close := by
  refine .bind .own fun session => ?_
  split
  · exact .pure _
  · refine .bind (fun _ => rfl) fun _ => .bind (fun _ => rfl) fun _ => ?_
    split
    · exact .pure _
    · exact Pipe.samePlatform_log _ _ _ _
    · exact .stumble _

/-- Closing gives the system no word. -/
theorem words_close (s : Scene Session) :
    words (after close s).world.events = words s.world.events := by
  have none : words (closing s) = [] := by
    unfold closing
    cases s.own.connection <;> rfl
  rw [events_close, words_append, none, List.append_nil]

/-- **Connecting gives the system the words of the attempts** that are made once what was held is
closed. -/
theorem connect_asks (timeout : Float) (windows : s.world.platform = .windows) :
    ∃ attempts,
      (outcome close s = .ok () → Pipe.Asks s.own.path (deadline timeout s) s.world.pipe
        (after close s) attempts (after (connect timeout) s)) ∧
      words (after (connect timeout) s).world.events =
        words s.world.events ++ Pipe.asked (deadline timeout s) attempts := by
  cases closed : outcome close s with
  | ok _ =>
    obtain ⟨attempts, asks⟩ := Pipe.reach_asks s.own.path timeout (deadline timeout s)
      s.world.pipe ((samePlatform_close s).trans windows)
    obtain ⟨-, -, events⟩ := connect_of_close timeout closed
    refine ⟨attempts, fun _ => ⟨asks.follow, asks.again, ?_⟩, ?_⟩
    · rw [events, asks.words]
    · rw [events, asks.words, words_close]
  | error _ =>
    have only : after (connect timeout) s = after close s := by rw [connect, after_bind, closed]
    refine ⟨[], ?_, ?_⟩
    · intro returns
      cases returns
    · rw [only, words_close]
      exact (List.append_nil _).symm

end Session

end Vigil
