import Vigil.Proofs.Channel.Word

/-!
# Which waits are told as a time

A wait is told as a time as long as its milliseconds are below the word of all ones. Up to
`Pipe.longest` seconds that is so for a wait, and for every wait while connecting: what is left
until the deadline is at most the seconds that were given, but for what the sum and the difference
are rounded up by. Above it the milliseconds decide, and the very long waits are all the server's
choice.

* `Pipe.tellable_of_atMost`: what is below the word of all ones can be told.
* `Pipe.tellable_left`: so can what is left until a deadline that was set no further off.
* `Session.waits_timed_iff`: which waits are told as a time, of a wait and of connecting.
-/

namespace Vigil

open Act

namespace Pipe

variable {σ : Type} {timeout seconds : Float}

/-! ## How long a wait can be told -/

/-- **What is below the word of all ones can be told**, with room for one rounding. -/
theorem tellable_of_atMost {q : ℚ} (hq : 0 ≤ q) (h : Number.AtMost q seconds.toModel.unpack)
    (room : q * 1000 + 2 ^ (-21 : Int) < 2 ^ 32 - 1) : Tellable seconds := by
  intro n whole positive
  have scale : ((1000 * 2 ^ 43 : Nat) : ℚ) * 2 ^ (-43 : Int) = 1000 := by norm_num
  have below : Number.Below 32 (q * (((1000 * 2 ^ 43 : Nat) : ℚ) * 2 ^ (-43 : Int))) := by
    rw [scale]
    refine ⟨by positivity, by decide, by decide, ?_⟩
    norm_num at room ⊢
    linarith
  have product := h.mul (by decide) (by decide) below
  rw [← unpack_mul_thousand, scale] at product
  have most : (n : ℚ) ≤ q * 1000 + 2 ^ (-21 : Int) :=
    Number.truncate_le product (by positivity) whole
  have less : (n : ℚ) < ((2 ^ 32 - 1 : Int) : ℚ) := by
    push_cast
    linarith
  have less : n < 2 ^ 32 - 1 := by exact_mod_cast less
  omega

/-- The greatest number of whole milliseconds that a word can tell, in seconds. -/
def longest : Float := 4294967.294

theorem isFinite_longest : Number.isFinite longest = true := rfl

/-- As a double it is no more than its digits say. -/
theorem value_longest_le : Number.value longest.toModel.unpack ≤ 4294967294 / 1000 := by
  have parts : longest.toModel.unpack =
    .finite .positive 4611686016279904 (-30) (by decide) := rfl
  rw [parts, Number.value_positive]
  norm_num

theorem atMost_of_le_longest (finite : Number.isFinite seconds = true) (h : seconds ≤ longest) :
    Number.AtMost (4294967294 / 1000) seconds.toModel.unpack :=
  (Number.AtMost.of_le finite isFinite_longest h).mono value_longest_le

theorem tellable_of_le (finite : Number.isFinite seconds = true) (h : seconds ≤ longest) :
    Tellable seconds :=
  tellable_of_atMost (by positivity) (atMost_of_le_longest finite h) (by norm_num)

/-! ## Until a deadline -/

/-- The latest reading of the clock that is looked at, in seconds: some thirty thousand years. -/
def latest : Float := 1000000000000

theorem isFinite_latest : Number.isFinite latest = true := rfl

theorem value_latest : Number.value latest.toModel.unpack = 10 ^ 12 := by
  have parts : latest.toModel.unpack = .finite .positive (10 ^ 12 * 2 ^ 13) (-13) (by decide) := rfl
  rw [parts, Number.value_positive]
  norm_num

/-- A reading of the clock to set a deadline by: a number from zero to the latest one. -/
structure Early (start : Float) : Prop where
  finite : Number.isFinite start = true
  nonneg : 0 ≤ start
  le : start ≤ latest

/-- A deadline is hardly later than its seconds after the start. -/
theorem atMost_deadline {start : Float} (finite : Number.isFinite timeout = true)
    (short : timeout ≤ longest) (early : Early start) :
    Number.AtMost (Number.value start.toModel.unpack + 4294967294 / 1000 + 2 ^ (41 - 53 : Int))
      (start + if 0.0 > timeout then 0.0 else timeout).toModel.unpack := by
  have low : 0 ≤ Number.value start.toModel.unpack :=
    Number.value_le_of_le (show Number.isFinite 0 = true from rfl) early.finite early.nonneg
  have high := Number.value_le_of_le early.finite isFinite_latest early.le
  rw [value_latest] at high
  have most : Number.AtMost (4294967294 / 1000)
      (if 0.0 > timeout then 0.0 else timeout).toModel.unpack := by
    split
    · show (0 : ℚ) ≤ _
      positivity
    · exact atMost_of_le_longest finite short
  have below : Number.Below 41 (Number.value start.toModel.unpack + 4294967294 / 1000) := by
    refine ⟨by positivity, by decide, by decide, ?_⟩
    norm_num
    linarith
  exact (Number.AtMost.of_isFinite ((Number.isFinite_iff start).mp early.finite)).add most
    (Number.proper_unpack _) (Number.proper_unpack _) below

/-- **What is left until such a deadline can be told**, on a clock that does not run backwards. -/
theorem tellable_left {start now : Float} (finite : Number.isFinite timeout = true)
    (short : timeout ≤ longest) (early : Early start) (hn : Number.isFinite now = true)
    (forth : start ≤ now) :
    Tellable (start + (if 0.0 > timeout then 0.0 else timeout) - now) := by
  have set := atMost_deadline finite short early
  have passed : Number.AtMost (-Number.value start.toModel.unpack) now.toModel.unpack.neg :=
    ((Number.isFinite_iff now).mp hn).atMost_neg.mono
      (neg_le_neg (Number.value_le_of_le early.finite hn forth))
  have between : Number.value start.toModel.unpack + 4294967294 / 1000 + 2 ^ (41 - 53 : Int) +
      -Number.value start.toModel.unpack = 4294967294 / 1000 + 2 ^ (41 - 53 : Int) := by ring
  have below : Number.Below 23 (Number.value start.toModel.unpack + 4294967294 / 1000 +
      2 ^ (41 - 53 : Int) + -Number.value start.toModel.unpack) := by
    rw [between]
    exact ⟨by positivity, by decide, by decide, by norm_num⟩
  have left := set.add passed (Number.proper_unpack _) (Number.proper_unpack _).neg below
  rw [← Number.sub_eq_add, between] at left
  exact tellable_of_atMost (by positivity) left (by norm_num)

/-- The clock is early at first, and reads no less right after any attempt. -/
structure Steady (start : Float) (attempts : List (Attempt σ)) : Prop where
  early : Early start
  finite : ∀ a ∈ attempts, Number.isFinite a.scene.world.mono = true
  forth : ∀ a ∈ attempts, start ≤ a.scene.world.mono

end Pipe

namespace Session

variable {s : Scene Session}

theorem mono_close (s : Scene Session) : (after close s).world.mono = s.world.mono := by
  unfold close
  simp only [after_bind, outcome_own, after_own]
  cases s.own.connection with
  | none => rfl
  | some c =>
    simp only [after_bind, outcome_update, after_update, outcome_note, after_note]
    cases c.line.closeFault with
    | none => rfl
    | some m =>
      cases m with
      | os fault => exact World.mono_log _ _ _ _ _
      | _ => rfl

/-- While connecting with no more than the longest time, all that is left can be told. -/
theorem tellable_left_of_steady {timeout : Float} (finite : Number.isFinite timeout = true)
    (short : timeout ≤ Pipe.longest) {attempts : List (Pipe.Attempt Session)}
    (steady : Pipe.Steady s.world.mono attempts) :
    ∀ a ∈ attempts, Pipe.Tellable (a.left (deadline timeout s)) := by
  intro a here
  rw [Pipe.Attempt.left, Pipe.remaining, deadline, mono_close]
  exact Pipe.tellable_left finite short steady.early (steady.finite a here) (steady.forth a here)

/-- **A wait is told as a time** if and only if its whole milliseconds are no number of full turns
of a word and not one less than such a number, so that it is for every time up to the longest one;
it is told by no word where its milliseconds are too many for a double, and left to the server where
they are `2 ^ 84` or more. **Connecting** gives one word for each attempt that is made again, that
of the time that was left right after it; all of these are times if the time that was given is no
more than the longest one and the clock is steady. -/
theorem waits_timed_iff (timeout : Float) (finite : Number.isFinite timeout = true)
    (windows : s.world.platform = .windows) :
    (words (after (Pipe.wait s.own.path timeout) s).world.events =
        words s.world.events ++ (Pipe.word? timeout).toList ∧
      (Pipe.word? timeout = none ↔ Number.truncate (timeout * 1000) = .error .infinity) ∧
      ((∀ w ∈ Pipe.word? timeout, Pipe.Timed w) ↔ Pipe.Tellable timeout) ∧
      (timeout ≤ Pipe.longest → Pipe.Tellable timeout) ∧
      ∀ n, Number.truncate (timeout * 1000) = .ok n → 2 ^ 84 ≤ n →
        Pipe.word? timeout = some Pipe.serversChoice) ∧
    ∃ attempts,
      (outcome close s = .ok () → Pipe.Asks s.own.path (deadline timeout s) s.world.pipe
        (after close s) attempts (after (connect timeout) s)) ∧
      words (after (connect timeout) s).world.events =
        words s.world.events ++ Pipe.asked (deadline timeout s) attempts ∧
      ((∀ w ∈ Pipe.asked (deadline timeout s) attempts, Pipe.Timed w) ↔
        ∀ a ∈ attempts, a.Again (deadline timeout s) →
          Pipe.Tellable (a.left (deadline timeout s))) ∧
      (timeout ≤ Pipe.longest → Pipe.Steady s.world.mono attempts →
        ∀ w ∈ Pipe.asked (deadline timeout s) attempts, Pipe.Timed w) := by
  obtain ⟨attempts, course, told⟩ := connect_asks timeout windows
  refine ⟨⟨Pipe.words_wait timeout windows, Pipe.word?_eq_none_iff finite, Pipe.timed_iff timeout,
    Pipe.tellable_of_le finite, fun n => Pipe.word?_of_long⟩, attempts, course, told,
    Pipe.timed_asked_iff attempts, fun short steady => ?_⟩
  refine (Pipe.timed_asked_iff attempts).mpr fun a here _ => ?_
  exact tellable_left_of_steady finite short steady a here

/-- A session whose pipe is busy once, and gives a connection after that. -/
def busyOnce : Scene Session :=
  ⟨{ pipe := [⟨.error (.os { number := none, text := "busy", code := some Pipe.busyCode }), none⟩,
      ⟨.ok { reply := [] }, none⟩] }, { path := "p" }⟩

/-- The longest time is told as a time where the pipe is busy once: by a wait, and while
connecting. -/
theorem waits_timed_longest :
    (Number.isFinite Pipe.longest = true ∧ busyOnce.world.platform = .windows) ∧
      words (after (Pipe.wait "p" Pipe.longest) busyOnce).world.events = [0xFFFFFFFE] ∧
      Pipe.Tellable Pipe.longest ∧
      words (after (connect Pipe.longest) busyOnce).world.events = [0xFFFFFFFE] ∧
      ∀ w ∈ words (after (connect Pipe.longest) busyOnce).world.events, Pipe.Timed w := by
  obtain ⟨⟨-, -, -, tellable, -⟩, attempts, course, told, -, timed⟩ :=
    waits_timed_iff (s := busyOnce) Pipe.longest Pipe.isFinite_longest rfl
  have short : Pipe.longest ≤ Pipe.longest := by decide +kernel
  have early : Pipe.Early busyOnce.world.mono :=
    ⟨by decide +kernel, by decide +kernel, by decide +kernel⟩
  obtain ⟨follow, again, -⟩ := course rfl
  have steady : Pipe.Steady busyOnce.world.mono attempts := by
    cases follow with
    | one =>
      refine ⟨early, List.forall_mem_singleton.mpr ?_, List.forall_mem_singleton.mpr ?_⟩
      all_goals decide +kernel
    | more later =>
      cases later with
      | one =>
        refine ⟨early, List.forall_mem_cons.mpr ⟨?_, List.forall_mem_singleton.mpr ?_⟩,
          List.forall_mem_cons.mpr ⟨?_, List.forall_mem_singleton.mpr ?_⟩⟩
        all_goals decide +kernel
      | more later =>
        -- The second attempt has a connection, and is not made again.
        rw [List.dropLast_cons_of_ne_nil (List.cons_ne_nil _ _),
          List.dropLast_cons_of_ne_nil later.ne_nil] at again
        have second := (List.forall_mem_cons.mp (List.forall_mem_cons.mp again).2).1
        exact absurd second.1 Bool.false_ne_true
  have told := told.trans (List.nil_append _)
  refine ⟨⟨rfl, rfl⟩, by decide +kernel, tellable short, by decide +kernel, ?_⟩
  rw [told]
  exact timed short steady

/-- A wait of `2 ^ 32` milliseconds is left to the server, and one of a millisecond less has no end,
also while connecting. -/
theorem waits_untimed :
    (Number.isFinite 4294967.296 = true ∧ Number.isFinite 4294967.295 = true ∧
      busyOnce.world.platform = .windows) ∧
      words (after (Pipe.wait "p" 4294967.296) busyOnce).world.events = [Pipe.serversChoice] ∧
      words (after (Pipe.wait "p" 4294967.295) busyOnce).world.events = [Pipe.noEnd] ∧
      words (after (connect 4294967.296) busyOnce).world.events = [Pipe.serversChoice] ∧
      words (after (connect 4294967.295) busyOnce).world.events = [Pipe.noEnd] ∧
      ¬Pipe.Timed Pipe.serversChoice ∧ ¬Pipe.Timed Pipe.noEnd := by
  refine ⟨⟨rfl, rfl, rfl⟩, ?_, ?_, ?_, ?_, fun timed => timed.1 rfl, fun timed => timed.2 rfl⟩
  all_goals decide +kernel

end Session

end Vigil
