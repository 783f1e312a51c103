import Vigil.Proofs.Channel.Exchange

/-!
# Replies are delivered whole or refused

A session asks for one byte more than its buffer holds and compares afterwards. So a reply that fits
is delivered as the line serves it, a longer one is refused, and no part of a reply is ever taken
for the whole. What goes wrong on the line is an error, also if a reply was read.

* `delivery_take`: the byte more is enough to tell a reply that fits from a longer one.
* `outcome_send_eq_ok_iff`: a send gives a reply if and only if nothing goes wrong and it fits.
* `delivers_whole`: sends and exchanges deliver replies whole or refuse them.
-/

namespace Vigil.Session

open Act

/-! ## What is delivered -/

/-- Nothing goes wrong on a line: the whole payload is written, the reply is read, and the line is
closed without harm. -/
structure Sound (line : Line) : Prop where
  written : line.writeFault = none
  whole : line.short = 0
  read : line.readFault = none
  closed : Harmless line.closeFault

/-- What an exchange ends with that got some bytes. -/
def delivery (size : Int) (got : Bytes) : Except Raised Bytes :=
  if got = [] then .error (.error (.channel .nothingRead)) else ending size got

/-- Only a reply that is not empty and that fits is delivered. -/
theorem delivery_eq_ok_iff {size : Int} {got reply : Bytes} :
    delivery size got = .ok reply ↔
      got = reply ∧ 1 ≤ reply.length ∧ (reply.length : Int) ≤ size := by
  unfold delivery ending
  split
  · rename_i empty
    refine iff_of_false nofun ?_
    rintro ⟨rfl, filled, -⟩
    rw [empty] at filled
    exact absurd filled (by decide)
  · rename_i filled
    split
    · rename_i long
      refine iff_of_false nofun ?_
      rintro ⟨rfl, -, fits⟩
      exact absurd long (Int.not_lt.mpr fits)
    · rename_i fits
      constructor
      · rintro ⟨⟩
        exact ⟨rfl, List.length_pos_iff.mpr filled, Int.not_lt.mp fits⟩
      · rintro ⟨rfl, -⟩
        rfl

/-- **One byte more than the buffer holds tells what fits from what does not.** -/
theorem delivery_take {size : Int} (h : 0 ≤ size) (reply : Bytes) :
    delivery size (reply.take (size + 1).toNat) = delivery size reply := by
  by_cases fits : (reply.length : Int) ≤ size
  · rw [List.take_of_length_le (by omega)]
  · have length : (reply.take (size + 1).toNat).length = (size + 1).toNat := by
      rw [List.length_take]
      omega
    have filled : reply ≠ [] := List.ne_nil_of_length_pos (by omega)
    have taken : reply.take (size + 1).toNat ≠ [] := List.ne_nil_of_length_pos (by omega)
    rw [delivery, delivery, if_neg taken, if_neg filled, ending, ending, if_pos (by omega),
      if_pos (by omega)]

/-! ## Sending -/

variable {payload : Bytes} {c : Connection} {s : Scene Session}

/-- A payload is written if it is written whole. -/
theorem outcome_write_eq_ok_iff :
    outcome (write c payload) s = .ok () ↔ c.line.writeFault = none ∧ c.line.short = 0 := by
  unfold write
  dsimp only
  cases c.line.writeFault with
  | some m => exact iff_of_false nofun nofun
  | none =>
    by_cases whole : c.line.short = 0
    · simp [whole]
    · simp [outcome_bind, whole]

/-- What is read are the first bytes of the reply. -/
theorem outcome_read_eq_ok_iff {limit : Int} {got : Bytes} :
    outcome (read c limit) s = .ok got ↔
      c.line.readFault = none ∧ got = c.line.reply.take limit.toNat := by
  unfold read
  dsimp only
  cases c.line.readFault with
  | some m => exact iff_of_false nofun nofun
  | none =>
    constructor
    · rintro ⟨⟩
      exact ⟨rfl, rfl⟩
    · rintro ⟨-, rfl⟩
      rfl

theorem outcome_transfer_eq_ok_iff {limit : Int} {got : Bytes} :
    outcome (transfer c payload limit) s = .ok got ↔
      (c.line.writeFault = none ∧ c.line.short = 0) ∧ c.line.readFault = none ∧
        got = c.line.reply.take limit.toNat := by
  rw [transfer, outcome_bind, ← @outcome_write_eq_ok_iff payload c s]
  cases outcome (write c payload) s with
  | ok u => simpa using outcome_read_eq_ok_iff
  | error raised => simp

/-- A transfer that is followed by a close gives bytes if nothing goes wrong on the line. -/
theorem outcome_ensure_eq_ok_iff (held : s.own.connection = some c) {limit : Int} {got : Bytes} :
    outcome (Act.ensure (transfer c payload limit) close) s = .ok got ↔
      Sound c.line ∧ got = c.line.reply.take limit.toNat := by
  obtain ⟨-, -, -, own, -⟩ := transfer_course c payload limit s
  have still : (after (transfer c payload limit) s).own.connection = some c := by
    rw [own]
    exact held
  obtain ⟨-, harm⟩ := close_course still
  rw [outcome_ensure]
  rcases harm with ⟨harmless, e⟩ | ⟨harmful, m, e⟩
  · rw [e]
    dsimp only
    rw [outcome_transfer_eq_ok_iff]
    exact ⟨fun ⟨⟨written, whole⟩, read, e⟩ => ⟨⟨written, whole, read, harmless⟩, e⟩,
      fun ⟨sound, e⟩ => ⟨⟨sound.written, sound.whole⟩, sound.read, e⟩⟩
  · rw [e]
    exact iff_of_false nofun fun h => harmful h.1.closed

/-- What is done over the connection that is held comes to what is delivered of the bytes. -/
theorem outcome_send_of_held (held : s.own.connection = some c) :
    outcome (send payload) s =
      match outcome (Act.ensure (transfer c payload (s.own.bufferSize + 1)) close) s with
      | .ok got => delivery s.own.bufferSize got
      | .error raised => .error raised := by
  have both (limit : Int) : (do write c payload; read c limit) = transfer c payload limit := rfl
  simp only [send, both, outcome_bind, outcome_own, after_own, held]
  cases outcome (Act.ensure (transfer c payload (s.own.bufferSize + 1)) close) s with
  | error raised => rfl
  | ok got =>
    unfold delivery ending
    cases got with
    | nil => rfl
    | cons b rest =>
      simp only [List.isEmpty_cons, reduceCtorEq, if_false, Bool.false_eq_true]
      split <;> rfl

/-- A send over a sound line comes to what is delivered of the reply. -/
theorem outcome_send_of_sound (held : s.own.connection = some c) (size : 0 ≤ s.own.bufferSize)
    (sound : Sound c.line) : outcome (send payload) s = delivery s.own.bufferSize c.line.reply := by
  rw [outcome_send_of_held held, (outcome_ensure_eq_ok_iff held).mpr ⟨sound, rfl⟩]
  exact delivery_take size c.line.reply

/-- **A send gives a reply if and only if nothing goes wrong and the reply is delivered.** -/
theorem outcome_send_eq_ok_iff (held : s.own.connection = some c) (size : 0 ≤ s.own.bufferSize)
    {reply : Bytes} :
    outcome (send payload) s = .ok reply ↔
      Sound c.line ∧ delivery s.own.bufferSize c.line.reply = .ok reply := by
  constructor
  · intro e
    have got := e
    rw [outcome_send_of_held held] at got
    cases h : outcome (Act.ensure (transfer c payload (s.own.bufferSize + 1)) close) s with
    | error raised =>
      rw [h] at got
      cases got
    | ok bytes =>
      have sound := ((outcome_ensure_eq_ok_iff held).mp h).1
      exact ⟨sound, (outcome_send_of_sound held size sound).symm.trans e⟩
  · rintro ⟨sound, e⟩
    exact (outcome_send_of_sound held size sound).trans e

/-! ## Sends and exchanges -/

/-- The operations that carry a payload. -/
inductive Carries (payload : Bytes) : Act Session Bytes → Prop
  | send : Carries payload (send payload)
  | exchange (timeout : Float) : Carries payload (exchange payload timeout)

/-- An exchange has begun. -/
def begun (payload : Bytes) (s : Scene Session) : Scene Session :=
  after (Act.note (.exchange payload)) s

/-- The operation carries the payload over this connection: the one that is held, or the one that an
exchange of a session without one opens. -/
inductive Over (payload : Bytes) (c : Connection) : Act Session Bytes → Scene Session → Prop
  | sent {s : Scene Session} (held : s.own.connection = some c) : Over payload c (send payload) s
  | exchanged {s : Scene Session} (timeout : Float) (held : s.own.connection = some c) :
      Over payload c (exchange payload timeout) s
  | opened {s : Scene Session} {timeout : Float} (shut : Shut s)
      (found : outcome (connect timeout) (begun payload s) = .ok ())
      (held : (after (connect timeout) (begun payload s)).own.connection = some c) :
      Over payload c (exchange payload timeout) s

/-- An exchange over the connection that is held is a send. -/
theorem outcome_exchange_of_held (timeout : Float) (held : s.own.connection = some c) :
    outcome (exchange payload timeout) s = outcome (send payload) (begun payload s) := by
  have now : after (Act.note (.exchange payload)) s = begun payload s := rfl
  have isOpen : (begun payload s).own.isOpen = true := by
    rw [Session.isOpen, show (begun payload s).own.connection = some c from held,
      Option.isSome_some]
  rw [exchange, outcome_bind, outcome_note, now]
  simp only [outcome_bind, outcome_own, after_own, isOpen]
  rfl

/-- An exchange of a session without a connection is a send after connecting. -/
theorem outcome_exchange_of_shut (timeout : Float) (shut : Shut s) :
    outcome (exchange payload timeout) s =
      match outcome (connect timeout) (begun payload s) with
      | .ok _ => outcome (send payload) (after (connect timeout) (begun payload s))
      | .error raised => .error raised := by
  have now : after (Act.note (.exchange payload)) s = begun payload s := rfl
  have isShut : (begun payload s).own.isOpen = false := by
    rw [Session.isOpen, show (begun payload s).own.connection = none from shut, Option.isSome_none]
  rw [exchange, outcome_bind, outcome_note, now]
  simp only [outcome_bind, outcome_own, after_own, isShut, Bool.false_eq_true, if_false]
  cases outcome (connect timeout) (begun payload s) <;> rfl

/-- An operation over a connection comes to what a send over it comes to. -/
theorem Over.exists_send {x : Act Session Bytes} (carried : Over payload c x s) :
    ∃ t, t.own.connection = some c ∧ t.own.bufferSize = s.own.bufferSize ∧
      outcome x s = outcome (send payload) t := by
  cases carried with
  | sent held => exact ⟨s, held, rfl, rfl⟩
  | exchanged timeout held =>
    exact ⟨begun payload s, held, rfl, outcome_exchange_of_held timeout held⟩
  | opened shut found held =>
    rename_i timeout
    obtain ⟨-, -, size, -⟩ := connect_course timeout (s := begun payload s) shut
    exact ⟨_, held, size, by rw [outcome_exchange_of_shut timeout shut, found]⟩

/-- A send without a connection gives no reply. -/
theorem connection_of_send {reply : Bytes} (e : outcome (send payload) s = .ok reply) :
    ∃ c, s.own.connection = some c := by
  cases held : s.own.connection with
  | some c => exact ⟨c, rfl⟩
  | none =>
    simp only [send, outcome_bind, outcome_own, after_own, held] at e
    cases e

/-- What gives a reply is carried over a connection. -/
theorem Carries.exists_over {x : Act Session Bytes} (op : Carries payload x) {reply : Bytes}
    (e : outcome x s = .ok reply) : ∃ c, Over payload c x s := by
  cases op with
  | send =>
    obtain ⟨c, held⟩ := connection_of_send e
    exact ⟨c, .sent held⟩
  | exchange timeout =>
    cases held : s.own.connection with
    | some c => exact ⟨c, .exchanged timeout held⟩
    | none =>
      rw [outcome_exchange_of_shut timeout held] at e
      cases found : outcome (connect timeout) (begun payload s) with
      | ok u =>
        rw [found] at e
        obtain ⟨c, now⟩ := connection_of_send e
        exact ⟨c, .opened held found now⟩
      | error raised =>
        rw [found] at e
        cases e

/-- **Replies are delivered whole or refused.** Over a line on which nothing goes wrong, a send or
an exchange gives the reply exactly as the line serves it if it is not empty and fits the buffer; a
longer one is told as too long, and an empty one as a failed read. Whatever goes wrong, what is
given is the whole reply of the line, and the whole payload was written before. -/
theorem delivers_whole {x : Act Session Bytes} (op : Carries payload x)
    (size : 0 ≤ s.own.bufferSize) :
    (∀ c, Over payload c x s → Sound c.line →
      (1 ≤ c.line.reply.length → c.line.reply.length ≤ s.own.bufferSize →
        outcome x s = .ok c.line.reply) ∧
      (s.own.bufferSize < c.line.reply.length →
        outcome x s = .error (.error (.protocol (.oversized s.own.bufferSize)))) ∧
      (c.line.reply = [] → outcome x s = .error (.error (.channel .nothingRead)) ∧
        ChannelFault.nothingRead.message = "Read failed")) ∧
    ∀ reply, outcome x s = .ok reply → ∃ c, Over payload c x s ∧ Sound c.line ∧
      reply = c.line.reply ∧ 1 ≤ reply.length ∧ reply.length ≤ s.own.bufferSize := by
  refine ⟨fun c carried sound => ?_, fun reply e => ?_⟩
  · obtain ⟨t, held, same, comes⟩ := carried.exists_send
    rw [comes, outcome_send_of_sound held (same ▸ size) sound, same]
    refine ⟨fun filled fits => delivery_eq_ok_iff.mpr ⟨rfl, filled, fits⟩, fun long => ?_,
      fun empty => ⟨if_pos empty, rfl⟩⟩
    have filled : c.line.reply ≠ [] := List.ne_nil_of_length_pos (by omega)
    rw [delivery, if_neg filled, ending, if_pos long]
  · obtain ⟨c, carried⟩ := op.exists_over e
    obtain ⟨t, held, same, comes⟩ := carried.exists_send
    obtain ⟨sound, given⟩ := (outcome_send_eq_ok_iff held (same ▸ size)).mp (comes.symm.trans e)
    obtain ⟨rfl, filled, fits⟩ := delivery_eq_ok_iff.mp given
    exact ⟨c, carried, sound, rfl, filled, same ▸ fits⟩

/-- A reply as long as the buffer is delivered, and one that is a byte longer is refused. -/
theorem delivers_whole_of_full :
    let c (reply : Bytes) : Connection := ⟨0, { reply }⟩
    let s (reply : Bytes) : Scene Session :=
      ⟨{}, { path := "p", bufferSize := 2, connection := some (c reply) }⟩
    (∀ reply, 0 ≤ (s reply).own.bufferSize) ∧ outcome (send [7]) (s [1, 2]) = .ok [1, 2] ∧
      outcome (exchange [7] 0) (s [1, 2, 3]) = .error (.error (.protocol (.oversized 2))) := by
  intro c s
  have sound (reply : Bytes) : Sound (c reply).line := ⟨rfl, rfl, rfl, nofun⟩
  have size (reply : Bytes) : 0 ≤ (s reply).own.bufferSize := (by decide : (0 : Int) ≤ 2)
  refine ⟨size, ?_, ?_⟩
  · exact ((delivers_whole .send (size _)).1 (c [1, 2]) (.sent rfl) (sound _)).1 (by decide)
      (by decide)
  · exact ((delivers_whole (.exchange 0) (size _)).1 (c [1, 2, 3]) (.exchanged 0 rfl)
      (sound _)).2.1 (by decide)

end Vigil.Session
