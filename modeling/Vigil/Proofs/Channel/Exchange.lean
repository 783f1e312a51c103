import Vigil.Proofs.Channel.Calls
import Vigil.Proofs.Channel.Mishap
import Vigil.Proofs.Channel.Shut
import Vigil.Proofs.Channel.Usage

/-!
# The course of an exchange

What an exchange does with the pipe, and what comes of it. `Course` lists the three courses there
are: no connection is had; a connection is had and lost before it brought a reply that counts; or
it carried the payload, brought a reply and was closed. What the courses have in common is said of
the journal alone: one connection and one payload at most, and nothing tried again.

* `Session.exchange_course`: every exchange takes one of the courses.
* `Session.Course.cases`: what the exchange ends with tells whether it was carried out.
* `Session.Course.single`: no course tries anything twice.
-/

namespace Vigil

open Act

/-! ## What is seen of an exchange -/

namespace Event

/-- The event is an attempt to open the pipe that failed, or a pause before the next one. -/
def isMiss : Event → Bool
  | .openPipe _ none | .wait .. | .sleep _ => true
  | _ => false

/-- The event is a write or a read. -/
def isTransfer : Event → Bool
  | .write .. | .read .. => true
  | _ => false

/-- The payload that an event writes, whatever comes of it. -/
def written? : Event → Option Bytes
  | .write _ payload _ => some payload
  | _ => none

theorem isPipe_of_isMiss {e : Event} (h : e.isMiss = true) : e.isPipe = true := by
  cases e <;> first | rfl | cases h

theorem isMiss_of_isPause {e : Event} (h : e.isPause = true) : e.isMiss = true := by
  cases e <;> first | rfl | cases h

end Event

/-- The payloads that were written, in this order. -/
def written (t : List Event) : List Bytes := t.filterMap Event.written?

/-- A close that raises nothing but what the system reports. -/
def Harmless (closing : Option Mishap) : Prop := ∀ m, closing = some m → ∃ fault, m = .os fault

/-- The whole payload was written, a reply was read, not an empty one, and the connection was
closed without harm. -/
structure Carried (payload : Bytes) (t : List Event) (n : Nat) (reply : Bytes) : Prop where
  wrote : .write n payload (.ok payload.length) ∈ t
  read : ∃ limit, .read n limit (.ok reply) ∈ t
  filled : reply ≠ []
  closed : ∃ closing, .close n closing ∈ t ∧ Harmless closing

/-- The second event is no new attempt after a transfer. -/
def NoRetry (a b : Event) : Prop :=
  a.isTransfer = true → b.isOpening = false ∧ b.written? = none

/-- **A single exchange**: one connection and one payload at most, and after a write or a read
nothing is opened and nothing is written any more. -/
structure Single (payload : Bytes) (t : List Event) : Prop where
  one_open : (given t).length ≤ 1
  one_payload : written t = [] ∨ written t = [payload]
  no_retry : t.Pairwise NoRetry

/-- An exchange ends with this if it is not carried out: an error of the channel, or a mishap. -/
def Lost : Raised → Prop
  | .error (.channel _) | .mishap _ => True
  | .error _ => False

/-! ## Reaching the pipe -/

namespace Pipe

variable {σ : Type}

/-- The pipe was reached by the last attempt, or not at all: all that was done before is a miss. -/
def Reached (path : String) (before : List Event) (ends : Except Raised Connection)
    (events : List Event) : Prop :=
  ∃ misses : List Event, (∀ e ∈ misses, e.isMiss = true) ∧
    ((∃ c, ends = .ok c ∧ events = before ++ (misses ++ [.openPipe path (some c.number)])) ∨
      ∃ raised, ends = .error raised ∧ Lost raised ∧ events = before ++ misses)

/-- Some misses come first. -/
theorem Reached.later {path : String} {before early events : List Event}
    {ends : Except Raised Connection} (h : Reached path (before ++ early) ends events)
    (he : ∀ e ∈ early, e.isMiss = true) : Reached path before ends events := by
  obtain ⟨misses, hm, course⟩ := h
  refine ⟨early ++ misses, List.forall_mem_append.mpr ⟨he, hm⟩, ?_⟩
  simpa only [List.append_assoc] using course

/-- An attempt finds the pipe, or it is a miss. -/
theorem tryOpen_course (path : String) (o : Opening) (rest : List Opening) (s : Scene σ) :
    (∃ c, outcome (tryOpen path o rest) s = .ok (.ok c) ∧
      (after (tryOpen path o rest) s).world.events =
        s.world.events ++ [.openPipe path (some c.number)]) ∨
      ∃ fault, outcome (tryOpen path o rest) s = .ok (.error fault) ∧
        (after (tryOpen path o rest) s).world.events = s.world.events ++ [.openPipe path none] := by
  unfold tryOpen
  simp only [outcome_bind, after_bind, outcome_world, after_world, outcome_alter, after_alter]
  cases hr : o.result with
  | ok line =>
    simp only [outcome_pure, after_pure, World.opened, hr]
    exact .inl ⟨_, rfl, World.events_note _ _⟩
  | error m =>
    simp only [outcome_pure, after_pure, World.opened, hr]
    exact .inr ⟨_, rfl, World.events_note _ _⟩

/-- **The pipe is reached by the last attempt, or not at all**: all before it are misses. -/
theorem reach_course (path : String) (timeout deadline : Float) (openings : List Opening)
    (s : Scene σ) : Reached path s.world.events (outcome (reach path timeout deadline openings) s)
      (after (reach path timeout deadline openings) s).world.events := by
  have miss : ∀ e ∈ [Event.openPipe path none], e.isMiss = true := List.forall_mem_singleton.mpr rfl
  induction openings generalizing s with
  | nil => exact ⟨_, miss, .inr ⟨_, rfl, trivial, World.events_note _ _⟩⟩
  | cons o rest ih =>
    rw [reach, outcome_bind, after_bind]
    rcases tryOpen_course path o rest s with ⟨c, e, found⟩ | ⟨fault, e, missed⟩
    · rw [e]
      exact ⟨[], List.forall_mem_nil _, .inl ⟨c, rfl, found⟩⟩
    · rw [e]
      generalize after (tryOpen path o rest) s = here at missed
      cases fault with
      | busy =>
        simp only [outcome_bind, after_bind, outcome_world, after_world]
        split
        · exact ⟨_, miss, .inr ⟨_, rfl, trivial, missed⟩⟩
        · simp only [outcome_bind, after_bind]
          obtain ⟨pauses, waited, quiet⟩ := pauses_wait path (deadline - here.world.mono) here
          have early : ∀ e ∈ [.openPipe path none] ++ pauses, e.isMiss = true :=
            List.forall_mem_append.mpr
              ⟨miss, fun e he => Event.isMiss_of_isPause (quiet e he)⟩
          rw [missed, List.append_assoc] at waited
          rcases wait_cases path (deadline - here.world.mono) here with hw | ⟨m, hw⟩
          · rw [hw]
            refine Reached.later ?_ early
            rw [← waited]
            exact ih _
          · rw [hw]
            exact ⟨_, early, .inr ⟨_, rfl, trivial, waited⟩⟩
      | missing => exact ⟨_, miss, .inr ⟨_, rfl, trivial, missed⟩⟩
      | system fault => exact ⟨_, miss, .inr ⟨_, rfl, trivial, missed⟩⟩
      | other mishap => exact ⟨_, miss, .inr ⟨_, rfl, trivial, missed⟩⟩

end Pipe

namespace Session

/-! ## Using a connection -/

/-- What is transferred over a connection, and the reply, if one is read. -/
inductive Transfer (payload : Bytes) (n : Nat) : List Event → Option Bytes → Prop
  | refused {result} (h : result ≠ .ok (payload.length : Int)) :
      Transfer payload n [.write n payload result] none
  | unread (limit : Int) (m : Mishap) :
      Transfer payload n [.write n payload (.ok payload.length), .read n limit (.error m)] none
  | replied (limit : Int) (reply : Bytes) :
      Transfer payload n [.write n payload (.ok payload.length), .read n limit (.ok reply)]
        (some reply)

theorem lost_transferFault (m : Mishap) : Lost (transferFault m) := by
  cases m <;> trivial

/-- The whole payload is written, or the exchange is lost. -/
theorem write_course (c : Connection) (payload : Bytes) (s : Scene Session) :
    (after (write c payload) s).own = s.own ∧
      ((outcome (write c payload) s = .ok () ∧ (after (write c payload) s).world.events =
          s.world.events ++ [.write c.number payload (.ok payload.length)]) ∨
        ∃ raised result, outcome (write c payload) s = .error raised ∧ Lost raised ∧
          result ≠ .ok (payload.length : Int) ∧ (after (write c payload) s).world.events =
            s.world.events ++ [.write c.number payload result]) := by
  unfold write
  dsimp only
  cases c.line.writeFault with
  | some m =>
    exact ⟨rfl, .inr ⟨_, .error m, rfl, lost_transferFault m, nofun, World.events_note _ _⟩⟩
  | none =>
    simp only [outcome_bind, after_bind, outcome_note, after_note]
    by_cases whole : c.line.short = 0
    · rw [if_neg (not_not.mpr whole), whole, Int.sub_zero]
      exact ⟨rfl, .inl ⟨rfl, World.events_note _ _⟩⟩
    · rw [if_pos whole]
      refine ⟨rfl, .inr ⟨_, _, rfl, trivial, fun h => ?_, World.events_note _ _⟩⟩
      have same := Except.ok.inj h
      omega

/-- A reply is read, or the exchange is lost. -/
theorem read_course (c : Connection) (limit : Int) (s : Scene Session) :
    (after (read c limit) s).own = s.own ∧
      ((∃ reply, outcome (read c limit) s = .ok reply ∧ (after (read c limit) s).world.events =
          s.world.events ++ [.read c.number limit (.ok reply)]) ∨
        ∃ raised m, outcome (read c limit) s = .error raised ∧ Lost raised ∧
          (after (read c limit) s).world.events =
            s.world.events ++ [.read c.number limit (.error m)]) := by
  unfold read
  dsimp only
  cases c.line.readFault with
  | some m => exact ⟨rfl, .inr ⟨_, m, rfl, lost_transferFault m, World.events_note _ _⟩⟩
  | none => exact ⟨rfl, .inl ⟨_, rfl, World.events_note _ _⟩⟩

/-- Writes a payload and reads the reply. -/
def transfer (c : Connection) (payload : Bytes) (limit : Int) : Act Session Bytes := do
  write c payload
  read c limit

/-- A payload is written and a reply is read, or the exchange is lost. -/
theorem transfer_course (c : Connection) (payload : Bytes) (limit : Int) (s : Scene Session) :
    ∃ t reply?, Transfer payload c.number t reply? ∧
      (after (transfer c payload limit) s).own = s.own ∧
      (after (transfer c payload limit) s).world.events = s.world.events ++ t ∧
      match reply? with
      | some reply => outcome (transfer c payload limit) s = .ok reply
      | none => ∃ raised, outcome (transfer c payload limit) s = .error raised ∧ Lost raised := by
  simp only [transfer, outcome_bind, after_bind]
  rcases write_course c payload s with ⟨hw, ⟨e, wrote⟩ | ⟨raised, result, e, hl, hr, wrote⟩⟩
  · simp only [e]
    rcases read_course c limit (after (write c payload) s) with
      ⟨ho, ⟨reply, e', read⟩ | ⟨raised, m, e', hl, read⟩⟩
    · refine ⟨_, some reply, .replied limit reply, ho.trans hw, ?_, e'⟩
      rw [read, wrote, List.append_assoc]
      rfl
    · refine ⟨_, none, .unread limit m, ho.trans hw, ?_, raised, e', hl⟩
      rw [read, wrote, List.append_assoc]
      rfl
  · simp only [e]
    exact ⟨_, none, .refused hr, hw, wrote, raised, rfl, hl⟩

/-- The connection that is held is closed, with harm or without. -/
theorem close_course {c : Connection} {s : Scene Session} (held : s.own.connection = some c) :
    (after close s).world.events = s.world.events ++ [.close c.number c.line.closeFault] ∧
      (Harmless c.line.closeFault ∧ outcome close s = .ok () ∨
        ¬Harmless c.line.closeFault ∧ ∃ m, outcome close s = .error (.mishap m)) := by
  unfold close Harmless
  simp only [outcome_bind, after_bind, outcome_own, after_own, held, outcome_update, after_update,
    outcome_note, after_note]
  cases c.line.closeFault with
  | none => exact ⟨World.events_note _ _, .inl ⟨nofun, rfl⟩⟩
  | some m =>
    cases m with
    | os fault =>
      refine ⟨?_, .inl ⟨fun m hm => ⟨fault, (Option.some.inj hm).symm⟩, rfl⟩⟩
      rw [after_log, World.events_log, World.events_note]
    | _ =>
      refine ⟨World.events_note _ _, .inr ⟨fun h => ?_, _, rfl⟩⟩
      obtain ⟨fault, hf⟩ := h _ rfl
      exact nomatch hf

/-! ## The courses -/

/-- How a connection is had: it is held already, or the pipe is opened after some misses. -/
inductive Opens (n : Nat) : List Event → Prop
  | held : Opens n []
  | opened {misses} (path : String) (h : ∀ e ∈ misses, Event.isMiss e = true) :
      Opens n (misses ++ [.openPipe path (some n)])

/-- What an exchange ends with that was carried out and brought a reply. -/
def ending (size : Int) (reply : Bytes) : Except Raised Bytes :=
  if size < reply.length then .error (.error (.protocol (.oversized size))) else .ok reply

/-- The courses of an exchange over a session with a buffer of some size. -/
inductive Course (payload : Bytes) (size : Int) : List Event → Except Raised Bytes → Prop
  | unopened {misses raised} (h : ∀ e ∈ misses, Event.isMiss e = true) (hl : Lost raised) :
      Course payload size misses (.error raised)
  | lost {n opening t reply? closing raised} (ho : Opens n opening)
      (ht : Transfer payload n t reply?)
      (h : reply?.getD [] = [] ∨ ¬Harmless closing) (hl : Lost raised) :
      Course payload size (opening ++ (t ++ [.close n closing])) (.error raised)
  | carried {n opening t reply closing} (ho : Opens n opening)
      (ht : Transfer payload n t (some reply)) (hc : Harmless closing) (hr : reply ≠ []) :
      Course payload size (opening ++ (t ++ [.close n closing])) (ending size reply)

/-- A payload that is sent over the connection that is held takes the course of the connection. -/
theorem send_course {c : Connection} {s : Scene Session} (held : s.own.connection = some c)
    {opening : List Event} (ho : Opens c.number opening) (payload : Bytes) :
    ∃ t, (after (send payload) s).world.events = s.world.events ++ t ∧
      Course payload s.own.bufferSize (opening ++ t) (outcome (send payload) s) := by
  obtain ⟨t, reply?, ht, own, transferred, ends⟩ :=
    transfer_course c payload (s.own.bufferSize + 1) s
  have still : (after (transfer c payload (s.own.bufferSize + 1)) s).own.connection = some c := by
    rw [own]
    exact held
  obtain ⟨closed, harm⟩ := close_course still
  rw [transferred, List.append_assoc] at closed
  have both (limit : Int) : (do write c payload; read c limit) = transfer c payload limit := rfl
  simp only [send, both, outcome_bind, after_bind, outcome_own, after_own, held, after_ensure,
    outcome_ensure]
  rcases harm with ⟨hc, e⟩ | ⟨hc, m, e⟩
  · simp only [e]
    cases reply? with
    | none =>
      obtain ⟨raised, e', hl⟩ := ends
      simp only [e']
      exact ⟨_, closed, .lost ho ht (.inl rfl) hl⟩
    | some reply =>
      simp only [ends]
      by_cases hr : reply = []
      · subst hr
        exact ⟨_, closed, .lost ho ht (.inl rfl) trivial⟩
      · have course : Course payload s.own.bufferSize _ _ := .carried ho ht hc hr
        rw [if_neg (by simpa using hr)]
        by_cases hs : s.own.bufferSize < reply.length
        · rw [ending, if_pos hs] at course
          rw [if_pos hs]
          exact ⟨_, closed, course⟩
        · rw [ending, if_neg hs] at course
          rw [if_neg hs]
          exact ⟨_, closed, course⟩
  · simp only [e]
    exact ⟨_, closed, .lost ho ht (.inr hc) trivial⟩

/-- A session without a connection finds one after some misses, or the exchange is lost. -/
theorem connect_course (timeout : Float) {s : Scene Session} (shut : Shut s) :
    ∃ opening, (after (connect timeout) s).world.events = s.world.events ++ opening ∧
      (after (connect timeout) s).own.bufferSize = s.own.bufferSize ∧
      ((∃ c, outcome (connect timeout) s = .ok () ∧
          (after (connect timeout) s).own.connection = some c ∧ Opens c.number opening) ∨
        ∃ raised, outcome (connect timeout) s = .error raised ∧ Lost raised ∧
          ∀ e ∈ opening, Event.isMiss e = true) := by
  obtain ⟨misses, hm, course⟩ := Pipe.reach_course s.own.path timeout
    (s.world.mono + if 0.0 > timeout then 0.0 else timeout) s.world.pipe s
  have same := Pipe.after_reach_own s.own.path timeout
    (s.world.mono + if 0.0 > timeout then 0.0 else timeout) s.world.pipe s
  simp only [connect, outcome_bind, after_bind, close_of_shut shut, outcome_world, after_world, outcome_own,
    after_own]
  rcases course with ⟨c, e, found⟩ | ⟨raised, e, hl, missed⟩
  · simp only [e, outcome_update, after_update, outcome_log, after_log, World.events_log]
    exact ⟨_, found, by rw [same], .inl ⟨c, trivial, rfl, .opened _ hm⟩⟩
  · simp only [e]
    exact ⟨_, missed, by rw [same], .inr ⟨raised, rfl, hl, hm⟩⟩

/-- **Every exchange takes one of the courses**, behind the mark of its beginning. -/
theorem exchange_course (payload : Bytes) (timeout : Float) (s : Scene Session) :
    ∃ t, (after (exchange payload timeout) s).world.events =
        s.world.events ++ .exchange payload :: t ∧
      Course payload s.own.bufferSize t (outcome (exchange payload timeout) s) := by
  let begun : Scene Session := { s with world := s.world.note (.exchange payload) }
  have mark : begun.world.events = s.world.events ++ [.exchange payload] := World.events_note _ _
  have behind {t : Scene Session} {new : List Event}
      (h : t.world.events = begun.world.events ++ new) :
      t.world.events = s.world.events ++ .exchange payload :: new := by
    rw [h, mark, List.append_assoc]
    rfl
  simp only [exchange, outcome_bind, after_bind, outcome_note, after_note, outcome_own, after_own]
  by_cases held : s.own.isOpen = true
  · obtain ⟨c, hc⟩ := Option.isSome_iff_exists.mp held
    have now : begun.own.connection = some c := hc
    obtain ⟨t, ht, course⟩ := send_course now .held payload
    rw [if_pos held]
    exact ⟨t, behind ht, course⟩
  · have shut : Shut begun := by simpa [Shut, isOpen] using held
    obtain ⟨opening, hs, size, ⟨c, e, now, ho⟩ | ⟨raised, e, hl, hm⟩⟩ := connect_course timeout shut
    all_goals
      rw [if_neg held, outcome_bind, after_bind]
      simp only [begun] at e
      simp only [e]
    · obtain ⟨t, ht, course⟩ := send_course now ho payload
      rw [size] at course
      rw [hs, List.append_assoc] at ht
      exact ⟨_, behind ht, course⟩
    · exact ⟨_, behind hs, .unopened hm hl⟩

/-! ## What the courses have in common -/

section Common

variable {payload : Bytes} {n : Nat} {size : Int} {t opening : List Event} {reply? : Option Bytes}
  {closing : Option Mishap}

/-- An event that is no attempt to open the pipe, and no pause, does not belong to the opening. -/
theorem Opens.not_mem (ho : Opens n opening) {e : Event} (hm : e.isMiss = false)
    (hp : e.isOpening = false) : e ∉ opening := by
  cases ho with
  | held => exact List.not_mem_nil
  | opened path h =>
    intro he
    rcases List.mem_append.mp he with he | he
    · exact Bool.false_ne_true (hm.symm.trans (h e he))
    · rw [List.mem_singleton.mp he] at hp
      exact nomatch hp

/-- What is no part of the opening is transferred or closes the connection. -/
theorem Opens.mem_course (ho : Opens n opening) {e : Event} (hm : e.isMiss = false)
    (hp : e.isOpening = false) (he : e ∈ opening ++ (t ++ [.close n closing])) :
    e ∈ t ∨ e = .close n closing := by
  rcases List.mem_append.mp he with he | he
  · exact absurd he (ho.not_mem hm hp)
  · exact (List.mem_append.mp he).imp id List.mem_singleton.mp

/-- What is read over a connection is the reply. -/
theorem Transfer.read_eq (ht : Transfer payload n t reply?) {m : Nat} {limit : Int} {reply : Bytes}
    (h : .read m limit (.ok reply) ∈ t) : reply? = some reply := by
  cases ht with
  | refused hr => simp at h
  | unread limit m => simp at h
  | replied limit reply' =>
    rcases List.mem_cons.mp h with h | h
    · cases h
    · cases List.mem_singleton.mp h
      rfl

/-- Nothing is closed by a transfer. -/
theorem Transfer.no_close (ht : Transfer payload n t reply?) {m : Nat} {closing : Option Mishap} :
    .close m closing ∉ t := by
  cases ht <;> simp

/-- Where there is a reply, the whole payload was written and the reply was read. -/
theorem Transfer.wrote (ht : Transfer payload n t reply?) {reply : Bytes}
    (h : reply? = some reply) :
    .write n payload (.ok payload.length) ∈ t ∧ ∃ limit, .read n limit (.ok reply) ∈ t := by
  cases ht with
  | refused hr => cases h
  | unread limit m => cases h
  | replied limit reply' =>
    cases h
    exact ⟨List.mem_cons_self, limit, List.mem_cons_of_mem _ List.mem_cons_self⟩

theorem Transfer.carried (ht : Transfer payload n t reply?) {reply : Bytes}
    (h : reply? = some reply) (hr : reply ≠ []) (hc : Harmless closing) :
    Carried payload (opening ++ (t ++ [.close n closing])) n reply := by
  obtain ⟨wrote, limit, read⟩ := ht.wrote h
  have within {e : Event} (he : e ∈ t ++ [.close n closing]) :
      e ∈ opening ++ (t ++ [.close n closing]) := List.mem_append_right _ he
  refine ⟨within (List.mem_append_left _ wrote), ⟨limit, within (List.mem_append_left _ read)⟩, hr,
    closing, within (List.mem_append_right _ List.mem_cons_self), hc⟩

/-- Misses open nothing, write nothing and transfer nothing. -/
theorem misses_idle {misses : List Event} (h : ∀ e ∈ misses, Event.isMiss e = true) :
    given misses = [] ∧ written misses = [] ∧ ∀ e ∈ misses, e.isTransfer = false := by
  refine ⟨List.filterMap_eq_nil_iff.mpr fun e he => ?_,
    List.filterMap_eq_nil_iff.mpr fun e he => ?_, fun e he => ?_⟩
  all_goals
    have miss := h e he
    unfold Event.isMiss at miss
    split at miss
    all_goals first | rfl | cases miss

/-- An opening gives one connection at most, and writes and transfers nothing. -/
theorem Opens.idle (ho : Opens n opening) :
    (given opening).length ≤ 1 ∧ written opening = [] ∧ ∀ e ∈ opening, e.isTransfer = false := by
  cases ho with
  | held => exact ⟨Nat.zero_le _, rfl, List.forall_mem_nil _⟩
  | opened path h =>
    obtain ⟨none, unwritten, idle⟩ := misses_idle h
    refine ⟨?_, ?_, fun e he => ?_⟩
    · rw [given_append, none]
      exact Nat.le_refl 1
    · rw [written, List.filterMap_append, ← written, unwritten]
      rfl
    · rcases List.mem_append.mp he with he | he
      · exact idle e he
      · rw [List.mem_singleton.mp he]
        rfl

/-- Where nothing is transferred nothing is tried after it. -/
theorem noRetry_of_idle {t : List Event} (h : ∀ e ∈ t, e.isTransfer = false) (u : List Event) :
    t.Pairwise NoRetry ∧ ∀ a ∈ t, ∀ b ∈ u, NoRetry a b := by
  have never {a b : Event} (ha : a ∈ t) : NoRetry a b := fun ht =>
    absurd ht (by simp [h a ha])
  have distinct : t.Pairwise fun _ _ => True := List.pairwise_of_forall fun _ _ => trivial
  exact ⟨distinct.imp_of_mem fun ha _ _ => never ha, fun a ha b _ => never ha⟩

/-- Misses are a single exchange that came to nothing. -/
theorem single_of_misses {misses : List Event} (h : ∀ e ∈ misses, Event.isMiss e = true) :
    Single payload misses := by
  obtain ⟨none, unwritten, idle⟩ := misses_idle h
  exact ⟨by simp [none], .inl unwritten, (noRetry_of_idle idle []).1⟩

/-- An opening, a transfer and a close are a single exchange. -/
theorem Transfer.single (ht : Transfer payload n t reply?) (ho : Opens n opening) :
    Single payload (opening ++ (t ++ [.close n closing])) := by
  obtain ⟨one, unwritten, idle⟩ := ho.idle
  have rest : given (t ++ [.close n closing]) = [] ∧
      written (t ++ [.close n closing]) = [payload] ∧
      List.Pairwise NoRetry (t ++ [.close n closing]) := by
    cases ht <;> simp [given, written, NoRetry, Event.written?, Event.isOpening]
  obtain ⟨none, payloads, pairs⟩ := rest
  obtain ⟨before, across⟩ := noRetry_of_idle idle (t ++ [.close n closing])
  refine ⟨?_, .inr ?_, List.pairwise_append.mpr ⟨before, pairs, across⟩⟩
  · rw [given_append, none, List.append_nil]
    exact one
  · rw [written, List.filterMap_append, ← written, ← written, unwritten, payloads]
    rfl

end Common

variable {payload : Bytes} {size : Int} {t : List Event} {result : Except Raised Bytes}

/-- The reply that was read in the course of an exchange. -/
def Replied (t : List Event) (reply : Bytes) : Prop := ∃ n limit, .read n limit (.ok reply) ∈ t

/-- **An exchange is carried out or lost.** -/
theorem Course.cases (h : Course payload size t result) :
    (∃ n reply, Carried payload t n reply ∧ (∀ reply', Replied t reply' → reply' = reply) ∧
        result = ending size reply) ∨
      (∀ n reply, ¬Carried payload t n reply) ∧ ∃ raised, result = .error raised ∧ Lost raised := by
  cases h with
  | unopened hm hl =>
    refine .inr ⟨fun n reply hc => ?_, _, rfl, hl⟩
    exact Bool.false_ne_true (hm _ hc.wrote)
  | @lost n opening t reply? closing raised ho ht hn hl =>
    refine .inr ⟨fun m reply hc => ?_, raised, rfl, hl⟩
    obtain ⟨limit, read⟩ := hc.read
    obtain ⟨closing', closed, harmless⟩ := hc.closed
    have got : reply? = some reply :=
      ht.read_eq ((ho.mem_course rfl rfl read).resolve_right nofun)
    have same : closing' = closing := by
      rcases ho.mem_course rfl rfl closed with he | he
      · exact absurd he ht.no_close
      · cases he
        rfl
    rcases hn with hn | hn
    · rw [got] at hn
      exact hc.filled hn
    · exact hn (same ▸ harmless)
  | @carried n opening t reply closing ho ht hc hr =>
    refine .inl ⟨n, reply, ht.carried rfl hr hc, ?_, rfl⟩
    rintro reply' ⟨m, limit, read⟩
    have got := ht.read_eq ((ho.mem_course rfl rfl read).resolve_right nofun)
    exact (Option.some.inj got).symm

/-- All that happens in the course of an exchange are calls to the pipe. -/
theorem Course.isPipe (h : Course payload size t result) : ∀ e ∈ t, e.isPipe = true := by
  have opened {n : Nat} {opening : List Event} (ho : Opens n opening) :
      ∀ e ∈ opening, e.isPipe = true := by
    cases ho with
    | held => exact List.forall_mem_nil _
    | opened path h =>
      exact List.forall_mem_append.mpr
        ⟨fun e he => Event.isPipe_of_isMiss (h e he), List.forall_mem_singleton.mpr rfl⟩
  have whole {n : Nat} {opening t : List Event} {reply? : Option Bytes} {closing : Option Mishap}
      (ho : Opens n opening) (ht : Transfer payload n t reply?) :
      ∀ e ∈ opening ++ (t ++ [.close n closing]), e.isPipe = true := by
    refine List.forall_mem_append.mpr ⟨opened ho, ?_⟩
    cases ht <;> simp [Event.isPipe]
  cases h with
  | unopened hm hl => exact fun e he => Event.isPipe_of_isMiss (hm e he)
  | lost ho ht hn hl => exact whole ho ht
  | carried ho ht hc hr => exact whole ho ht

/-- A reply comes of an exchange if and only if it was carried out and the reply fits. -/
theorem Course.ok_iff (h : Course payload size t result) (p : Bytes → Prop) :
    (∃ raw, result = .ok raw ∧ p raw) ↔
      ∃ n reply, Carried payload t n reply ∧ (reply.length : Int) ≤ size ∧ p reply := by
  rcases h.cases with ⟨n, reply, carried, sole, rfl⟩ | ⟨never, raised, rfl, -⟩
  · unfold ending
    constructor
    · rintro ⟨raw, e, hp⟩
      split at e
      · cases e
      · rename_i fits
        obtain rfl := Except.ok.inj e
        exact ⟨n, reply, carried, Int.not_lt.mp fits, hp⟩
    · rintro ⟨m, reply', carried', fits, hp⟩
      obtain ⟨limit, read⟩ := carried'.read
      obtain rfl := sole reply' ⟨m, limit, read⟩
      exact ⟨reply', if_neg (Int.not_lt.mpr fits), hp⟩
  · exact ⟨nofun, fun ⟨n, reply, whole, _⟩ => absurd whole (never n reply)⟩

/-- **No course tries anything twice.** -/
theorem Course.single (h : Course payload size t result) : Single payload t := by
  cases h with
  | unopened hm hl => exact single_of_misses hm
  | lost ho ht hn hl => exact ht.single ho
  | carried ho ht hc hr => exact ht.single ho

end Session

end Vigil
