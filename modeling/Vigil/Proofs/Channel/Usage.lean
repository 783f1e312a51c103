import Mathlib.Data.List.Induction
import Vigil.World.Event

/-!
# How a pipe may be used

The journal of a session says what was done with every connection of the pipe. `Usage` is the
grammar of the journals in which a connection carries one request and its reply: each rule adds
one event at the end, and the stage says how far the connection that is open has come.

* `Usage.known`: what is known of a journal when its connection has come to a stage; the one that
  is unclosed is the one that the stage names.
* `Usage.connectPerCall`: what the grammar comes to, said of the journal alone.
-/

namespace Vigil

/-! ## What a journal says of a connection -/

namespace Event

/-- The connection of the pipe that an event is about. -/
def line? : Event → Option Nat
  | .openPipe _ line => line
  | .write line .. | .read line .. | .close line _ => some line
  | _ => none

/-- Whether an event is an attempt to open the pipe. -/
def isOpening : Event → Bool
  | .openPipe .. => true
  | _ => false

/-- Whether an event is a write to a connection. -/
def isWrite (n : Nat) : Event → Bool
  | .write line .. => line == n
  | _ => false

/-- Whether an event is a read from a connection. -/
def isRead (n : Nat) : Event → Bool
  | .read line .. => line == n
  | _ => false

/-- Whether an event is the close of a connection. -/
def isClose (n : Nat) : Event → Bool
  | .close line _ => line == n
  | _ => false

/-- An event that is not about a connection does nothing with it. -/
theorem untouched {e : Event} {n : Nat} (h : e.line? ≠ some n) :
    e.isWrite n = false ∧ e.isRead n = false ∧ e.isClose n = false := by
  cases e <;> simp_all [line?, isWrite, isRead, isClose]

end Event

/-- The connections that were given out, in this order. -/
def given (t : List Event) : List Nat :=
  t.filterMap fun
    | .openPipe _ line => line
    | _ => none

/-- The connections that were given out and not closed, whatever came of a close. -/
def unclosed (t : List Event) : List Nat := (given t).filter fun n => !t.any (·.isClose n)

/-- **Connect per call**, as a property of a journal. -/
structure ConnectPerCall (t : List Event) : Prop where
  given_once : (given t).Nodup
  one_write : ∀ n, t.countP (·.isWrite n) ≤ 1
  one_read : ∀ n, t.countP (·.isRead n) ≤ 1
  one_close : ∀ n, t.countP (·.isClose n) ≤ 1
  /-- A connection is read from only after it took a whole payload. -/
  read_after_write : ∀ {before n limit r later}, t = before ++ .read n limit r :: later →
    ∃ payload, .write n payload (.ok payload.length) ∈ before
  /-- Nothing is done with a connection after its close. -/
  nothing_after_close : ∀ {before n r later}, t = before ++ .close n r :: later →
    ∀ e ∈ later, e.line? ≠ some n
  /-- Every connection is closed before the pipe is opened again. -/
  closed_before_open : ∀ {before path line later}, t = before ++ .openPipe path line :: later →
    unclosed before = []
  one_unclosed : ∀ {before later}, t = before ++ later → (unclosed before).length ≤ 1

/-! ## The grammar -/

/-- How far the connection that is open has come: it carries nothing yet, it took a whole payload,
or it is done with. -/
inductive Stage where
  | idle
  | fresh (n : Nat)
  | sent (n : Nat)
  | spent (n : Nat)

/-- The connection that is open. -/
def Stage.line? : Stage → Option Nat
  | .idle => none
  | .fresh n | .sent n | .spent n => some n

/-- The journals in which every connection carries one request and its reply. Connections are
numbered from `first` on, and `next` is the number of the next one. -/
inductive Usage (first : Nat) : List Event → (next : Nat) → Stage → Prop
  | nothing : Usage first [] first .idle
  | missed {t next path} (h : Usage first t next .idle) :
      Usage first (t ++ [.openPipe path none]) next .idle
  | opened {t next path} (h : Usage first t next .idle) :
      Usage first (t ++ [.openPipe path (some next)]) (next + 1) (.fresh next)
  | sent {t next n payload} (h : Usage first t next (.fresh n)) :
      Usage first (t ++ [.write n payload (.ok payload.length)]) next (.sent n)
  | failed {t next n payload r} (h : Usage first t next (.fresh n)) :
      Usage first (t ++ [.write n payload r]) next (.spent n)
  | read {t next n limit r} (h : Usage first t next (.sent n)) :
      Usage first (t ++ [.read n limit r]) next (.spent n)
  | closed {t next stage n r} (h : Usage first t next stage) (hn : stage.line? = some n) :
      Usage first (t ++ [.close n r]) next .idle
  | aside {t next stage e} (h : Usage first t next stage) (he : e.line? = none)
      (ho : e.isOpening = false) : Usage first (t ++ [e]) next stage

/-! ## Journals that grow at their end -/

theorem given_append (t u : List Event) : given (t ++ u) = given t ++ given u := by
  simp [given]

/-- What holds of every event of a journal and of the one that is added holds of them all. -/
theorem forall_mem_snoc {p : Event → Prop} {t : List Event} {e : Event} (ht : ∀ d ∈ t, p d)
    (he : p e) : ∀ d ∈ t ++ [e], p d := by
  intro d hd
  rcases List.mem_append.mp hd with hd | hd
  · exact ht d hd
  · obtain rfl := List.mem_singleton.mp hd
    exact he

theorem mem_unclosed {t : List Event} {n : Nat} :
    n ∈ unclosed t ↔ n ∈ given t ∧ ∀ e ∈ t, e.isClose n = false := by
  simp [unclosed]

/-- An event that neither opens nor closes leaves open what is open. -/
theorem unclosed_append_of_quiet {t : List Event} {e : Event} (hg : given [e] = [])
    (hc : ∀ n, e.isClose n = false) : unclosed (t ++ [e]) = unclosed t := by
  simp [unclosed, given_append, hg, hc]

/-- A predicate that no event meets after another one that met it counts at most one event. -/
theorem countP_le_one {p : Event → Bool} {t : List Event}
    (h : ∀ {before e later}, t = before ++ e :: later → p e = true → ∀ d ∈ before, p d = false) :
    t.countP p ≤ 1 := by
  induction t using List.reverseRecOn with
  | nil => simp
  | append_singleton t e ih =>
    have ih := ih fun {before d later} hs hp => by
      have hs : t ++ [e] = before ++ d :: (later ++ [e]) := by simp [hs]
      exact h hs hp
    rw [List.countP_append]
    by_cases hp : p e = true
    · have h0 : t.countP p = 0 := List.countP_eq_zero.mpr fun d hd => by
        simpa using h (rfl : t ++ [e] = t ++ e :: []) hp d hd
      rw [h0]
      simp [hp]
    · simpa [hp] using ih

/-- A new connection is open besides those that are. -/
theorem unclosed_opened {t : List Event} {path : String} {n : Nat}
    (hn : ∀ e ∈ t, e.isClose n = false) :
    unclosed (t ++ [.openPipe path (some n)]) = unclosed t ++ [n] := by
  have hc : ∀ m, (t ++ [Event.openPipe path (some n)]).any (·.isClose m) =
      t.any (·.isClose m) := fun m => by simp [Event.isClose]
  have hany : t.any (·.isClose n) = false := by simpa using hn
  simp only [unclosed, given_append, hc, List.filter_append]
  simp [given, hany]

/-- The only connection that is open can be closed. -/
theorem unclosed_closed {t : List Event} {n : Nat} {r : Option Mishap} (h : unclosed t = [n]) :
    unclosed (t ++ [.close n r]) = [] := by
  rw [List.eq_nil_iff_forall_not_mem]
  intro m hm
  rw [mem_unclosed, given_append] at hm
  obtain ⟨hg, hc⟩ := hm
  have hmn : m ∈ unclosed t := mem_unclosed.mpr
    ⟨by simpa [given] using hg, fun e he => hc e (List.mem_append_left _ he)⟩
  rw [h, List.mem_singleton] at hmn
  subst hmn
  simpa [Event.isClose] using hc (.close m r) (by simp)

/-! ## What the grammar keeps -/

/-- What is known of a journal when its connection has come to a stage. -/
structure Usage.Known (t : List Event) (next : Nat) (stage : Stage) : Prop where
  below : ∀ n ∈ given t, n < next
  nodup : (given t).Nodup
  unclosed_eq : unclosed t = stage.line?.toList
  about_given : ∀ e ∈ t, ∀ n, e.line? = some n → n ∈ given t
  unwritten : ∀ n, stage = .fresh n → ∀ e ∈ t, e.isWrite n = false
  unread : ∀ n, stage = .fresh n ∨ stage = .sent n → ∀ e ∈ t, e.isRead n = false
  written : ∀ n, stage = .sent n → ∃ payload, .write n payload (.ok payload.length) ∈ t

variable {first next : Nat} {t : List Event} {stage : Stage}

/-- An event that neither opens nor closes changes nothing but what its connection carried. -/
theorem Usage.Known.quiet {e : Event} {stage' : Stage} (k : Usage.Known t next stage)
    (hg : given [e] = []) (hc : ∀ n, e.isClose n = false) (hl : stage'.line? = stage.line?)
    (he : ∀ n, e.line? = some n → stage.line? = some n)
    (unwritten : ∀ n, stage' = .fresh n → ∀ d ∈ t ++ [e], d.isWrite n = false)
    (unread : ∀ n, stage' = .fresh n ∨ stage' = .sent n → ∀ d ∈ t ++ [e], d.isRead n = false)
    (written : ∀ n, stage' = .sent n →
      ∃ payload, .write n payload (.ok payload.length) ∈ t ++ [e]) :
    Usage.Known (t ++ [e]) next stage' := by
  have hgiven : given (t ++ [e]) = given t := by rw [given_append, hg, List.append_nil]
  have hopen : unclosed (t ++ [e]) = unclosed t := unclosed_append_of_quiet hg hc
  refine ⟨?_, ?_, ?_, ?_, unwritten, unread, written⟩
  · rw [hgiven]
    exact k.below
  · rw [hgiven]
    exact k.nodup
  · rw [hopen, k.unclosed_eq, hl]
  · rw [hgiven]
    refine forall_mem_snoc k.about_given fun n hn => ?_
    have hmem : n ∈ unclosed t := by simp [k.unclosed_eq, he n hn]
    exact (mem_unclosed.mp hmem).1

/-- The next connection is new, so that nothing was done with it before it was opened. -/
theorem Usage.Known.opened {path : String} (k : Usage.Known t next .idle) :
    Usage.Known (t ++ [.openPipe path (some next)]) (next + 1) (.fresh next) := by
  have hnew : next ∉ given t := fun hm => Nat.lt_irrefl _ (k.below _ hm)
  have habout : ∀ e ∈ t, e.line? ≠ some next := fun e he hl => hnew (k.about_given e he _ hl)
  have hgiven : given (t ++ [.openPipe path (some next)]) = given t ++ [next] := given_append _ _
  refine ⟨?_, ?_, ?_, ?_, ?_, ?_, nofun⟩
  · intro n hn
    rw [hgiven, List.mem_append, List.mem_singleton] at hn
    rcases hn with hn | rfl
    · exact Nat.lt_succ_of_lt (k.below n hn)
    · exact Nat.lt_succ_self _
  · rw [hgiven, List.nodup_append]
    refine ⟨k.nodup, by simp, fun a ha b hb => ?_⟩
    rw [List.mem_singleton] at hb
    exact fun hab => hnew (hb ▸ hab ▸ ha)
  · rw [unclosed_opened fun e he => (Event.untouched (habout e he)).2.2, k.unclosed_eq]
    rfl
  · rw [hgiven]
    refine forall_mem_snoc (fun e he n hn => ?_) fun n hn => ?_
    · exact List.mem_append_left _ (k.about_given e he n hn)
    · cases hn
      exact List.mem_append_right _ (List.mem_singleton_self _)
  · intro n hn
    cases hn
    exact forall_mem_snoc (fun e he => (Event.untouched (habout e he)).1) rfl
  · intro n hn
    obtain rfl : next = n := by simpa using hn
    exact forall_mem_snoc (fun e he => (Event.untouched (habout e he)).2.1) rfl

theorem Usage.Known.closed {n : Nat} {r : Option Mishap} (k : Usage.Known t next stage)
    (hn : stage.line? = some n) : Usage.Known (t ++ [.close n r]) next .idle := by
  have hgiven : given (t ++ [.close n r]) = given t := by simp [given]
  have hopen : unclosed t = [n] := by
    rw [k.unclosed_eq, hn]
    rfl
  refine ⟨?_, ?_, ?_, ?_, nofun, fun n h => by simp at h, nofun⟩
  · rw [hgiven]
    exact k.below
  · rw [hgiven]
    exact k.nodup
  · exact unclosed_closed hopen
  · rw [hgiven]
    refine forall_mem_snoc k.about_given fun m hm => ?_
    cases hm
    exact (mem_unclosed.mp (hopen ▸ List.mem_singleton_self _)).1

theorem Usage.Known.aside {e : Event} (k : Usage.Known t next stage) (he : e.line? = none)
    (ho : e.isOpening = false) : Usage.Known (t ++ [e]) next stage := by
  have hu := fun n => Event.untouched (e := e) (n := n) (by simp [he])
  have hg : given [e] = [] := by cases e <;> simp_all [given, Event.isOpening]
  refine k.quiet hg (fun n => (hu n).2.2) rfl (fun n hn => by simp [he] at hn) ?_ ?_ ?_
  · exact fun n hn => forall_mem_snoc (k.unwritten n hn) (hu n).1
  · exact fun n hn => forall_mem_snoc (k.unread n hn) (hu n).2.1
  · intro n hn
    obtain ⟨payload, hp⟩ := k.written n hn
    exact ⟨payload, List.mem_append_left _ hp⟩

/-- What is known of every journal of the grammar. -/
theorem Usage.known (h : Usage first t next stage) : Usage.Known t next stage := by
  induction h with
  | nothing =>
    exact ⟨List.forall_mem_nil _, List.nodup_nil, rfl, List.forall_mem_nil _, nofun,
      fun n h => by simp at h, nofun⟩
  | missed h k =>
    exact k.quiet rfl (fun _ => rfl) rfl nofun nofun (fun n h => by simp at h) nofun
  | opened h k => exact k.opened
  | sent h k =>
    refine k.quiet rfl (fun _ => rfl) rfl (fun n hn => hn) nofun (fun n hn => ?_) (fun n hn => ?_)
    · exact forall_mem_snoc (k.unread n (by simpa using hn)) rfl
    · cases hn
      exact ⟨_, List.mem_append_right _ (List.mem_singleton_self _)⟩
  | failed h k =>
    exact k.quiet rfl (fun _ => rfl) rfl (fun n hn => hn) nofun (fun n h => by simp at h) nofun
  | read h k =>
    exact k.quiet rfl (fun _ => rfl) rfl (fun n hn => hn) nofun (fun n h => by simp at h) nofun
  | closed h hn k => exact k.closed hn
  | aside h he ho k => exact k.aside he ho

/-! ## What the grammar comes to -/

/-- What is true of an event when it comes after a journal. -/
structure Allowed (before : List Event) (e : Event) : Prop where
  opening : e.isOpening = true → unclosed before = [] ∧ ∀ n, e.line? = some n → n ∉ given before
  held : e.isOpening = false → ∀ n, e.line? = some n → n ∈ unclosed before
  write_once : ∀ n, e.isWrite n = true → ∀ d ∈ before, d.isWrite n = false
  read_once : ∀ n, e.isRead n = true → (∀ d ∈ before, d.isRead n = false) ∧
    ∃ payload, .write n payload (.ok payload.length) ∈ before

/-- What a rule adds is allowed after the journal that it adds to. -/
theorem Usage.Known.allowed {e : Event} (k : Usage.Known t next stage)
    (opening : e.isOpening = true → stage = .idle ∧ ∀ n, e.line? = some n → n = next)
    (held : e.isOpening = false → ∀ n, e.line? = some n → stage.line? = some n)
    (write : ∀ n, e.isWrite n = true → stage = .fresh n)
    (read : ∀ n, e.isRead n = true → stage = .sent n) : Allowed t e := by
  refine ⟨fun ho => ?_, fun ho n hn => ?_, fun n hn => ?_, fun n hn => ?_⟩
  · obtain ⟨rfl, hnext⟩ := opening ho
    refine ⟨k.unclosed_eq, fun n hn hg => ?_⟩
    exact Nat.lt_irrefl _ (hnext n hn ▸ k.below n hg)
  · simp [k.unclosed_eq, held ho n hn]
  · exact k.unwritten n (write n hn)
  · exact ⟨k.unread n (.inr (read n hn)), k.written n (read n hn)⟩

/-- **Every event is allowed** after those before it, which are a journal of the grammar
themselves. -/
theorem Usage.of_append_singleton {e : Event} (h : Usage first (t ++ [e]) next stage) :
    (∃ next stage, Usage first t next stage) ∧ Allowed t e := by
  generalize hu : t ++ [e] = u at h
  cases h with
  | nothing => simp at hu
  | missed h | opened h | sent h | failed h | read h | closed h _ =>
    obtain ⟨rfl, he⟩ := List.append_inj' hu rfl
    obtain rfl := List.singleton_inj.mp he
    refine ⟨⟨_, _, h⟩, h.known.allowed ?_ ?_ ?_ ?_⟩ <;>
      simp_all [Event.isOpening, Event.line?, Event.isWrite, Event.isRead, Stage.line?]
  | aside h hl ho =>
    obtain ⟨rfl, he⟩ := List.append_inj' hu rfl
    obtain rfl := List.singleton_inj.mp he
    refine ⟨⟨_, _, h⟩, h.known.allowed ?_ ?_ ?_ ?_⟩
    · simp [ho]
    · simp [hl]
    all_goals
      intro n hn
      cases e <;> simp_all [Event.line?, Event.isWrite, Event.isRead]

/-- Every beginning of a journal of the grammar is one. -/
theorem Usage.of_append {u : List Event} (h : Usage first (t ++ u) next stage) :
    ∃ next stage, Usage first t next stage := by
  induction u using List.reverseRecOn generalizing next stage with
  | nil => exact ⟨next, stage, by simpa using h⟩
  | append_singleton u e ih =>
    rw [← List.append_assoc] at h
    obtain ⟨_, _, h⟩ := h.of_append_singleton.1
    exact ih h

/-- Whatever stands in a journal of the grammar is allowed there. -/
theorem Usage.allowed {e : Event} {later : List Event}
    (h : Usage first (t ++ e :: later) next stage) : Allowed t e := by
  rw [List.append_cons] at h
  obtain ⟨_, _, h⟩ := h.of_append
  exact h.of_append_singleton.2

/-- **The grammar is connect per call.** -/
theorem Usage.connectPerCall (h : Usage first t next stage) : ConnectPerCall t where
  given_once := h.known.nodup
  one_write n := countP_le_one fun hs hp => (hs ▸ h).allowed.write_once n hp
  one_read n := countP_le_one fun hs hp => ((hs ▸ h).allowed.read_once n hp).1
  one_close n := countP_le_one fun {before e later} hs hp d hd => by
    have allowed : Allowed before e := (hs ▸ h).allowed
    have hl : e.isOpening = false ∧ e.line? = some n := by
      cases e <;> simp_all [Event.isOpening, Event.isClose, Event.line?]
    exact (mem_unclosed.mp (allowed.held hl.1 n hl.2)).2 d hd
  read_after_write hs := ((hs ▸ h).allowed.read_once _ (by simp [Event.isRead])).2
  nothing_after_close {before n r later} hs e he hn := by
    obtain ⟨u, v, rfl⟩ := List.append_of_mem he
    rw [hs, ← List.cons_append, ← List.append_assoc] at h
    obtain ⟨_, _, hu⟩ := h.of_append
    have hgiven : n ∈ given (before ++ .close n r :: u) :=
      hu.known.about_given (.close n r) (by simp) n rfl
    cases ho : e.isOpening with
    | true => exact (h.allowed.opening ho).2 n hn hgiven
    | false => simpa [Event.isClose] using
        (mem_unclosed.mp (h.allowed.held ho n hn)).2 (.close n r) (by simp)
  closed_before_open hs := ((hs ▸ h).allowed.opening rfl).1
  one_unclosed hs := by
    obtain ⟨_, stage, h⟩ := (hs ▸ h).of_append
    rw [h.known.unclosed_eq]
    cases stage <;> simp [Stage.line?]

end Vigil
