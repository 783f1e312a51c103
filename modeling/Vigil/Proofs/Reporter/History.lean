/-!
# Histories of reporters

What happened to a set of reporters, turn by turn, told without the reporters: what was asked of
them, which intervals elapsed, and which heartbeats began. `History.listed` is the ordered set of
ids that such a history leads to; a start adds an id at the end unless it is there, a stop takes it
out. A history is *orderly* if every heartbeat began at once when it was due and at no other time,
and all questions were answered by that set.

* `History.mem_listed_iff`: the ids listed are those started and not stopped since.
* `History.mem_posts_iff`: the start that an id is listed for is the latest one that succeeded.
* `History.Orderly.count_send`: as many heartbeats as successful starts and intervals that elapsed.
* `History.Orderly.started_since`: no heartbeat between a stop and the next successful start.
-/

namespace Vigil

/-- What may happen to reporters. What is asked of them comes with the answer, except for a start:
its heartbeat comes before its answer. -/
inductive Turn where
  | start (id : String)
  | stop (id : String) (answer : Bool)
  | stopAll
  | isRunning (id : String) (answer : Bool)
  /-- An interval of the reporter of an id elapsed, if one waited. -/
  | elapse (id : String)
  /-- A heartbeat began. -/
  | send (id : String)
  deriving Repr, DecidableEq

namespace Turn

/-- Whether a turn stops the reporter of an id, if there is one. -/
def stops (id : String) : Turn → Bool
  | .stop i _ => i = id
  | .stopAll => true
  | _ => false

/-- Whether a heartbeat may follow from a turn. -/
def rouses : Turn → Bool
  | .start _ | .elapse _ => true
  | _ => false

end Turn

/-- What happened to the reporters so far, the latest turn first. -/
abbrev History := List Turn

namespace History

/-- The ids started and not stopped since, in the order of their latest successful start. -/
def listed : History → List String
  | [] => []
  | .start id :: earlier => if id ∈ listed earlier then listed earlier else listed earlier ++ [id]
  | .stop id _ :: earlier => (listed earlier).filter (· ≠ id)
  | .stopAll :: _ => []
  | _ :: earlier => listed earlier

/-- The ids of all starts that succeeded, in this order. -/
def begun : History → List String
  | [] => []
  | .start id :: earlier => if id ∈ listed earlier then begun earlier else begun earlier ++ [id]
  | _ :: earlier => begun earlier

/-- The ids of all intervals that elapsed while a reporter waited, in this order. -/
def expired : History → List String
  | [] => []
  | .elapse id :: earlier => if id ∈ listed earlier then expired earlier ++ [id] else expired earlier
  | _ :: earlier => expired earlier

/-- The ids that are listed, each with the number of the start it is listed for. -/
def posts : History → List (String × Nat)
  | [] => []
  | .start id :: earlier =>
    if id ∈ listed earlier then posts earlier else posts earlier ++ [(id, (begun earlier).length)]
  | .stop id _ :: earlier => (posts earlier).filter fun e => e.1 ≠ id
  | .stopAll :: _ => []
  | _ :: earlier => posts earlier

/-- The id that a heartbeat is due for: the latest turn started its reporter, or let the interval
of the reporter elapse that waited. -/
def due : History → Option String
  | .start id :: earlier => if id ∈ listed earlier then none else some id
  | .elapse id :: earlier => if id ∈ listed earlier then some id else none
  | _ => none

/-- Whether a turn may come next: a heartbeat when it is due, anything else when none is; what is
asked is answered by the ids listed. -/
def Admits (earlier : History) : Turn → Prop
  | .send id => earlier.due = some id
  | .stop id answer | .isRunning id answer =>
    earlier.due = none ∧ answer = decide (id ∈ earlier.listed)
  | _ => earlier.due = none

/-- Every turn came when it might. -/
inductive Orderly : History → Prop
  | nothing : Orderly []
  | turn {earlier : History} {t : Turn} (h : Orderly earlier) (ht : earlier.Admits t) :
      Orderly (t :: earlier)

variable {turns earlier later : History} {t : Turn} {id : String}

/-! ## The ids listed -/

/-- A turn lists the id that it starts, and keeps those that it does not stop. -/
theorem mem_listed_cons :
    id ∈ listed (t :: earlier) ↔
      t = .start id ∨ (id ∈ earlier.listed ∧ t.stops id = false) := by
  cases t with
  | start i =>
    simp only [listed, Turn.start.injEq, Turn.stops, and_true]
    split
    · rename_i hi
      exact ⟨.inr, fun h => h.elim (fun e => e ▸ hi) fun h => h⟩
    · simp only [List.mem_append, List.mem_singleton, or_comm, eq_comm]
  | stop i answer =>
    simp only [listed, List.mem_filter, Turn.stops, reduceCtorEq, false_or, decide_eq_true_eq,
      decide_eq_false_iff_not, ne_eq]
    rw [eq_comm (a := id)]
  | stopAll => simp [listed, Turn.stops]
  | isRunning i answer => exact ⟨fun h => .inr ⟨h, rfl⟩, fun h => (h.resolve_left nofun).1⟩
  | elapse i => exact ⟨fun h => .inr ⟨h, rfl⟩, fun h => (h.resolve_left nofun).1⟩
  | send i => exact ⟨fun h => .inr ⟨h, rfl⟩, fun h => (h.resolve_left nofun).1⟩

theorem nodup_listed : (listed turns).Nodup := by
  induction turns with
  | nil => exact List.nodup_nil
  | cons t earlier ih =>
    cases t with
    | start i =>
      simp only [listed]
      split
      · exact ih
      · rename_i hi
        refine List.nodup_append.mpr ⟨ih, by simp, fun a ha b hb e => hi ?_⟩
        obtain rfl : b = i := List.mem_singleton.mp hb
        exact e ▸ ha
    | stop i answer => exact ih.sublist List.filter_sublist
    | stopAll => exact List.nodup_nil
    | isRunning i answer => exact ih
    | elapse i => exact ih
    | send i => exact ih

/-- **An id is listed if and only if it was started and not stopped since.** -/
theorem mem_listed_iff :
    id ∈ listed turns ↔
      ∃ later earlier, turns = later ++ .start id :: earlier ∧ ∀ t ∈ later, t.stops id = false := by
  induction turns with
  | nil => simp [listed]
  | cons t rest ih =>
    rw [mem_listed_cons, ih]
    constructor
    · rintro (rfl | ⟨⟨later, earlier, rfl, kept⟩, ht⟩)
      · exact ⟨[], rest, rfl, fun _ h => absurd h List.not_mem_nil⟩
      · exact ⟨t :: later, earlier, rfl, List.forall_mem_cons.mpr ⟨ht, kept⟩⟩
    · rintro ⟨later, earlier, e, kept⟩
      cases later with
      | nil => exact .inl (List.cons.inj e).1
      | cons u later =>
        obtain ⟨rfl, rfl⟩ := List.cons.inj e
        obtain ⟨ht, kept⟩ := List.forall_mem_cons.mp kept
        exact .inr ⟨⟨later, earlier, rfl, kept⟩, ht⟩

/-- An id that is listed after a stop was started since by a start that succeeded. -/
theorem started_of_mem_listed {middle : History} (ht : t.stops id = true)
    (h : id ∈ listed (middle ++ t :: earlier)) :
    ∃ after before, middle = after ++ .start id :: before ∧
      id ∉ listed (before ++ t :: earlier) := by
  induction middle with
  | nil =>
    obtain rfl | ⟨-, kept⟩ := mem_listed_cons.mp h
    · cases ht
    · rw [ht] at kept
      cases kept
  | cons u middle ih =>
    -- If the id was not listed before the last turn, that turn is the start.
    by_cases hm : id ∈ listed (middle ++ t :: earlier)
    · obtain ⟨after, before, rfl, absent⟩ := ih hm
      exact ⟨u :: after, before, rfl, absent⟩
    · obtain rfl : u = .start id := (mem_listed_cons.mp h).resolve_right fun both => hm both.1
      exact ⟨[], middle, rfl, hm⟩

/-! ## Whose start an id is listed for -/

theorem posts_ids (turns : History) : turns.posts.map Prod.fst = turns.listed := by
  induction turns with
  | nil => rfl
  | cons t earlier ih =>
    cases t with
    | start i =>
      simp only [posts, listed]
      split
      · exact ih
      · rw [List.map_append, ih]
        rfl
    | stop i answer =>
      simp only [posts, listed, ← ih, List.filter_map]
      rfl
    | stopAll => rfl
    | isRunning i answer => exact ih
    | elapse i => exact ih
    | send i => exact ih

/-- A turn adds at most one start that succeeded. -/
theorem begun_cons (t : Turn) (earlier : History) :
    ∃ new, begun (t :: earlier) = begun earlier ++ new := by
  cases t with
  | start i =>
    simp only [begun]
    split
    · exact ⟨[], (List.append_nil _).symm⟩
    · exact ⟨[i], rfl⟩
  | stop i answer => exact ⟨[], (List.append_nil _).symm⟩
  | stopAll => exact ⟨[], (List.append_nil _).symm⟩
  | isRunning i answer => exact ⟨[], (List.append_nil _).symm⟩
  | elapse i => exact ⟨[], (List.append_nil _).symm⟩
  | send i => exact ⟨[], (List.append_nil _).symm⟩

/-- A start that succeeds comes after those that succeeded earlier, and before all later ones. -/
theorem begun_append_start (later : History) (absent : id ∉ listed earlier) :
    ∃ rest, begun (later ++ .start id :: earlier) = begun earlier ++ id :: rest := by
  induction later with
  | nil => exact ⟨[], by simp [begun, absent]⟩
  | cons t later ih =>
    obtain ⟨rest, begun⟩ := ih
    obtain ⟨new, added⟩ := begun_cons t (later ++ .start id :: earlier)
    exact ⟨rest ++ new, by rw [List.cons_append, added, begun, List.append_assoc]; rfl⟩

/-- A start that succeeds has a number below that of every later one. -/
theorem length_begun_lt (later : History) (absent : id ∉ listed earlier) :
    (begun earlier).length < (begun (later ++ .start id :: earlier)).length := by
  obtain ⟨rest, begun⟩ := begun_append_start later absent
  rw [begun, List.length_append, List.length_cons]
  omega

/-- **An id is listed for a start that succeeded if and only if no turn since has stopped it.** -/
theorem mem_posts_iff (later : History) (absent : id ∉ listed earlier) :
    (id, (begun earlier).length) ∈ posts (later ++ .start id :: earlier) ↔
      ∀ t ∈ later, t.stops id = false := by
  induction later with
  | nil => simp [posts, absent]
  | cons t later ih =>
    have number := length_begun_lt later absent
    rw [List.forall_mem_cons, ← ih, List.cons_append]
    cases t with
    | start i =>
      simp only [posts, Turn.stops, true_and]
      split
      · rfl
      · rw [List.mem_append, List.mem_singleton, Prod.mk.injEq]
        exact or_iff_left fun e => Nat.ne_of_lt number e.2
    | stop i answer =>
      simp only [posts, List.mem_filter, Turn.stops, decide_eq_true_eq, decide_eq_false_iff_not,
        ne_eq]
      rw [and_comm, eq_comm (a := id)]
    | stopAll => simp [posts, Turn.stops]
    | isRunning i answer => simp [posts, Turn.stops]
    | elapse i => simp [posts, Turn.stops]
    | send i => simp [posts, Turn.stops]

/-- The numbers of the starts that ids are listed for are below that of the next start. -/
theorem lt_of_mem_posts {e : String × Nat} (h : e ∈ posts turns) : e.2 < (begun turns).length := by
  induction turns with
  | nil => cases h
  | cons t earlier ih =>
    cases t with
    | start i =>
      by_cases hi : i ∈ listed earlier
      · simp only [posts, begun, if_pos hi] at h ⊢
        exact ih h
      · simp only [posts, begun, if_neg hi, List.mem_append, List.mem_singleton,
          List.length_append, List.length_singleton] at h ⊢
        obtain h | rfl := h
        · exact Nat.lt_succ_of_lt (ih h)
        · exact Nat.lt_succ_self _
    | stop i answer => exact ih (List.mem_filter.mp h).1
    | stopAll => cases h
    | isRunning i answer => exact ih h
    | elapse i => exact ih h
    | send i => exact ih h

/-- **The ids are listed in the order of the starts that they are listed for.** -/
theorem pairwise_posts (turns : History) : turns.posts.Pairwise fun e e' => e.2 < e'.2 := by
  induction turns with
  | nil => exact .nil
  | cons t earlier ih =>
    cases t with
    | start i =>
      simp only [posts]
      split
      · exact ih
      · refine List.pairwise_append.mpr ⟨ih, List.pairwise_singleton _ _, fun e he e' he' => ?_⟩
        rw [List.mem_singleton.mp he']
        exact lt_of_mem_posts he
    | stop i answer => exact ih.filter _
    | stopAll => exact .nil
    | isRunning i answer => exact ih
    | elapse i => exact ih
    | send i => exact ih

/-! ## Turns that rouse nobody -/

/-- A history went on with turns that rouse nobody. -/
def CalmSince (earlier turns : History) : Prop :=
  ∃ later, turns = later ++ earlier ∧ ∀ t ∈ later, t.rouses = false

namespace CalmSince

theorem refl (turns : History) : CalmSince turns turns :=
  ⟨[], rfl, fun _ h => absurd h List.not_mem_nil⟩

theorem cons (h : CalmSince earlier turns) (ht : t.rouses = false) :
    CalmSince earlier (t :: turns) := by
  obtain ⟨later, rfl, calm⟩ := h
  exact ⟨t :: later, rfl, List.forall_mem_cons.mpr ⟨ht, calm⟩⟩

theorem trans {middle : History} (h : CalmSince earlier middle) (h' : CalmSince middle turns) :
    CalmSince earlier turns := by
  obtain ⟨later, rfl, calm⟩ := h'
  induction later with
  | nil => exact h
  | cons t later ih =>
    obtain ⟨ht, calm⟩ := List.forall_mem_cons.mp calm
    exact (ih calm).cons ht

theorem begun_eq (h : CalmSince earlier turns) : turns.begun = earlier.begun := by
  obtain ⟨later, rfl, calm⟩ := h
  induction later with
  | nil => rfl
  | cons t later ih =>
    obtain ⟨ht, calm⟩ := List.forall_mem_cons.mp calm
    refine Eq.trans ?_ (ih calm)
    cases t <;> first | rfl | cases ht

theorem expired_eq (h : CalmSince earlier turns) : turns.expired = earlier.expired := by
  obtain ⟨later, rfl, calm⟩ := h
  induction later with
  | nil => rfl
  | cons t later ih =>
    obtain ⟨ht, calm⟩ := List.forall_mem_cons.mp calm
    refine Eq.trans ?_ (ih calm)
    cases t <;> first | rfl | cases ht

end CalmSince

/-! ## Orderly histories -/

/-- A turn is a start that succeeds or an interval of a reporter that waits if and only if a
heartbeat is due then. -/
theorem count_begun_add_count_expired (t : Turn) (earlier : History) (id : String) :
    (begun (t :: earlier)).count id + (expired (t :: earlier)).count id =
      (begun earlier).count id + (expired earlier).count id +
        (if due (t :: earlier) = some id then 1 else 0) := by
  cases t with
  | start i =>
    simp only [begun, expired, due]
    split
    · rw [if_neg (Option.some_ne_none id).symm, Nat.add_zero]
    · simp only [List.count_append, List.count_singleton, Option.some.injEq, beq_iff_eq]
      exact Nat.add_right_comm _ _ _
  | elapse i =>
    simp only [begun, expired, due]
    split
    · simp only [List.count_append, List.count_singleton, Option.some.injEq, beq_iff_eq]
      exact (Nat.add_assoc _ _ _).symm
    · rw [if_neg (Option.some_ne_none id).symm, Nat.add_zero]
  | stop i answer => rfl
  | stopAll => rfl
  | isRunning i answer => rfl
  | send i => rfl

/-- The turn that comes next is a heartbeat if and only if it is due. -/
theorem Admits.eq_send_iff (h : earlier.Admits t) : t = .send id ↔ earlier.due = some id := by
  cases t with
  | send i =>
    rw [show earlier.due = some i from h, Turn.send.injEq, Option.some.injEq]
  | stop i answer => rw [h.1]; exact ⟨nofun, nofun⟩
  | isRunning i answer => rw [h.1]; exact ⟨nofun, nofun⟩
  | start i => rw [show earlier.due = none from h]; exact ⟨nofun, nofun⟩
  | elapse i => rw [show earlier.due = none from h]; exact ⟨nofun, nofun⟩
  | stopAll => rw [show earlier.due = none from h]; exact ⟨nofun, nofun⟩

namespace Orderly

theorem of_append (h : Orderly (later ++ turns)) : turns.Orderly := by
  induction later with
  | nil => exact h
  | cons t later ih =>
    cases h with
    | turn h _ => exact ih h

/-- Every turn of an orderly history came when it might. -/
theorem admits (h : Orderly (later ++ t :: earlier)) : earlier.Admits t := by
  cases h.of_append with
  | turn _ ht => exact ht

/-- **As many heartbeats of an id began as starts of it succeeded and intervals of it elapsed**,
but for the one that is due. -/
theorem count_send (h : turns.Orderly) (id : String) :
    turns.count (.send id) + (if turns.due = some id then 1 else 0) =
      turns.begun.count id + turns.expired.count id := by
  induction h with
  | nothing => rfl
  | @turn earlier t _ ht ih =>
    have sent : (t == .send id) = decide (earlier.due = some id) := by
      rw [Bool.eq_iff_iff, beq_iff_eq, ht.eq_send_iff, decide_eq_true_iff]
    rw [count_begun_add_count_expired, ← ih, List.count_cons, sent]
    simp only [decide_eq_true_eq]

/-- **Between a stop and a later heartbeat of the same id, a start of it succeeded.** -/
theorem started_since {middle : History} (ht : t.stops id = true)
    (h : Orderly (later ++ .send id :: (middle ++ t :: earlier))) :
    ∃ after before, middle = after ++ .start id :: before ∧
      id ∉ listed (before ++ t :: earlier) := by
  have due : History.due (middle ++ t :: earlier) = some id := h.admits
  cases middle with
  | nil => cases t <;> first | cases due | cases ht -- a stop makes no heartbeat due
  | cons u middle =>
    cases u with
    | start i =>
      simp only [List.cons_append, History.due] at due
      split at due
      · cases due
      · rename_i absent
        cases due
        exact ⟨[], middle, rfl, absent⟩
    | elapse i =>
      simp only [List.cons_append, History.due] at due
      split at due
      · rename_i hm
        cases due
        obtain ⟨after, before, rfl, absent⟩ := started_of_mem_listed ht hm
        exact ⟨_ :: after, before, rfl, absent⟩
      · cases due
    | stop i answer => cases due
    | stopAll => cases due
    | isRunning i answer => cases due
    | send i => cases due

end Orderly

end History

end Vigil
