import Vigil.Proofs.Reporter.Effects

/-!
# Registries whose reporters are tended

A reporter that is in charge of its id is not cancelled and waits for its interval; every other one
is cancelled and has exited. The only exception is the reporter that beats just now, if one does: it
neither waits nor has exited yet. `Registry.Tended` says this of a whole registry. Stopping one
reporter and stopping all are the same change for different entries (`Registry.Relieved`), and every
change that the operations make keeps a registry tended.

* `Registry.Tended.relieved`, `enlist`, `beating`, `rest`: what is kept.
* `Registry.Tended.activeIds_eq`, `isRunning_eq`, `parked?_eq`: what a tended registry tells of its
  ids.
-/

namespace Vigil

/-- What a reporter is like that is in charge or not, and that beats just now or not. -/
structure Reporter.Fits (reporter : Reporter) (charged busy : Bool) : Prop where
  cancelled : reporter.cancelled = !charged
  phase : reporter.phase = if busy then .beating else if charged then .parked else .exited

namespace Registry

/-- Whether the reporter of a number is in charge of an id. -/
def inCharge (r : Registry) (id : String) (number : Nat) : Bool := (id, number) ∈ r.entries

/-- The ids of all reporters that were ever started, in this order. -/
def names (r : Registry) : List String := r.reporters.map Reporter.id

/-- No id has two entries, every entry is of a reporter of its id, and every reporter is like one
that is in charge or not; `busy` is the one that beats just now, if one does. -/
structure Tended (r : Registry) (busy : Option Nat) : Prop where
  nodup : (r.entries.map Prod.fst).Nodup
  charged : ∀ e ∈ r.entries, ∃ reporter, r.reporter? e.2 = some reporter ∧ reporter.id = e.1
  fits : ∀ number reporter, r.reporter? number = some reporter →
    reporter.Fits (r.inCharge reporter.id number) (busy = some number)

variable {r : Registry} {busy : Option Nat}

/-! ## Names -/

/-- Registries with the same ids under the same numbers have the same names. -/
theorem names_congr {r' : Registry}
    (h : ∀ k, (r'.reporter? k).map Reporter.id = (r.reporter? k).map Reporter.id) :
    r'.names = r.names :=
  List.ext_getElem? fun k => by
    rw [names, names, List.getElem?_map, List.getElem?_map]
    exact h k

theorem names_enter (r : Registry) (number : Nat) (phase : Phase) :
    (r.enter number phase).names = r.names := by
  refine names_congr fun k => ?_
  rw [enter, reporter?_change]
  split
  · exact Option.map_map _ _ _
  · rfl

theorem names_enlist (r : Registry) (id : String) (interval : Float) :
    (r.enlist id interval).names = r.names ++ [id] := List.map_append

/-! ## Entries -/

theorem number?_eq_none_iff (r : Registry) (id : String) :
    r.number? id = none ↔ id ∉ r.entries.map Prod.fst := by
  rw [number?, List.lookup_eq_none_iff]
  constructor
  · intro h hm
    obtain ⟨e, he, rfl⟩ := List.mem_map.mp hm
    simpa using h e he
  · exact fun h e he => bne_iff_ne.mpr fun hid => h (hid ▸ List.mem_map_of_mem he)

/-- With one entry for an id, a look-up finds the entry that is there. -/
theorem number?_eq_some_iff (h : (r.entries.map Prod.fst).Nodup) (id : String) (number : Nat) :
    r.number? id = some number ↔ (id, number) ∈ r.entries := by
  unfold number?
  generalize r.entries = entries at h
  induction entries with
  | nil => simp
  | cons e rest ih =>
    obtain ⟨i, n⟩ := e
    rw [List.map_cons, List.nodup_cons] at h
    by_cases hi : id = i
    · subst hi
      have other (hm : (id, number) ∈ rest) : False :=
        h.1 (List.mem_map.mpr ⟨_, hm, rfl⟩)
      simp only [List.lookup_cons, beq_self_eq_true, List.mem_cons, Prod.mk.injEq, true_and,
        Option.some.injEq]
      exact ⟨fun e => .inl e.symm, fun e => (e.resolve_right other).symm⟩
    · simp [List.lookup_cons, beq_false_of_ne hi, hi, ih h.2]

theorem reporter?_discharge (r : Registry) (id : String) (number k : Nat) :
    (r.discharge id number).reporter? k = r.reporter? k := rfl

/-- Nobody is in charge of an id whose only entry is taken out. -/
theorem filter_entry (h : (r.entries.map Prod.fst).Nodup) {id : String} {number : Nat}
    (hm : (id, number) ∈ r.entries) :
    (r.entries.filter fun e => e ≠ (id, number)) = r.entries.filter fun e => e.1 ≠ id := by
  refine List.filter_congr fun e he => ?_
  refine decide_eq_decide.mpr (not_congr ⟨fun h => h ▸ rfl, fun hid => ?_⟩)
  have same := ((number?_eq_some_iff h e.1 e.2).mpr he).symm.trans
    (hid ▸ (number?_eq_some_iff h id number).mpr hm)
  exact Prod.ext hid (Option.some.inj same)

/-- After a halt no entry of the id is left. -/
theorem entries_halt (h : (r.entries.map Prod.fst).Nodup) (id : String) :
    (r.halt id).entries = r.entries.filter fun e => e.1 ≠ id := by
  unfold halt
  cases hn : r.number? id with
  | none =>
    have absent := (r.number?_eq_none_iff id).mp hn
    refine (List.filter_eq_self.mpr fun e he => ?_).symm
    exact decide_eq_true fun hid => absent (hid ▸ List.mem_map_of_mem he)
  | some number => exact filter_entry h ((number?_eq_some_iff h id number).mp hn)

theorem charge_of_not_mem {id : String} {number : Nat} {entries : List (String × Nat)}
    (h : id ∉ entries.map Prod.fst) : charge id number entries = entries ++ [(id, number)] := by
  induction entries with
  | nil => rfl
  | cons e rest ih =>
    rw [List.map_cons, List.mem_cons, not_or] at h
    rw [charge, if_neg (Ne.symm h.1), ih h.2]
    rfl

theorem entries_enlist {id : String} (h : id ∉ r.entries.map Prod.fst) (interval : Float) :
    (r.enlist id interval).entries = r.entries ++ [(id, r.reporters.length)] :=
  charge_of_not_mem h

theorem reporter?_enlist (r : Registry) (id : String) (interval : Float) (k : Nat) :
    (r.enlist id interval).reporter? k =
      if k = r.reporters.length then some { id := id, interval := interval }
      else r.reporter? k := by
  rw [enlist, reporter?, reporter?]
  dsimp only
  rw [List.getElem?_append]
  split
  · rename_i hk
    rw [if_neg (Nat.ne_of_lt hk)]
  · rename_i hk
    split
    · rename_i e
      rw [e, Nat.sub_self]
      rfl
    · rename_i e
      have out : r.reporters.length ≤ k := Nat.le_of_not_lt hk
      rw [List.getElem?_eq_none out, List.getElem?_eq_none]
      simp only [List.length_cons, List.length_nil]
      omega

/-! ## Loops over reporters -/

/-- Changing some reporters one after the other, by a change that does no more the second time,
changes each of them once. -/
theorem reporter?_foldl_change {f : Reporter → Reporter} (hf : ∀ x, f (f x) = f x)
    (l : List (String × Nat)) (r : Registry) (k : Nat) :
    (l.foldl (fun r e => r.change e.2 f) r).reporter? k =
      if k ∈ l.map Prod.snd then (r.reporter? k).map f else r.reporter? k := by
  induction l generalizing r with
  | nil => rfl
  | cons e rest ih =>
    rw [List.foldl_cons, ih, reporter?_change]
    by_cases he : e.2 = k
    · subst he
      simp only [if_true, List.map_cons, List.mem_cons, true_or, Option.map_map]
      split
      · congr 1
        funext x
        exact hf x
      · rfl
    · have other : k ≠ e.2 := Ne.symm he
      simp only [if_neg he, List.map_cons, List.mem_cons, other, false_or]

theorem entries_foldl_change (f : Reporter → Reporter) (l : List (String × Nat)) (r : Registry) :
    (l.foldl (fun r e => r.change e.2 f) r).entries = r.entries := by
  induction l generalizing r with
  | nil => rfl
  | cons e rest ih => exact ih _

theorem reporters_foldl_discharge (l : List (String × Nat)) (r : Registry) :
    (l.foldl (fun r e => r.discharge e.1 e.2) r).reporters = r.reporters := by
  induction l generalizing r with
  | nil => rfl
  | cons e rest ih => exact ih _

theorem entries_foldl_discharge (l : List (String × Nat)) (r : Registry) :
    (l.foldl (fun r e => r.discharge e.1 e.2) r).entries = r.entries.filter fun e => e ∉ l := by
  induction l generalizing r with
  | nil => exact (List.filter_eq_self.mpr fun _ _ => rfl).symm
  | cons e rest ih =>
    rw [List.foldl_cons, ih, discharge, List.filter_filter]
    refine List.filter_congr fun x _ => ?_
    rw [← Bool.decide_and, decide_eq_decide, List.mem_cons, not_or]
    exact and_comm

/-! ## Relieving reporters -/

/-- A reporter after it was stopped: cancelled, and exited if it waited. -/
def halted (reporter : Reporter) : Reporter := retired { reporter with cancelled := true }

theorem retired_retired (x : Reporter) : retired (retired x) = retired x := by
  unfold retired
  split <;> simp_all

theorem halted_id (reporter : Reporter) : (halted reporter).id = reporter.id := by
  unfold halted retired
  split <;> rfl

/-- The entries that fail a test are gone and their reporters were stopped; all else is kept. -/
structure Relieved (r r' : Registry) (test : String × Nat → Bool) : Prop where
  entries : r'.entries = r.entries.filter test
  gone : ∀ id number, (id, number) ∈ r.entries → test (id, number) = false →
    r'.reporter? number = (r.reporter? number).map halted
  kept : ∀ number, (∀ id, (id, number) ∈ r.entries → test (id, number) = true) →
    r'.reporter? number = r.reporter? number

namespace Relieved

variable {r' : Registry} {test : String × Nat → Bool}

/-- Every reporter is as it was, or it was stopped because its entry is gone. -/
theorem cases (h : r.Relieved r' test) (number : Nat) :
    ((∀ id, (id, number) ∈ r.entries → test (id, number) = true) ∧
      r'.reporter? number = r.reporter? number) ∨
    ∃ id, (id, number) ∈ r.entries ∧ test (id, number) = false ∧
      r'.reporter? number = (r.reporter? number).map halted := by
  by_cases hk : ∃ id, (id, number) ∈ r.entries ∧ test (id, number) = false
  · obtain ⟨id, hm, ht⟩ := hk
    exact .inr ⟨id, hm, ht, h.gone id number hm ht⟩
  · have kept (id : String) (hm : (id, number) ∈ r.entries) : test (id, number) = true :=
      eq_true_of_ne_false fun ht => hk ⟨id, hm, ht⟩
    exact .inl ⟨kept, h.kept number kept⟩

/-- Nobody's id changes. -/
theorem map_id (h : r.Relieved r' test) (number : Nat) :
    (r'.reporter? number).map Reporter.id = (r.reporter? number).map Reporter.id := by
  obtain ⟨-, same⟩ | ⟨-, -, -, same⟩ := h.cases number
  · rw [same]
  · rw [same, Option.map_map]
    congr 1
    exact funext halted_id

theorem names (h : r.Relieved r' test) : r'.names = r.names := names_congr h.map_id

/-- A stop relieves the reporter of the id. -/
theorem halt (h : (r.entries.map Prod.fst).Nodup) (id : String) :
    r.Relieved (r.halt id) fun e => e.1 ≠ id := by
  have entry (number : Nat) := number?_eq_some_iff h id number
  refine ⟨entries_halt h id, fun i number hm ht => ?_, fun number hk => ?_⟩
  · obtain rfl : i = id := of_decide_eq_true (by simpa using ht)
    rw [Registry.halt, (entry number).mpr hm]
    dsimp only
    rw [reporter?_discharge, retire, cancel, reporter?_change, reporter?_change, if_pos rfl,
      if_pos rfl, Option.map_map]
    rfl
  · unfold Registry.halt
    split
    · rfl
    · rename_i n hn
      have other : n ≠ number := by
        rintro rfl
        simpa using hk id ((entry n).mp hn)
      rw [reporter?_discharge, retire, cancel, reporter?_change, reporter?_change, if_neg other,
        if_neg other]

/-- Stopping all relieves every reporter that is in charge. -/
theorem haltAll (r : Registry) : r.Relieved r.haltAll fun _ => false := by
  have reporters (k : Nat) : r.haltAll.reporter? k =
      if k ∈ r.entries.map Prod.snd then (r.reporter? k).map halted else r.reporter? k := by
    have cancelled := reporter?_foldl_change (f := fun x => { x with cancelled := true })
      (fun _ => rfl) r.entries r k
    have joined := reporter?_foldl_change retired_retired r.entries
      (r.entries.foldl (fun r e => r.cancel e.2) r) k
    unfold Registry.haltAll reporter?
    rw [reporters_foldl_discharge]
    refine joined.trans ?_
    rw [show (r.entries.foldl (fun r e => r.cancel e.2) r).reporter? k = _ from cancelled]
    split
    · rw [Option.map_map]
      rfl
    · rfl
  have entries : (r.entries.foldl (fun r e => r.retire e.2)
      (r.entries.foldl (fun r e => r.cancel e.2) r)).entries = r.entries :=
    (entries_foldl_change retired _ _).trans (entries_foldl_change _ _ _)
  refine ⟨?_, fun id number hm _ => ?_, fun number hk => ?_⟩
  · rw [Registry.haltAll, entries_foldl_discharge, entries]
    refine List.filter_congr fun e he => ?_
    exact decide_eq_false (not_not_intro he)
  · rw [reporters, if_pos (List.mem_map_of_mem (f := Prod.snd) hm)]
  · rw [reporters, if_neg]
    intro hm
    obtain ⟨e, he, rfl⟩ := List.mem_map.mp hm
    exact Bool.noConfusion (hk e.1 he)

end Relieved

/-! ## What keeps a registry tended -/

theorem inCharge_iff {id : String} {number : Nat} :
    r.inCharge id number = true ↔ (id, number) ∈ r.entries := decide_eq_true_iff

namespace Tended

theorem empty : Tended {} none where
  nodup := List.nodup_nil
  charged _ he := absurd he List.not_mem_nil
  fits _ _ h := by cases h

/-- A reporter that was in charge and is stopped is like one that is not. -/
theorem fits_halted {reporter : Reporter} {busy : Bool} (h : reporter.Fits true busy) :
    (halted reporter).Fits false busy := by
  obtain ⟨-, phase⟩ := h
  cases busy with
  | true => exact ⟨by simp [halted, retired, phase], by simp [halted, retired, phase]⟩
  | false => exact ⟨by simp [halted, retired, phase], by simp [halted, retired, phase]⟩

/-- **Relieving reporters keeps a registry tended**, whoever beats. -/
theorem relieved (h : r.Tended busy) {r' : Registry} {test : String × Nat → Bool}
    (hr : r.Relieved r' test) : r'.Tended busy where
  nodup := by
    rw [hr.entries]
    exact h.nodup.sublist (List.filter_sublist.map Prod.fst)
  charged e hm := by
    rw [hr.entries] at hm
    obtain ⟨reporter, found, hi⟩ := h.charged e (List.mem_filter.mp hm).1
    have same := hr.map_id e.2
    rw [found, Option.map_some, Option.map_eq_some_iff] at same
    obtain ⟨reporter', found', hi'⟩ := same
    exact ⟨reporter', found', hi'.trans hi⟩
  fits number reporter found := by
    have charge (id : String) : r'.inCharge id number = true ↔
        (id, number) ∈ r.entries ∧ test (id, number) = true := by
      rw [inCharge_iff, hr.entries, List.mem_filter]
    obtain ⟨kept, same⟩ | ⟨id, hm, ht, same⟩ := hr.cases number
    -- A reporter that is kept is in charge if it was before.
    · have old := h.fits number reporter (same ▸ found)
      have inCharge : r'.inCharge reporter.id number = r.inCharge reporter.id number := by
        rw [Bool.eq_iff_iff, charge, inCharge_iff]
        exact ⟨And.left, fun hm => ⟨hm, kept _ hm⟩⟩
      rw [inCharge]
      exact old
    -- One that was relieved was in charge, and is no more.
    · obtain ⟨x, hx, rfl⟩ := h.charged _ hm
      rw [same, hx, Option.map_some, Option.some.injEq] at found
      have old := h.fits number x hx
      rw [inCharge_iff.mpr hm] at old
      have inCharge : r'.inCharge reporter.id number = false := by
        rw [← found, halted_id, Bool.eq_false_iff, Ne, charge, ht]
        exact fun both => Bool.noConfusion both.2
      rw [inCharge, ← found]
      exact fits_halted old

/-- A reporter in another phase keeps a registry tended, if the phase is what it has to be. -/
theorem enter (h : r.Tended busy) {busy' : Option Nat} {number : Nat} {phase : Phase}
    (others : ∀ k, number ≠ k → (busy' = some k ↔ busy = some k))
    (fits : ∀ reporter, r.reporter? number = some reporter →
      phase = if busy' = some number then .beating
        else if r.inCharge reporter.id number then .parked else .exited) :
    (r.enter number phase).Tended busy' where
  nodup := h.nodup
  charged e hm := by
    obtain ⟨reporter, found, hi⟩ := h.charged e hm
    rw [Registry.enter, reporter?_change, found]
    split
    · exact ⟨_, rfl, hi⟩
    · exact ⟨_, rfl, hi⟩
  fits k reporter found := by
    rw [Registry.enter, reporter?_change] at found
    split at found
    · rename_i hk
      subst hk
      obtain ⟨x, hx, rfl⟩ := Option.map_eq_some_iff.mp found
      refine ⟨(h.fits number x hx).cancelled, (fits x hx).trans ?_⟩
      simp only [decide_eq_true_eq]
      rfl
    · rename_i hk
      have same : decide (busy' = some k) = decide (busy = some k) :=
        decide_eq_decide.mpr (others k hk)
      rw [same]
      exact h.fits k reporter found

/-- A reporter may begin to beat while no other one does. -/
theorem beating (h : r.Tended busy) {number : Nat} (hb : busy = none ∨ busy = some number) :
    (r.enter number .beating).Tended (some number) := by
  refine h.enter (fun k hk => ?_) fun _ _ => (if_pos rfl).symm
  obtain rfl | rfl := hb <;> simp [hk]

/-- Who is in charge is live, and nobody else. -/
theorem isLive_eq (h : r.Tended busy) {number : Nat} {reporter : Reporter}
    (found : r.reporter? number = some reporter) :
    r.isLive number = r.inCharge reporter.id number := by
  rw [isLive, found]
  dsimp only
  rw [(h.fits number reporter found).cancelled, Bool.not_not]

/-- A reporter that has beaten waits if it is live, and else exits. -/
theorem rest (h : r.Tended (some number)) :
    (r.enter number (if r.isLive number then .parked else .exited)).Tended none := by
  refine h.enter (fun k hk => by simp [hk]) fun reporter found => ?_
  rw [h.isLive_eq found, if_neg (Option.some_ne_none number).symm]

/-- **A new reporter beats, and is in charge of its id.** -/
theorem enlist (h : r.Tended none) {id : String} (absent : id ∉ r.entries.map Prod.fst)
    (interval : Float) : (r.enlist id interval).Tended (some r.reporters.length) where
  nodup := by
    rw [entries_enlist absent, List.map_append]
    refine List.nodup_append.mpr ⟨h.nodup, by simp, fun a ha b hb e => absent ?_⟩
    obtain rfl : b = id := List.mem_singleton.mp hb
    exact e ▸ ha
  charged e hm := by
    rw [entries_enlist absent, List.mem_append, List.mem_singleton] at hm
    rw [reporter?_enlist]
    obtain hm | rfl := hm
    · obtain ⟨reporter, found, hi⟩ := h.charged e hm
      rw [if_neg]
      · exact ⟨reporter, found, hi⟩
      · intro out
        rw [reporter?, out, List.getElem?_eq_none (Nat.le_refl _)] at found
        cases found
    · exact ⟨_, if_pos rfl, rfl⟩
  fits k reporter found := by
    rw [reporter?_enlist] at found
    have charge (i : String) : (r.enlist id interval).inCharge i k =
        (r.inCharge i k || decide ((i, k) = (id, r.reporters.length))) := by
      rw [Bool.eq_iff_iff, inCharge_iff, entries_enlist absent]
      simp [inCharge_iff]
    split at found
    · rename_i hk
      cases found
      subst hk
      rw [charge]
      exact ⟨by simp, by simp⟩
    · rename_i hk
      have old := h.fits k reporter found
      rw [charge]
      have other : r.reporters.length ≠ k := Ne.symm hk
      simpa [hk, other] using old

/-! ## What a tended registry tells -/

theorem isLive_of_mem (h : r.Tended busy) {e : String × Nat} (hm : e ∈ r.entries) :
    r.isLive e.2 = true := by
  obtain ⟨reporter, found, hi⟩ := h.charged e hm
  rw [h.isLive_eq found, hi]
  exact inCharge_iff.mpr hm

/-- The active ids are those that have an entry. -/
theorem activeIds_eq (h : r.Tended busy) : r.activeIds = r.entries.map Prod.fst := by
  rw [activeIds, List.filter_eq_self.mpr fun e he => h.isLive_of_mem he]

theorem isRunning_eq (h : r.Tended busy) (id : String) :
    r.isRunning id = (r.number? id).isSome := by
  unfold isRunning
  cases hn : r.number? id with
  | none => rfl
  | some number => exact h.isLive_of_mem ((number?_eq_some_iff h.nodup id number).mp hn)

/-- While nobody beats, a reporter that is in charge waits. -/
theorem parked_of_mem (h : r.Tended none) {number : Nat} {reporter : Reporter}
    (found : r.reporter? number = some reporter) (hm : (reporter.id, number) ∈ r.entries) :
    reporter.phase = .parked ∧ reporter.cancelled = false := by
  have fits := h.fits number reporter found
  rw [inCharge_iff.mpr hm] at fits
  exact ⟨fits.phase, fits.cancelled⟩

/-- While nobody beats, a reporter that is not in charge has exited. -/
theorem exited_of_not_mem (h : r.Tended none) {number : Nat} {reporter : Reporter}
    (found : r.reporter? number = some reporter) (hm : (reporter.id, number) ∉ r.entries) :
    reporter.phase = .exited ∧ reporter.cancelled = true := by
  have fits := h.fits number reporter found
  rw [Bool.eq_false_iff.mpr fun hc => hm (inCharge_iff.mp hc)] at fits
  exact ⟨fits.phase, fits.cancelled⟩

/-- While nobody beats, who waits under an id is in charge of it. -/
theorem waits_iff (h : r.Tended none) {id : String} {number : Nat} {reporter : Reporter}
    (found : r.reporter? number = some reporter) :
    (reporter.id = id && reporter.phase = .parked) = true ↔ r.number? id = some number := by
  rw [number?_eq_some_iff h.nodup, Bool.and_eq_true, decide_eq_true_iff, decide_eq_true_iff]
  constructor
  · rintro ⟨rfl, parked⟩
    refine Decidable.byContradiction fun hm => ?_
    rw [(h.exited_of_not_mem found hm).1] at parked
    cases parked
  · intro hm
    obtain ⟨x, hx, hi⟩ := h.charged _ hm
    obtain rfl : reporter = x := Option.some.inj (found.symm.trans hx)
    obtain rfl : reporter.id = id := hi
    exact ⟨rfl, (h.parked_of_mem found hm).1⟩

/-- While nobody beats, the reporter that waits under an id is the one in charge of it. -/
theorem parked?_eq (h : r.Tended none) (id : String) : r.parked? id = r.number? id := by
  cases hn : r.number? id with
  | none =>
    refine List.findIdx?_eq_none_iff.mpr fun reporter hm => ?_
    obtain ⟨k, found⟩ := List.mem_iff_getElem?.mp hm
    refine Bool.eq_false_iff.mpr fun hw => ?_
    rw [h.waits_iff found, hn] at hw
    cases hw
  | some number =>
    obtain ⟨reporter, found, -⟩ :=
      h.charged _ ((number?_eq_some_iff h.nodup id number).mp hn)
    obtain ⟨bound, is⟩ := List.getElem?_eq_some_iff.mp found
    refine List.findIdx?_eq_some_iff_getElem.mpr ⟨bound, ?_, fun k hk => ?_⟩
    · rw [is, h.waits_iff found, hn]
    · have other : r.reporter? k = some r.reporters[k] := List.getElem?_eq_getElem _
      rw [h.waits_iff other, hn, Option.some.injEq]
      omega

end Tended

end Registry

end Vigil
