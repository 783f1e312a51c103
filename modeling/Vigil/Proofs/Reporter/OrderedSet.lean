import Vigil.Proofs.Reporter.Diary

/-!
# Reporters as an ordered set of ids

However reporters are started, stopped and let tick, and whatever their heartbeats do, the registry
is the ordered set of the ids that were started and not stopped since. Each of them has one reporter
that waits for its interval, and no other reporter is left (`Registry.Serves`). What is asked of the
reporters is answered by that set, from outside and from inside a heartbeat alike.

* `Diary.refines_ordered_set`: so it is after every run of steps.
-/

namespace Vigil

/-- The registry is what a history says it is. -/
structure Registry.Serves (r : Registry) (turns : History) : Prop where
  activeIds : r.activeIds = turns.listed
  nodup : turns.listed.Nodup
  /-- An id is listed if it was started and not stopped since. -/
  started : ∀ id, id ∈ turns.listed ↔
    ∃ later earlier, turns = later ++ .start id :: earlier ∧ ∀ t ∈ later, t.stops id = false
  isRunning : ∀ id, r.isRunning id = true ↔ id ∈ turns.listed
  /-- There is one reporter for each start that succeeded. -/
  names : r.names = turns.begun
  /-- The ids are listed with the numbers of their latest starts that succeeded, in this order. -/
  entries : r.entries = turns.posts
  ordered : r.entries.Pairwise fun e e' => e.2 < e'.2
  /-- An id that is listed has one reporter that waits and is not cancelled. Its other reporters have
  exited. -/
  waits : ∀ id ∈ turns.listed, ∃ number reporter,
    r.reporter? number = some reporter ∧ reporter.id = id ∧
      reporter.phase = .parked ∧ reporter.cancelled = false ∧
      ∀ k other, r.reporter? k = some other → other.id = id → k ≠ number → other.phase = .exited
  /-- The reporters of all other ids have exited. -/
  exited : ∀ k other, r.reporter? k = some other → other.id ∉ turns.listed → other.phase = .exited

/-- Every question was answered by the ids that were listed when it was asked. -/
structure History.Truthful (turns : History) : Prop where
  stop : ∀ {later id answer earlier}, turns = later ++ .stop id answer :: earlier →
    (answer = true ↔ id ∈ listed earlier)
  isRunning : ∀ {later id answer earlier}, turns = later ++ .isRunning id answer :: earlier →
    (answer = true ↔ id ∈ listed earlier)

theorem History.Orderly.truthful {turns : History} (h : turns.Orderly) : turns.Truthful where
  stop := by
    rintro later id answer earlier rfl
    rw [h.admits.2, decide_eq_true_iff]
  isRunning := by
    rintro later id answer earlier rfl
    rw [h.admits.2, decide_eq_true_iff]

namespace Diary

open Act

variable {σ : Type} {s : Scene (Watch (Diary σ))} {conduct : String → Act (Watch (Diary σ)) Unit}

/-- A registry in step with the diary is what the diary says, while nobody beats. -/
theorem Kept.serves {w : Watch (Diary σ)} (h : Kept w none none) :
    w.registry.Serves w.host.turns where
  activeIds := h.tended.activeIds_eq.trans h.ids
  nodup := History.nodup_listed
  started _ := History.mem_listed_iff
  isRunning id := by rw [h.isRunning_eq, decide_eq_true_iff]
  names := h.names
  entries := h.entries
  ordered := h.entries ▸ History.pairwise_posts _
  waits id hm := by
    rw [← h.ids] at hm
    obtain ⟨⟨id, number⟩, entry, rfl⟩ := List.mem_map.mp hm
    obtain ⟨reporter, found, rfl⟩ := h.tended.charged _ entry
    have parked := h.tended.parked_of_mem found entry
    refine ⟨number, reporter, found, rfl, parked.1, parked.2, fun k other hk hid hne => ?_⟩
    -- Another reporter in charge of the id would have a second entry for it.
    refine (h.tended.exited_of_not_mem hk fun hm => hne ?_).1
    have charged := (Registry.number?_eq_some_iff h.tended.nodup _ _).mpr entry
    have same := (Registry.number?_eq_some_iff h.tended.nodup _ _).mpr hm
    rw [hid, charged] at same
    exact (Option.some.inj same).symm
  exited k other hk hm := by
    rw [← h.ids] at hm
    exact (h.tended.exited_of_not_mem hk fun entry => hm (List.mem_map_of_mem entry)).1

/-- **The reporters refine an ordered set of ids**: after every run of steps, whatever the
heartbeats do, the registry serves the ids started and not stopped since, every question was
answered by them, and so is every step that comes next. -/
theorem refines_ordered_set (hc : ∀ id, Conduct (conduct id)) {w : World} {host : σ}
    {steps : List Watch.Step} (run : Act.Run (perform conduct) ⟨w, Diary.fresh host⟩ steps s) :
    s.own.registry.Serves s.own.host.turns ∧ s.own.host.turns.Truthful ∧
      outcome Watch.activeIds s = .ok s.own.host.turns.listed ∧
      ∀ step, outcome (perform conduct step) s = .ok (answer s.own.host.turns.listed step) := by
  have kept := kept_of_run hc run
  refine ⟨kept.serves, kept.orderly.truthful, ?_, fun step => ?_⟩
  · rw [(Watch.leads_activeIds s rfl).1, kept.serves.activeIds]
  · obtain ⟨a, returns, settles⟩ := reaches_perform hc kept step
    rw [returns, settles.answers]

/-- A conduct in which every heartbeat of one id stops another id and then fails. -/
def sacking (id : String) : Act (Watch (Diary Unit)) Unit :=
  if id = "b" then do
    discard (noted (Watch.stop "a") (.stop "a"))
    Act.stumble (.raised "heartbeat" "nobody is left")
  else pure ()

/-- The second start of "a" succeeds, since the first heartbeat of "b" has stopped it; the next one
stops it again. -/
theorem refines_ordered_set_of_sacking :
    let steps : List Watch.Step := [.start "a" 1.0, .start "b" 1.0, .start "a" 1.0, .tick "b"]
    (∀ id, Conduct (sacking id)) ∧
      ∃ s, Act.Run (perform sacking) ⟨{}, Diary.fresh ()⟩ steps s ∧
        s.own.host.turns.begun = ["a", "b", "a"] ∧ s.own.host.turns.listed = ["b"] ∧
        s.own.registry.Serves s.own.host.turns ∧ s.own.host.turns.Truthful ∧
        outcome Watch.activeIds s = .ok ["b"] ∧
        ∀ step, outcome (perform sacking step) s = .ok (answer ["b"] step) := by
  intro steps
  have hc (id : String) : Conduct (sacking id) := by
    unfold sacking
    split
    · exact .bind (.bind (.stop "a") fun _ => .returns ()) fun _ => .raises _
    · exact .returns ()
  have run : Act.Run (perform sacking) ⟨{}, Diary.fresh ()⟩ steps _ :=
    .call (.call (.call (.call .start (Watch.Step.start "a" 1.0)) (Watch.Step.start "b" 1.0))
      (Watch.Step.start "a" 1.0)) (Watch.Step.tick "b")
  exact ⟨hc, _, run, rfl, rfl, refines_ordered_set hc run⟩

end Diary

end Vigil
