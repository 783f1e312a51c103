import Vigil.Proofs.Reporter.Diary

/-!
# Heartbeats on time

However reporters are started, stopped and let tick, and whatever their heartbeats do, a heartbeat
begins once for each start that succeeds and once for each interval that elapses while a reporter
waits, at once and at no other time (`History.Punctual`). A reporter lives as long as its id is not
stopped: what its heartbeats raise does not end it.

* `Diary.heartbeats_on_time`: so it is after every run of steps, and at every step that comes next.
-/

namespace Vigil

/-- Every heartbeat began when it was due, and then only. -/
structure History.Punctual (turns : History) : Prop where
  /-- Each heartbeat comes right after the start or the interval that it is due to. -/
  due : ∀ {later earlier : History} {id : String}, turns = later ++ .send id :: earlier →
    earlier.due = some id
  /-- Each start that succeeds and each interval of a reporter that waits is followed by its
  heartbeat. -/
  prompt : ∀ {later earlier : History} {id : String}, turns = later ++ earlier →
    earlier.due = some id → ∃ rest, later = rest ++ [.send id]
  count : ∀ id, turns.count (.send id) = turns.begun.count id + turns.expired.count id
  /-- Between a stop and a later heartbeat of the same id, a start of it succeeded. -/
  silent : ∀ {later middle earlier : History} {id : String} {t : Turn},
    turns = later ++ .send id :: (middle ++ t :: earlier) → t.stops id = true →
    ∃ after before, middle = after ++ .start id :: before ∧ id ∉ listed (before ++ t :: earlier)

/-- The reporter of every start that succeeded waits as long as its id is not stopped, and has
exited once it is. -/
def Registry.EndedByStops (r : Registry) (turns : History) : Prop :=
  ∀ {later earlier : History} {id : String},
    turns = later ++ .start id :: earlier → id ∉ earlier.listed →
    ∃ reporter, r.reporter? earlier.begun.length = some reporter ∧ reporter.id = id ∧
      if ∀ t ∈ later, t.stops id = false then reporter.phase = .parked ∧ reporter.cancelled = false
      else reporter.phase = .exited ∧ reporter.cancelled = true

namespace History

variable {turns : History}

/-- When a heartbeat is due, it comes next. -/
theorem Orderly.prompt {later earlier : History} {id : String} (h : Orderly (later ++ earlier))
    (pending : earlier.due = some id) (nobody : (later ++ earlier).due = none) :
    ∃ rest, later = rest ++ [.send id] := by
  rcases List.eq_nil_or_concat later with rfl | ⟨rest, t, rfl⟩
  · rw [List.nil_append, pending] at nobody
    cases nobody
  · rw [List.concat_eq_append, List.append_assoc] at h
    obtain rfl : t = .send id := h.admits.eq_send_iff.mpr pending
    exact ⟨rest, List.concat_eq_append⟩

/-- An orderly history in which no heartbeat is due is punctual. -/
theorem Orderly.punctual (h : turns.Orderly) (nobody : turns.due = none) : turns.Punctual where
  due e := (e ▸ h).admits
  prompt e pending := (e ▸ h).prompt pending (e ▸ nobody)
  count id := by
    have count := h.count_send id
    rw [nobody] at count
    simpa using count
  silent e ht := (e ▸ h).started_since ht

end History

/-- The id that a step may send a heartbeat for. -/
def Watch.Step.roused? : Watch.Step → Option String
  | .start id _ | .tick id => some id
  | _ => none

namespace Diary

open Act

variable {σ : Type} {s : Scene (Watch (Diary σ))} {conduct : String → Act (Watch (Diary σ)) Unit}

/-- A heartbeat is due at the opening of a step if and only if the step will answer that it had one
sent. -/
theorem due_opening {turns : History} (nobody : turns.due = none) (step : Watch.Step) (id : String) :
    History.due (opening step ++ turns) = some id ↔
      step.roused? = some id ∧ answer turns.listed step = some true := by
  cases step with
  | start i interval =>
    by_cases listed : i ∈ turns.listed <;>
      simp [opening, History.due, Watch.Step.roused?, answer, listed]
  | tick i =>
    by_cases listed : i ∈ turns.listed <;>
      simp [opening, History.due, Watch.Step.roused?, answer, listed]
  | stop i => simp [opening, Watch.Step.roused?, nobody]
  | stopAll => simp [opening, Watch.Step.roused?, nobody]
  | isRunning i => simp [opening, Watch.Step.roused?, nobody]

/-- The opening of a step adds a start or an interval if and only if a heartbeat is due then. -/
theorem count_opening {turns : History} (nobody : turns.due = none) (step : Watch.Step)
    (id : String) :
    (History.begun (opening step ++ turns)).count id +
        (History.expired (opening step ++ turns)).count id =
      turns.begun.count id + turns.expired.count id +
        (if History.due (opening step ++ turns) = some id then 1 else 0) := by
  cases step with
  | start i interval => exact History.count_begun_add_count_expired (.start i) turns id
  | tick i => exact History.count_begun_add_count_expired (.elapse i) turns id
  | stop i => simp [opening, nobody]
  | stopAll => simp [opening, nobody]
  | isRunning i => simp [opening, nobody]

/-- **A step sends one heartbeat or none**: one for its id if it answers that a reporter was started
or had waited. -/
theorem Settles.count_send {v w : Watch (Diary σ)} {step : Watch.Step} {a : Option Bool}
    (h : Settles v step a w) (kept : Kept v none none) :
    ∃ new, w.host.turns = new ++ v.host.turns ∧
      ∀ id, new.count (.send id) = if step.roused? = some id ∧ a = some true then 1 else 0 := by
  have begun := h.calm.begun_eq
  have expired := h.calm.expired_eq
  obtain ⟨later, turns, -⟩ := h.calm
  refine ⟨later ++ opening step, ?_, fun id => ?_⟩
  · rw [turns, List.append_assoc]
  · have before := (kept.orderly.punctual kept.due).count id
    have now := (h.kept.orderly.punctual h.kept.due).count id
    have opened := count_opening kept.due step id
    rw [begun, expired, opened, turns, ← List.append_assoc, List.count_append, before] at now
    simp only [due_opening kept.due, ← h.answers] at now
    omega

/-- **Stops end reporters, and nothing else does.** -/
theorem Kept.endedByStops {w : Watch (Diary σ)} (h : Kept w none none) :
    w.registry.EndedByStops w.host.turns := by
  intro later earlier id turns started
  obtain ⟨rest, begun⟩ := History.begun_append_start later started
  have named : (w.registry.reporter? earlier.begun.length).map Reporter.id = some id := by
    rw [Registry.reporter?, ← List.getElem?_map]
    show w.registry.names[_]? = _
    rw [h.names, turns, begun, List.getElem?_append_right (Nat.le_refl _), Nat.sub_self]
    rfl
  obtain ⟨reporter, found, rfl⟩ := Option.map_eq_some_iff.mp named
  have entry : (reporter.id, earlier.begun.length) ∈ w.registry.entries ↔
      ∀ t ∈ later, t.stops reporter.id = false := by
    rw [h.entries, turns, History.mem_posts_iff later started]
  refine ⟨reporter, found, rfl, ?_⟩
  split
  · exact h.tended.parked_of_mem found (entry.mpr ‹_›)
  · exact h.tended.exited_of_not_mem found (mt entry.mp ‹_›)

/-- **No heartbeat is lost, extra or late**: after every run of steps, whatever the heartbeats do,
each began when it was due and then only, no reporter was ended by anything but a stop, and every
step that comes next returns, with one heartbeat if it answers that a reporter was started or had
waited, and with none otherwise. -/
theorem heartbeats_on_time (hc : ∀ id, Conduct (conduct id)) {w : World} {host : σ}
    {steps : List Watch.Step} (run : Act.Run (perform conduct) ⟨w, Diary.fresh host⟩ steps s) :
    s.own.host.turns.Punctual ∧
      s.own.registry.EndedByStops s.own.host.turns ∧
      ∀ step, ∃ a new, outcome (perform conduct step) s = .ok a ∧
        (after (perform conduct step) s).own.host.turns = new ++ s.own.host.turns ∧
        ∀ id, new.count (.send id) = if step.roused? = some id ∧ a = some true then 1 else 0 := by
  have kept := kept_of_run hc run
  refine ⟨kept.orderly.punctual kept.due, kept.endedByStops, fun step => ?_⟩
  obtain ⟨a, returns, settles⟩ := reaches_perform hc kept step
  obtain ⟨new, turns, count⟩ := settles.count_send kept
  exact ⟨a, new, returns, turns, count⟩

/-- A conduct in which every heartbeat fails, and those of one id stop their own reporter before. -/
def quitting (id : String) : Act (Watch (Diary Unit)) Unit := do
  if id = "a" then
    discard (noted (Watch.stop id) (.stop id))
  Act.stumble (.raised "heartbeat" "no answer")

/-- "a" stops itself, so that its interval is not waited for; "b" lives, and sends another
heartbeat. -/
theorem heartbeats_on_time_of_quitting :
    let steps : List Watch.Step := [.start "b" 1.0, .start "a" 1.0, .tick "a", .tick "b"]
    (∀ id, Conduct (quitting id)) ∧
      ∃ s, Act.Run (perform quitting) ⟨{}, Diary.fresh ()⟩ steps s ∧
        s.own.host.turns = [.send "b", .elapse "b", .elapse "a", .stop "a" true, .send "a",
          .start "a", .send "b", .start "b"] ∧
        s.own.host.turns.Punctual ∧
        s.own.registry.EndedByStops s.own.host.turns ∧
        ∀ step, ∃ a new, outcome (perform quitting step) s = .ok a ∧
          (after (perform quitting step) s).own.host.turns = new ++ s.own.host.turns ∧
          ∀ id, new.count (.send id) =
            if step.roused? = some id ∧ a = some true then 1 else 0 := by
  intro steps
  have hc (id : String) : Conduct (quitting id) := by
    unfold quitting
    split
    · exact .bind (.bind (.stop id) fun _ => .returns ()) fun _ => .raises _
    · exact .raises _
  have run : Act.Run (perform quitting) ⟨{}, Diary.fresh ()⟩ steps _ :=
    .call (.call (.call (.call .start (Watch.Step.start "b" 1.0)) (Watch.Step.start "a" 1.0))
      (Watch.Step.tick "a")) (Watch.Step.tick "b")
  exact ⟨hc, _, run, rfl, heartbeats_on_time hc run⟩

end Diary

end Vigil
