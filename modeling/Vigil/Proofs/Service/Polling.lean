import Vigil.Proofs.Service.Faults

/-!
# Waiting for a state

The state of a service is asked for again and again until it is the awaited one. What that comes
to is told by what the service manager has to report: the first report that settles the waiting
decides, and the failures of queries before it are of no consequence.

* `Manager.reports`: what the next queries are told, query by query.
* `Controller.outcome_poll`: polling, told by the reports.
* `Controller.awaitState_cases`: waiting, with what is logged when it was in vain.
-/

namespace Vigil

open Act

/-! ## What the service manager has to report -/

namespace Manager

/-- The service manager after one query: the answer is used up, and a state it gave stays. -/
def polled (m : Manager) : Manager :=
  match m.next .queryStatus with
  | (.state value, rest) => { rest with state := value }
  | (_, rest) => rest

/-- What the next queries are told, one after the other; a query that fails is told nothing. -/
def reports (m : Manager) : (queries : Nat) → List (Option UInt32)
  | 0 => []
  | queries + 1 => m.reported? :: m.polled.reports queries

variable {m n : Manager}

theorem length_reports (m : Manager) (queries : Nat) : (m.reports queries).length = queries := by
  induction queries generalizing m with
  | zero => rfl
  | succ queries ih => rw [reports, List.length_cons, ih]

theorem polled_congr (answers : n.answers .queryStatus = m.answers .queryStatus)
    (state : n.state = m.state) :
    n.polled.answers .queryStatus = m.polled.answers .queryStatus ∧
      n.polled.state = m.polled.state := by
  unfold polled next
  rw [answers]
  cases m.answers .queryStatus with
  | nil => exact ⟨answers, state⟩
  | cons answer rest =>
    cases answer with
    | done => exact ⟨by simp, state⟩
    | failed code => exact ⟨by simp, state⟩
    | state value => exact ⟨by simp, rfl⟩

/-- What is reported is told by the answers to queries and by the state. -/
theorem reports_congr (answers : n.answers .queryStatus = m.answers .queryStatus)
    (state : n.state = m.state) (queries : Nat) : n.reports queries = m.reports queries := by
  induction queries generalizing m n with
  | zero => rfl
  | succ queries ih =>
    obtain ⟨answers', state'⟩ := polled_congr answers state
    rw [reports, reports, Manager.reported?_congr answers state, ih answers' state']

end Manager

/-- The report settles the waiting for a state: it is of that state, or of one that there is none
for. -/
def ServiceState.settledBy (target : ServiceState) : Option UInt32 → Bool
  | none => false
  | some value =>
    match ofNumber? value with
    | some state => state = target
    | none => true

/-! ## Asking again and again -/

/-- A query uses up one report. -/
theorem Service.manager_query {σ : Type} (service : Nat) (s : Scene σ) :
    (after (query service) s).world.manager = s.world.manager.polled := by
  have read (t : Scene σ) : (after (readState service) t).world.manager = t.world.manager := by
    unfold readState
    simp only [after_bind, outcome_world, after_world, outcome_note, after_note]
    split <;> rfl
  unfold query Manager.polled
  simp only [after_bind, outcome_ask, after_ask]
  cases e : s.world.manager.next .queryStatus with
  | mk answer rest =>
    cases answer with
    | failed code => rfl
    | done => exact read _
    | state value => exact read _

namespace Controller

variable {α : Type}

theorem after_guarded (x : Act Controller α) (s : Scene Controller) :
    after (guarded x) s = after x s := by
  rw [guarded, after_bind, outcome_attempt, after_attempt]
  dsimp only
  split <;> rfl

/-- How polling ends once it is known which report settles it, if any does. -/
def PollEnds (ending : Except Raised (Option ServiceState × Bool)) :
    Option (Option UInt32) → Prop
  | some (some value) => ending = (Service.told value).map fun state => (some state, true)
  | _ => ∃ last, ending = .ok (last, false)

/-- **Polling is told by the reports**: the first that settles the waiting decides, and if none
does, the waiting was in vain. -/
theorem outcome_poll (service : Nat) (target : ServiceState) (queries : Nat)
    (seen : Option ServiceState) (s : Scene Controller) :
    PollEnds (outcome (poll service target queries seen) s)
      ((s.world.manager.reports queries).find? target.settledBy) := by
  induction queries generalizing s seen with
  | zero => exact ⟨seen, rfl⟩
  | succ queries ih =>
    have asked := Service.outcome_query service (s := s)
    have used : (after (guarded (Service.query service)) s).world.manager =
        s.world.manager.polled := by rw [after_guarded, Service.manager_query]
    have goOn (seen : Option ServiceState) (t : Scene Controller)
        (ht : t.world.manager = s.world.manager.polled) :
        PollEnds (outcome (poll service target queries seen) t)
          ((s.world.manager.polled.reports queries).find? target.settledBy) := ht ▸ ih seen t
    rw [Manager.reports]
    cases reported : s.world.manager.reported? with
    | none =>
      rw [reported] at asked
      obtain ⟨fault, fails⟩ := asked
      rw [List.find?_cons_of_neg (by simp [ServiceState.settledBy])]
      simp only [poll, outcome_bind, outcome_guarded, fails, log, outcome_log, outcome_own,
        outcome_sleep, after_own]
      exact goOn _ _ ((World.manager_log ..).trans used)
    | some value =>
      rw [reported] at asked
      dsimp only at asked
      cases known : ServiceState.ofNumber? value with
      | none =>
        rw [List.find?_cons_of_pos (by simp [ServiceState.settledBy, known])]
        simp [PollEnds, poll, outcome_bind, outcome_guarded, asked, Service.told, known, Except.map]
      | some state =>
        have read : outcome (guarded (Service.query service)) s = .ok (.ok state) := by
          rw [outcome_guarded, asked, Service.told, known]
        rw [poll, outcome_bind, read]
        dsimp only
        by_cases reached : state = target
        · rw [List.find?_cons_of_pos (by simp [ServiceState.settledBy, known, reached]),
            if_pos reached]
          simp [PollEnds, Service.told, known, Except.map]
        · rw [List.find?_cons_of_neg (by simp [ServiceState.settledBy, known, reached]),
            if_neg reached]
          exact goOn _ _ used

/-! ## Waiting -/

/-- Why waiting for a state fails: a state that there is none for is reported before the awaited
one; or the waiting was in vain, and the number of attempts is beyond the doubles, so that the
seconds it took cannot be told. -/
inductive WaitFails (target : ServiceState) (attempts : Int) (reports : List (Option UInt32)) :
    Mishap → Prop
  | strange {value : UInt32} (first : reports.find? target.settledBy = some (some value))
      (unknown : ServiceState.ofNumber? value = none) :
      WaitFails target attempts reports (.unknownState value)
  | immense (vain : reports.find? target.settledBy = none)
      (huge : Number.ofInt? attempts = none) :
      WaitFails target attempts reports .integerTooLarge

theorem WaitFails.unique {target : ServiceState} {attempts : Int}
    {reports : List (Option UInt32)} {why other : Mishap}
    (h : WaitFails target attempts reports why) (h' : WaitFails target attempts reports other) :
    why = other := by
  cases h with
  | strange first unknown =>
    cases h' with
    | strange first' => cases first.symm.trans first'; rfl
    | immense vain => exact nomatch first.symm.trans vain
  | immense vain huge =>
    cases h' with
    | strange first => exact nomatch first.symm.trans vain
    | immense => rfl

/-- **Waiting fails for these reasons alone**, and otherwise ends with the state last seen. -/
theorem awaitState_cases (service : Nat) (target : ServiceState) (s : Scene Controller) :
    let fails := WaitFails target s.own.attempts (s.world.manager.reports s.own.attempts.toNat)
    (∃ why, fails why ∧ outcome (awaitState service target) s = .error (.mishap why)) ∨
      (∀ why, ¬fails why) ∧ ∃ seen, outcome (awaitState service target) s = .ok seen := by
  intro fails
  have polled := outcome_poll service target s.own.attempts.toNat none s
  rw [awaitState, outcome_bind, outcome_own, after_own]
  dsimp only
  rw [outcome_bind]
  cases decisive : (s.world.manager.reports s.own.attempts.toNat).find? target.settledBy with
  | none =>
    rw [decisive] at polled
    obtain ⟨last, vain⟩ := polled
    rw [vain]
    cases seconds : Number.ofInt? s.own.attempts with
    | none =>
      refine .inl ⟨.integerTooLarge, .immense decisive seconds, ?_⟩
      simp only [patience, seconds]
      rfl
    | some attempts =>
      refine .inr ⟨?_, last, ?_⟩
      · rintro _ (⟨first, -⟩ | ⟨-, huge⟩)
        · cases first.symm.trans decisive
        · cases huge.symm.trans seconds
      · simp only [patience, seconds]
        rfl
  | some report =>
    have settled : target.settledBy report = true := List.find?_some decisive
    cases report with
    | none => cases settled
    | some value =>
      rw [decisive] at polled
      cases known : ServiceState.ofNumber? value with
      | none =>
        refine .inl ⟨.unknownState value, .strange decisive known, ?_⟩
        rw [polled, Service.told, known]
        rfl
      | some state =>
        refine .inr ⟨?_, some state, ?_⟩
        · rintro _ (⟨first, unknown⟩ | ⟨vain, -⟩)
          · cases decisive.symm.trans first
            cases unknown.symm.trans known
          · cases vain.symm.trans decisive
        · rw [polled, Service.told, known]
          rfl

end Controller

end Vigil
