import Vigil.Proofs.Reporter.Effects
import Vigil.Proofs.Reporter.History
import Vigil.Proofs.Reporter.Tended

/-!
# Reporters that keep a diary

A host may keep a diary of what happens to the reporters beside its own state. `Diary.perform`
takes a step of the watch and writes it down; `Diary.send` writes down that a heartbeat begins and
then follows a conduct. A conduct is anything that a heartbeat may do (`Diary.Conduct`): it returns
or raises, uses its own state and the world as it likes, and stops reporters, the one it runs on
included.

The registry and the diary stay in step (`Diary.Kept`): the entries are what the history says.

* `Diary.Conduct.respects`: a conduct keeps them in step and rouses nobody.
* `Diary.reaches_perform`: so does a step, and it returns what the ids listed say.
* `Diary.kept_of_run`: so does every run of steps.
-/

namespace Vigil

/-- A host that keeps a diary of what happens to the reporters. -/
structure Diary (σ : Type) where
  turns : History := []
  host : σ

namespace Diary

open Act

variable {σ α β : Type}

/-- Writes turns down. -/
def write (turns : History) : Act (Watch (Diary σ)) Unit :=
  Act.update fun w => ⟨w.registry, ⟨turns ++ w.host.turns, w.host.host⟩⟩

/-- Does something that the reporters have no part in. -/
def apart (x : Act σ α) : Act (Watch (Diary σ)) α :=
  Watch.hosted (Act.within (·.host) (fun host diary => ⟨diary.turns, host⟩) x)

/-- Does something with the reporters and writes it down. -/
def noted (x : Act (Watch (Diary σ)) α) (turn : α → Turn) : Act (Watch (Diary σ)) α := do
  let answer ← x
  write [turn answer]
  pure answer

/-- What a heartbeat may do. -/
inductive Conduct : {α : Type} → Act (Watch (Diary σ)) α → Prop
  | returns {α : Type} (a : α) : Conduct (pure a)
  | raises {α : Type} (e : Raised) : Conduct (throw e : Act (Watch (Diary σ)) α)
  | bind {α β : Type} {x : Act (Watch (Diary σ)) α} {f : α → Act (Watch (Diary σ)) β}
      (hx : Conduct x) (hf : ∀ a, Conduct (f a)) : Conduct (x >>= f)
  | attempt {α : Type} {x : Act (Watch (Diary σ)) α} (hx : Conduct x) : Conduct (Act.attempt x)
  | apart {α : Type} (x : Act σ α) : Conduct (Diary.apart x)
  | stop (id : String) : Conduct (noted (Watch.stop id) (.stop id))
  | stopAll : Conduct (noted Watch.stopAll fun _ => .stopAll)
  | isRunning (id : String) : Conduct (noted (Watch.isRunning id) (.isRunning id))
  | activeIds : Conduct Watch.activeIds

/-- Writes down that a heartbeat begins, and follows the conduct. -/
def send (conduct : String → Act (Watch (Diary σ)) Unit) (id : String) :
    Act (Watch (Diary σ)) Unit := do
  write [.send id]
  conduct id

/-- What is written down before a step. -/
def opening : Watch.Step → History
  | .start id _ => [.start id]
  | .tick id => [.elapse id]
  | _ => []

/-- What is written down after a step with its answer. -/
def closing (answer : Option Bool) : Watch.Step → History
  | .stop id => [.stop id (answer = some true)]
  | .stopAll => [.stopAll]
  | .isRunning id => [.isRunning id (answer = some true)]
  | _ => []

/-- Takes a step and writes it down. -/
def perform (conduct : String → Act (Watch (Diary σ)) Unit) (step : Watch.Step) :
    Act (Watch (Diary σ)) (Option Bool) := do
  write (opening step)
  let answer ← Watch.take (send conduct) step
  write (closing answer step)
  pure answer

/-- What a step answers when some ids are listed. -/
def answer (ids : List String) : Watch.Step → Option Bool
  | .start id _ => some (id ∉ ids)
  | .stop id | .isRunning id | .tick id => some (id ∈ ids)
  | .stopAll => none

/-! ## The registry and the diary in step -/

/-- The registry is as the diary says; `busy` is the reporter that beats just now, if one does, and
`due` the id that a heartbeat is due for. -/
structure Kept (w : Watch (Diary σ)) (busy : Option Nat) (due : Option String) : Prop where
  tended : w.registry.Tended busy
  entries : w.registry.entries = w.host.turns.posts
  names : w.registry.names = w.host.turns.begun
  orderly : w.host.turns.Orderly
  due : w.host.turns.due = due

namespace Kept

variable {w : Watch (Diary σ)} {busy : Option Nat} {due : Option String}

theorem ids (h : Kept w busy due) : w.registry.entries.map Prod.fst = w.host.turns.listed := by
  rw [h.entries, History.posts_ids]

/-- Somebody is in charge of the ids that are listed. -/
theorem isSome_number? (h : Kept w busy due) (id : String) :
    (w.registry.number? id).isSome = decide (id ∈ w.host.turns.listed) := by
  rw [Bool.eq_iff_iff, Option.isSome_iff_ne_none, decide_eq_true_iff, Ne,
    Registry.number?_eq_none_iff, h.ids]
  exact Decidable.not_not

theorem isRunning_eq (h : Kept w busy due) (id : String) :
    w.registry.isRunning id = decide (id ∈ w.host.turns.listed) :=
  (h.tended.isRunning_eq id).trans (h.isSome_number? id)

/-- **A stop keeps them in step.** -/
theorem stop (h : Kept w busy none) (id : String) :
    Kept ⟨w.registry.halt id,
      ⟨.stop id (w.registry.number? id).isSome :: w.host.turns, w.host.host⟩⟩ busy none := by
  have relieved := Registry.Relieved.halt h.tended.nodup id
  refine ⟨h.tended.relieved relieved, ?_, relieved.names.trans h.names,
    .turn h.orderly ⟨h.due, h.isSome_number? id⟩, rfl⟩
  rw [relieved.entries, h.entries]
  rfl

theorem stopAll (h : Kept w busy none) :
    Kept ⟨w.registry.haltAll, ⟨.stopAll :: w.host.turns, w.host.host⟩⟩ busy none := by
  have relieved := Registry.Relieved.haltAll w.registry
  refine ⟨h.tended.relieved relieved, ?_, relieved.names.trans h.names, .turn h.orderly h.due, rfl⟩
  exact relieved.entries.trans (List.filter_eq_nil_iff.mpr fun _ _ => nofun)

theorem isRunning (h : Kept w busy none) (id : String) :
    Kept ⟨w.registry, ⟨.isRunning id (w.registry.isRunning id) :: w.host.turns, w.host.host⟩⟩
      busy none :=
  ⟨h.tended, h.entries, h.names, .turn h.orderly ⟨h.due, h.isRunning_eq id⟩, rfl⟩

/-- A start for an id that is listed changes nothing. -/
theorem start_listed (h : Kept w none none) {id : String} (listed : id ∈ w.host.turns.listed) :
    Kept ⟨w.registry, ⟨.start id :: w.host.turns, w.host.host⟩⟩ none none where
  tended := h.tended
  entries := h.entries.trans (if_pos listed).symm
  names := h.names.trans (if_pos listed).symm
  orderly := .turn h.orderly h.due
  due := if_pos listed

/-- A start for another id enlists a reporter, whose heartbeat is due. -/
theorem start_absent (h : Kept w none none) {id : String} (absent : id ∉ w.host.turns.listed)
    (interval : Float) :
    Kept ⟨w.registry.enlist id interval, ⟨.start id :: w.host.turns, w.host.host⟩⟩
      (some w.registry.reporters.length) (some id) := by
  have vacant : id ∉ w.registry.entries.map Prod.fst := h.ids ▸ absent
  refine ⟨h.tended.enlist vacant interval, ?_, ?_, .turn h.orderly h.due, if_neg absent⟩
  · rw [Registry.entries_enlist vacant, h.entries]
    have number : w.registry.reporters.length = w.host.turns.begun.length := by
      rw [← h.names, Registry.names, List.length_map]
    rw [number]
    exact (if_neg absent).symm
  · rw [Registry.names_enlist, h.names]
    exact (if_neg absent).symm

/-- An interval that elapses makes a heartbeat due if its id is listed. -/
theorem elapse (h : Kept w none none) (id : String) :
    Kept ⟨w.registry, ⟨.elapse id :: w.host.turns, w.host.host⟩⟩ none
      (if id ∈ w.host.turns.listed then some id else none) :=
  ⟨h.tended, h.entries, h.names, .turn h.orderly h.due, rfl⟩

/-- When a heartbeat is due, the reporter may beat. -/
theorem send {id : String} (h : Kept w busy (some id)) {number : Nat}
    (hb : busy = none ∨ busy = some number) :
    Kept ⟨w.registry.enter number .beating, ⟨.send id :: w.host.turns, w.host.host⟩⟩
      (some number) none :=
  ⟨h.tended.beating hb, h.entries, (w.registry.names_enter number .beating).trans h.names,
    .turn h.orderly h.due, rfl⟩

/-- A reporter that has beaten waits or exits, and then none beats. -/
theorem rest {number : Nat} (h : Kept w (some number) none) :
    Kept ⟨w.registry.enter number (if w.registry.isLive number then .parked else .exited), w.host⟩
      none none :=
  ⟨h.tended.rest, h.entries, (w.registry.names_enter number _).trans h.names, h.orderly, h.due⟩

end Kept

/-! ## Heartbeats -/

/-- Keeps the registry and the diary in step, and rouses nobody. -/
def asides : Frame (Watch (Diary σ)) where
  holds v w := (∀ busy, Kept v busy none → Kept w busy none) ∧
    v.host.turns.CalmSince w.host.turns
  refl w := ⟨fun _ h => h, .refl w.host.turns⟩
  trans := fun ⟨kept, calm⟩ ⟨kept', calm'⟩ =>
    ⟨fun busy h => kept' busy (kept busy h), calm.trans calm'⟩

variable {s : Scene (Watch (Diary σ))}

theorem reaches_write {turns : History} {Q : Unit → Scene (Watch (Diary σ)) → Prop}
    (hQ : ∀ t : Scene (Watch (Diary σ)),
      t.own = ⟨s.own.registry, ⟨turns ++ s.own.host.turns, s.own.host.host⟩⟩ → Q () t) :
    Reaches s (write turns) Q := .update (hQ _ rfl)

/-- What changes the registry as the turn says that is written down. -/
theorem respects_noted {x : Act (Watch (Diary σ)) α} {turn : α → Turn} {a : Registry → α}
    {f : Registry → Registry} (leads : ∀ r, Watch.Leads r x (a r) (f r))
    (quiet : ∀ b, (turn b).rouses = false)
    (kept : ∀ {w : Watch (Diary σ)} {busy}, Kept w busy none →
      Kept ⟨f w.registry, ⟨turn (a w.registry) :: w.host.turns, w.host.host⟩⟩ busy none) :
    Respects asides.own (noted x turn) := by
  intro s
  refine Reaches.after (s := s) (P := fun t => asides.holds s.own t.own)
    (.bind ((leads s.own.registry).reaches fun t ht => .bind (reaches_write fun u hu => .pure ?_)))
  rw [hu, ht]
  exact ⟨fun _ h => kept h, .cons (.refl _) (quiet _)⟩

/-- **A conduct keeps the registry and the diary in step, and rouses nobody.** -/
theorem Conduct.respects {x : Act (Watch (Diary σ)) α} (h : Conduct x) :
    Respects asides.own x := by
  induction h with
  | returns a => exact .pure a
  | raises e => exact .throw e
  | bind _ _ ihx ihf => exact .bind ihx ihf
  | attempt _ ih => exact .attempt ih
  | apart x =>
    intro s
    show asides.holds s.own (after (Diary.apart x) s).own
    rw [Diary.apart, Watch.hosted, after_within, after_within]
    exact ⟨fun _ h => ⟨h.tended, h.entries, h.names, h.orderly, h.due⟩, .refl _⟩
  | stop id => exact respects_noted (fun _ => Watch.leads_stop id) (fun _ => rfl) (·.stop id)
  | stopAll => exact respects_noted (fun _ => Watch.leads_stopAll) (fun _ => rfl) (·.stopAll)
  | isRunning id =>
    exact respects_noted (fun _ => Watch.leads_isRunning id) (fun _ => rfl) (·.isRunning id)
  | activeIds =>
    intro s
    show asides.holds s.own (after Watch.activeIds s).own
    rw [(Watch.leads_activeIds s rfl).2]
    exact asides.refl _

variable {conduct : String → Act (Watch (Diary σ)) Unit}

theorem after_send (id : String) (s : Scene (Watch (Diary σ))) :
    after (send conduct id) s = after (conduct id)
      ⟨s.world, ⟨s.own.registry, ⟨.send id :: s.own.host.turns, s.own.host.host⟩⟩⟩ := rfl

/-- **A reporter whose heartbeat is due beats**, and then the registry and the diary are in step
again. -/
theorem reaches_beat (hc : ∀ id, Conduct (conduct id)) {busy : Option Nat} {number : Nat}
    {reporter : Reporter} (h : Kept s.own busy (some reporter.id))
    (hb : busy = none ∨ busy = some number)
    (found : s.own.registry.reporter? number = some reporter) :
    Reaches s (Watch.beat (send conduct) number) fun _ t =>
      Kept t.own none none ∧ s.own.host.turns.CalmSince t.own.host.turns := by
  refine Watch.reaches_beat found fun before t beating rested => ?_
  have ht := rested.own
  rw [after_send, beating.own] at ht
  obtain ⟨kept, calm⟩ := (hc reporter.id).respects ⟨before.world, _⟩
  rw [ht]
  exact ⟨(kept _ (h.send hb)).rest, ((History.CalmSince.refl _).cons rfl).trans calm⟩

/-- What a step may come to when the registry and the diary are in step. -/
structure Settles (before : Watch (Diary σ)) (step : Watch.Step) (a : Option Bool)
    (after : Watch (Diary σ)) : Prop where
  answers : a = answer before.host.turns.listed step
  kept : Kept after none none
  calm : History.CalmSince (opening step ++ before.host.turns) after.host.turns

/-- A step that sends no heartbeat is written down after it was taken. -/
theorem reaches_quiet {step : Watch.Step} {a : Registry → Option Bool} {f : Registry → Registry}
    {t : Turn} (leads : ∀ r, Watch.Leads r (Watch.take (send conduct) step) (a r) (f r))
    (opens : opening step = []) (closes : closing (a s.own.registry) step = [t])
    (quiet : t.rouses = false)
    (answers : a s.own.registry = answer s.own.host.turns.listed step)
    (kept : Kept ⟨f s.own.registry, ⟨t :: s.own.host.turns, s.own.host.host⟩⟩ none none) :
    Reaches s (perform conduct step) fun a t => Settles s.own step a t.own := by
  rw [perform, opens]
  refine .bind (reaches_write fun u hu => .bind ((leads _).reaches fun v hv => ?_))
  have found : u.own.registry = s.own.registry := by rw [hu]
  rw [found, closes]
  refine .bind (reaches_write fun w hw => .pure ?_)
  rw [hw, hv, hu]
  refine ⟨answers, kept, ?_⟩
  rw [opens]
  exact .cons (.refl _) quiet

/-- A step that is written down before it is taken. -/
theorem reaches_rousing {step : Watch.Step} (closes : ∀ a, closing a step = [])
    (h : ∀ t : Scene (Watch (Diary σ)),
      t.own = ⟨s.own.registry, ⟨opening step ++ s.own.host.turns, s.own.host.host⟩⟩ →
      Reaches t (Watch.take (send conduct) step) fun a u => Settles s.own step a u.own) :
    Reaches s (perform conduct step) fun a t => Settles s.own step a t.own := by
  refine .bind (reaches_write fun t ht => .bind ((h t ht).mono fun a u settles => ?_))
  rw [closes]
  exact .bind (reaches_write fun v hv => .pure (hv ▸ settles))

/-- A start has its reporter beat, unless its id is listed. -/
theorem reaches_start (hc : ∀ id, Conduct (conduct id)) (h : Kept s.own none none) (id : String)
    (interval : Float) :
    Reaches s (perform conduct (.start id interval)) fun a t =>
      Settles s.own (.start id interval) a t.own := by
  refine reaches_rousing (fun _ => rfl) fun t ht => .map ?_
  by_cases listed : id ∈ s.own.host.turns.listed
  · refine Watch.reaches_start_running ?_ ⟨?_, ?_, ?_⟩
    · rw [ht, h.isRunning_eq, decide_eq_true listed]
    · simp [answer, listed]
    · rw [ht]
      exact h.start_listed listed
    · rw [ht]
      exact .refl _
  · have vacant : s.own.registry.number? id = none := by
      rw [Registry.number?_eq_none_iff, h.ids]
      exact listed
    refine Watch.reaches_start (by rw [ht]; exact vacant) fun u hu _ => ?_
    have kept : Kept u.own (some t.own.registry.reporters.length) (some id) := by
      rw [hu, ht]
      exact h.start_absent listed interval
    have found : u.own.registry.reporter? t.own.registry.reporters.length =
        some { id := id, interval := interval } := by
      rw [hu, Registry.reporter?_enlist, if_pos rfl]
    have turns : u.own.host.turns = opening (.start id interval) ++ s.own.host.turns := by rw [hu, ht]
    refine (reaches_beat hc kept (.inr rfl) found).mono fun _ v beaten => ⟨?_, beaten.1, ?_⟩
    · simp [answer, listed]
    · exact turns ▸ beaten.2

/-- An interval that elapses has a reporter beat if its id is listed. -/
theorem reaches_tick (hc : ∀ id, Conduct (conduct id)) (h : Kept s.own none none) (id : String) :
    Reaches s (perform conduct (.tick id)) fun a t => Settles s.own (.tick id) a t.own := by
  refine reaches_rousing (fun _ => rfl) fun t ht => .map ?_
  have elapsed := h.elapse id
  by_cases listed : id ∈ s.own.host.turns.listed
  · rw [if_pos listed] at elapsed
    obtain ⟨number, charged⟩ := Option.isSome_iff_exists.mp
      ((h.isSome_number? id).trans (decide_eq_true listed))
    obtain ⟨reporter, found, rfl⟩ := h.tended.charged _
      ((Registry.number?_eq_some_iff h.tended.nodup id number).mp charged)
    have waiting : t.own.registry.parked? reporter.id = some number := by
      rw [ht, h.tended.parked?_eq, charged]
    have kept : Kept t.own none (some reporter.id) := by
      rw [ht]
      exact elapsed
    have same : t.own.registry.reporter? number = some reporter := by
      rw [ht]
      exact found
    have turns : t.own.host.turns = opening (.tick reporter.id) ++ s.own.host.turns := by rw [ht]
    refine Watch.reaches_tick waiting ((reaches_beat hc kept (.inl rfl) same).mono
      fun _ v beaten => ⟨?_, beaten.1, ?_⟩)
    · simp [answer, listed]
    · exact turns ▸ beaten.2
  · rw [if_neg listed] at elapsed
    refine Watch.reaches_tick_none ?_ ⟨?_, ?_, ?_⟩
    · rw [ht, h.tended.parked?_eq, Registry.number?_eq_none_iff, h.ids]
      exact listed
    · simp [answer, listed]
    · rw [ht]
      exact elapsed
    · rw [ht]
      exact .refl _

/-- **A step keeps the registry and the diary in step**, and answers what the ids listed say. -/
theorem reaches_perform (hc : ∀ id, Conduct (conduct id)) (h : Kept s.own none none)
    (step : Watch.Step) :
    Reaches s (perform conduct step) fun a t => Settles s.own step a t.own := by
  cases step with
  | start id interval => exact reaches_start hc h id interval
  | stop id =>
    refine reaches_quiet (fun _ => .map some (Watch.leads_stop id)) rfl ?_ rfl
      (congrArg some (h.isSome_number? id)) (h.stop id)
    simp [closing]
  | stopAll =>
    exact reaches_quiet (a := fun _ => none) (fun _ => .bind Watch.leads_stopAll (.pure none)) rfl
      rfl rfl rfl h.stopAll
  | isRunning id =>
    refine reaches_quiet (fun _ => .map some (Watch.leads_isRunning id)) rfl ?_ rfl
      (congrArg some (h.isRunning_eq id)) (h.isRunning id)
    simp [closing]
  | tick id => exact reaches_tick hc h id

/-! ## Runs -/

/-- A new watch, with nothing in its diary. -/
def fresh (host : σ) : Watch (Diary σ) := { host := { host } }

theorem Kept.fresh (host : σ) : Kept (Diary.fresh host) none none where
  tended := .empty
  entries := rfl
  names := rfl
  orderly := .nothing
  due := rfl

/-- **Every run of steps keeps the registry and the diary in step.** -/
theorem kept_of_run (hc : ∀ id, Conduct (conduct id)) {w : World} {host : σ}
    {steps : List Watch.Step} (run : Act.Run (perform conduct) ⟨w, Diary.fresh host⟩ steps s) :
    Kept s.own none none := by
  induction run with
  | start => exact .fresh host
  | call _ step ih => exact ((reaches_perform hc ih step).mono fun _ _ settles => settles.kept).after
  | outside _ _ ih => exact ih

end Diary

end Vigil
