import Mathlib.Data.Nat.Bits
import Vigil.Log.Setup
import Vigil.Proofs.Console.Commands
import Vigil.Proofs.Log.Elsewhere

/-!
# Turning verbose logging on and off

The console shows everything or what is usual, and one command turns it from one to the other. The
flag that says which it is and the level of the console are set by two functions that do not look at
each other: setting the log up gives the console any level and leaves the flag, the command turns
the flag and gives the console one of two levels. So the command done twice leaves the flag and all
handlers but the console, and puts the console at the level that goes with the flag, whatever it
was.

* `Logging.turned`: the log with the console turned to everything or to what is usual.
* `Console.tuned_of_run`: along a run the console has the level that the last call gave it.
* **`Console.verbose_twice`**: what the command done twice leaves, and when that is all.
* `Console.verbose_forgets`: a level that does not go with the flag is not restored.
-/

namespace Vigil

open Act

/-! ## The level of the console -/

/-- The level that goes with showing everything or with not doing so. -/
def usualLevel (verbose : Bool) : Int := if verbose then Level.debug else Level.info

/-- The handler at another level if it is the console, and as it is otherwise. -/
def Handler.tuned (level : Int) (h : Handler) : Handler :=
  if h.sink = .console then { h with level } else h

namespace Handler

variable {level : Int} {h : Handler}

@[simp] theorem sink_tuned : (h.tuned level).sink = h.sink := by
  unfold tuned
  split <;> rfl

@[simp] theorem tuned_tuned (other : Int) : (h.tuned other).tuned level = h.tuned level := by
  by_cases console : h.sink = .console <;> simp [tuned, console]

theorem tuned_of_ne (other : h.sink ≠ .console) : h.tuned level = h := if_neg other

theorem tuned_eq_self_iff : h.tuned level = h ↔ (h.sink = .console → h.level = level) := by
  unfold tuned
  split
  next console =>
    rw [forall_prop_of_true console]
    exact ⟨fun same => congrArg Handler.level same ▸ rfl, fun same => same ▸ rfl⟩
  next other => exact iff_of_true rfl fun console => absurd console other

end Handler

namespace Logging

variable {l : Logging}

/-- The log with the console turned to everything or to what is usual. -/
def turned (verbose : Bool) (l : Logging) : Logging where
  handlers := l.handlers.map (Handler.tuned (usualLevel verbose))
  verbose := verbose

theorem turned_turned (verbose other : Bool) :
    (l.turned other).turned verbose = l.turned verbose := by
  simp [turned]

/-- Nothing is turned if the console has the level that goes with the flag. -/
theorem turned_eq_self_iff : l.turned l.verbose = l ↔
    ∀ h ∈ l.handlers, h.sink = .console → h.level = usualLevel l.verbose := by
  have same : l.turned l.verbose = l ↔
      l.handlers.map (Handler.tuned (usualLevel l.verbose)) = l.handlers.map id := by
    rw [List.map_id]
    exact ⟨congrArg Logging.handlers, fun e => congrArg (Logging.mk · l.verbose) e⟩
  simp only [same, List.map_inj_left, id, Handler.tuned_eq_self_iff]

/-- The first handler alone may be the console. -/
def Single (l : Logging) : Prop := ∀ h ∈ l.handlers.tail, h.sink ≠ .console

/-- The handlers behind a console that is the only one stay as they are. -/
theorem relevel_eq_map {level : Int} {handlers : List Handler}
    (single : ∀ h ∈ handlers.tail, h.sink ≠ .console) :
    relevel level handlers = handlers.map (Handler.tuned level) := by
  have others (rest : List Handler) (hr : ∀ h ∈ rest, h.sink ≠ .console) :
      rest.map (Handler.tuned level) = rest ∧ relevel level rest = rest := by
    induction rest with
    | nil => exact ⟨rfl, rfl⟩
    | cons h rest ih =>
      obtain ⟨other, hr⟩ := List.forall_mem_cons.mp hr
      obtain ⟨kept, same⟩ := ih hr
      exact ⟨by rw [List.map_cons, kept, Handler.tuned_of_ne other],
        by rw [relevel, if_neg other, same]⟩
  cases handlers with
  | nil => rfl
  | cons h rest =>
    obtain ⟨kept, same⟩ := others rest single
    rw [relevel, List.map_cons, kept, same, Handler.tuned]
    split <;> rfl

theorem Single.toggle_eq (single : l.Single) : l.toggle = l.turned !l.verbose := by
  unfold toggle turned usualLevel
  dsimp only
  rw [relevel_eq_map single]

theorem Single.turned (single : l.Single) (verbose : Bool) : (l.turned verbose).Single := by
  intro h hh
  rw [Logging.turned, ← List.map_tail] at hh
  obtain ⟨g, hg, rfl⟩ := List.mem_map.mp hh
  rw [Handler.sink_tuned]
  exact single g hg

end Logging

namespace Console

open Client

/-! ## The two calls -/

/-- The calls that reach the level of the console. -/
inductive LogCall where
  | setUp (settings : Settings) (level : Option Int) (file : Option String)
  | verbose (settings : Settings) (args : List String)

namespace LogCall

/-- Does what is called for. -/
def perform : LogCall → Deed Unit
  | .setUp settings level file => settings.setUpLog level file
  | .verbose settings args => discard (execute settings "verbose" args)

/-- Whether a call turns the flag. -/
def turns : LogCall → Bool
  | .setUp .. => false
  | .verbose .. => true

/-- The level that a call gives the console, if showing everything is then on or off. -/
def level (verbose : Bool) : LogCall → Int
  | .setUp settings given _ => given.getD settings.consoleLevel
  | .verbose .. => usualLevel verbose

end LogCall

variable {σ : Type}

/-- Setting the log up leaves the flag, one console with the level that was asked for, and what else
there is. -/
theorem logging_setUpLog (settings : Settings) (given : Option Int) (file : Option String)
    (s : Scene σ) :
    ∃ files, (∀ h ∈ files, h.sink ≠ .console) ∧
      (after (settings.setUpLog given file) s).world.logging =
        ⟨⟨given.getD settings.consoleLevel, .console⟩ :: files, s.world.logging.verbose⟩ := by
  unfold Settings.setUpLog
  by_cases noFile : file.getD settings.logFile = ""
  · simp only [after_bind, noFile, if_true]
    exact ⟨[], nofun, rfl⟩
  · simp only [after_bind, outcome_alter, after_alter, Settings.addHandler, noFile, if_false,
      outcome_world, after_world]
    split
    · exact ⟨[_], by simp, rfl⟩
    · exact ⟨[], nofun, World.logging_log ..⟩
    · exact ⟨[], nofun, rfl⟩

/-- The command turns the flag and the console. -/
theorem execute_verbose (settings : Settings) (args : List String) (s : Scene (Watch Client)) :
    outcome (execute settings "verbose" args) s = .ok false ∧
      (after (execute settings "verbose" args) s).world.logging = s.world.logging.toggle := by
  have word : Command.verbose.word = "verbose" := rfl
  have does : run settings args .verbose = toggleVerbose := rfl
  have heard : (received "verbose" args s).world.logging = s.world.logging :=
    World.logging_log ..
  constructor
  · rw [outcome_execute_of_command word, does, outcome_toggleVerbose]
    rfl
  · rw [after_execute_of_command word, does, ← heard]
    unfold toggleVerbose
    simp only [after_bind, outcome_alter, after_alter, outcome_world, after_world]
    split
    · exact World.logging_log ..
    · rfl

/-! ## Runs of the two calls -/

variable {start s : Scene (Watch Client)} {calls : List LogCall}

/-- The first handler alone is the console, if there is one, and has the level that the last call
gave it. -/
structure Tuned (calls : List LogCall) (l : Logging) : Prop where
  single : l.Single
  level : ∀ h ∈ l.handlers, h.sink = .console →
    ∃ call, calls.getLast? = some call ∧ h.level = call.level l.verbose
  /-- A log that was set up has a console. -/
  console : ∀ settings given file, calls.getLast? = some (.setUp settings given file) →
    ∃ h ∈ l.handlers, h.sink = .console

/-- A call leaves the console at its level. -/
theorem Tuned.call (tuned : Tuned calls s.world.logging) (call : LogCall) :
    Tuned (calls ++ [call]) (after call.perform s).world.logging := by
  have last : (calls ++ [call]).getLast? = some call := List.getLast?_concat
  cases call with
  | setUp settings given file =>
    obtain ⟨files, others, e⟩ := logging_setUpLog settings given file s
    rw [LogCall.perform, e]
    refine ⟨others, fun h hh console => ⟨_, last, ?_⟩, fun _ _ _ _ => ⟨_, List.mem_cons_self, rfl⟩⟩
    rcases List.mem_cons.mp hh with rfl | hh
    · rfl
    · exact absurd console (others h hh)
  | verbose settings args =>
    rw [LogCall.perform, after_discard, (execute_verbose settings args s).2, tuned.single.toggle_eq]
    refine ⟨tuned.single.turned _, fun h hh console => ⟨_, last, ?_⟩, fun _ _ _ other => ?_⟩
    · obtain ⟨g, -, rfl⟩ := List.mem_map.mp hh
      rw [Handler.sink_tuned] at console
      rw [Handler.tuned, if_pos console]
      rfl
    · cases last.symm.trans other

/-- **Along a run the console has the level that the last call gave it.** -/
theorem tuned_of_run (run : Run LogCall.perform start calls s)
    (fresh : start.world.logging.handlers = []) : Tuned calls s.world.logging := by
  induction run with
  | start =>
    have none_there : ∀ h, h ∉ start.world.logging.handlers := fun h => by simp [fresh]
    exact ⟨fun h hh => absurd (List.mem_of_mem_tail hh) (none_there h),
      fun h hh => absurd hh (none_there h), fun _ _ _ last => nomatch last⟩
  | call _ call tuned => exact tuned.call call
  | outside _ _ tuned => exact tuned

/-- The flag is turned by every command, and by nothing else. -/
theorem verbose_of_run (run : Run LogCall.perform start calls s) :
    s.world.logging.verbose =
      (start.world.logging.verbose ^^ (calls.countP LogCall.turns).bodd) := by
  induction run with
  | start => rw [List.countP_nil, Nat.bodd_zero, Bool.xor_false]
  | outside _ _ ih => exact ih
  | @call _ s _ call ih =>
    rw [List.countP_append, Nat.bodd_add, ← Bool.xor_assoc, ← ih]
    cases call with
    | setUp settings given file =>
      obtain ⟨files, -, e⟩ := logging_setUpLog settings given file s
      rw [LogCall.perform, e]
      simp [LogCall.turns]
    | verbose settings args =>
      rw [LogCall.perform, after_discard, (execute_verbose settings args s).2]
      simp [LogCall.turns, Logging.toggle]

/-- **The command done twice leaves the flag and all handlers but the console**, and puts the
console at the level that goes with the flag, along every run of the two calls. So it leaves the
console, too, exactly if the last call did not set it to another level. -/
theorem verbose_twice (run : Run LogCall.perform start calls s)
    (fresh : start.world.logging.handlers = []) (settings settings' : Settings)
    (args args' : List String) :
    let l := s.world.logging
    let once := after (execute settings "verbose" args) s
    let twice := after (execute settings' "verbose" args') once
    l.verbose = (start.world.logging.verbose ^^ (calls.countP LogCall.turns).bodd) ∧
      outcome (execute settings "verbose" args) s = .ok false ∧
      outcome (execute settings' "verbose" args') once = .ok false ∧
      once.world.logging = l.turned (!l.verbose) ∧
      twice.world.logging = l.turned l.verbose ∧
      (twice.world.logging = l ↔ ∀ settings given file,
        calls.getLast? = some (.setUp settings given file) →
          given.getD settings.consoleLevel = usualLevel l.verbose) := by
  intro l once twice
  have tuned := tuned_of_run run fresh
  obtain ⟨ends, first⟩ := execute_verbose settings args s
  obtain ⟨ends', second⟩ := execute_verbose settings' args' once
  have first : once.world.logging = l.turned (!l.verbose) := first.trans tuned.single.toggle_eq
  have second : twice.world.logging = l.turned l.verbose := by
    rw [second, first, (tuned.single.turned _).toggle_eq, Logging.turned_turned]
    exact congrArg (Logging.turned · l) (Bool.not_not _)
  refine ⟨verbose_of_run run, ends, ends', first, second, ?_⟩
  rw [second, Logging.turned_eq_self_iff]
  constructor
  · intro same settings given file last
    obtain ⟨h, hh, console⟩ := tuned.console _ _ _ last
    obtain ⟨call, last', level⟩ := tuned.level h hh console
    cases last.symm.trans last'
    exact level.symm.trans (same h hh console)
  · intro usual h hh console
    obtain ⟨call, last, level⟩ := tuned.level h hh console
    rw [level]
    cases call with
    | setUp settings given file => exact usual _ _ _ last
    | verbose => rfl

/-- A console that was set to the level of warnings, once it was turned. -/
theorem verbose_twice_of_turned :
    let start : Scene (Watch Client) := ⟨{}, { host := create {} {} }⟩
    let set : LogCall := .setUp {} (some Level.warning) none
    let turn : LogCall := .verbose {} []
    let s := after turn.perform (after set.perform start)
    Run LogCall.perform start [set, turn] s ∧ start.world.logging.handlers = [] ∧
      s.world.logging = ⟨[⟨Level.debug, .console⟩], true⟩ ∧
      (after (execute {} "verbose" []) (after (execute {} "verbose" []) s)).world.logging =
        s.world.logging := by
  intro start set turn s
  have run : Run LogCall.perform start [set, turn] s := .call (.call .start set) turn
  have fresh : start.world.logging.handlers = [] := rfl
  obtain ⟨-, -, -, -, -, same⟩ := verbose_twice run fresh {} {} [] []
  exact ⟨run, fresh, by decide +kernel, same.mpr fun _ _ _ last => nomatch last⟩

/-- A console that was set to the level of warnings and is turned twice is at the usual level. -/
theorem verbose_forgets :
    let start : Scene (Watch Client) := ⟨{}, { host := create {} {} }⟩
    let set : LogCall := .setUp {} (some Level.warning) none
    let s := after set.perform start
    Run LogCall.perform start [set] s ∧
      s.world.logging = ⟨[⟨Level.warning, .console⟩], false⟩ ∧
      (after (execute {} "verbose" []) (after (execute {} "verbose" []) s)).world.logging =
        ⟨[⟨Level.info, .console⟩], false⟩ := by
  intro start set s
  exact ⟨.call .start set, by decide +kernel, by decide +kernel⟩

end Console

end Vigil
