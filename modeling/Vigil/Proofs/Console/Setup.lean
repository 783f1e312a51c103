import Vigil.Proofs.Client.Setup
import Vigil.Proofs.Console.Commands
import Vigil.Proofs.Console.Sheet
import Vigil.Proofs.Service.Told

/-!
# What is said of a service that was set up

The console says that the service runs once it was set up without a failure. That is the case where
it is seen to run before it is started, and where a start was accepted, whatever the waiting for it
came to: the state that a start gives is not looked at. So what is said is true of what was told
last exactly where the service was seen to run, before or while it was waited for.

* `Client.SeesRunning`: setting up sees the service run.
* **`Console.setup_tells`**: when the console says that the service runs, and when it was told so.
* `Console.setup_says_too_much`: it says so of a service whose start is pending.
-/

namespace Vigil

open Act

namespace Client

/-- Setting the service up sees it run: when it asks whether it does, or while it waits for the
start. -/
def SeesRunning (path : String) (s : Scene (Watch Client)) : Prop :=
  ∃ u, Checks (.quickSetup path) s u ∧ (Controller.SeenRunning (controllerOf u) ∨
    ∃ report ∈ Controller.Order.sees (controllerOf (after isServiceRunning u)),
      ServiceState.running.reachedBy report = true)

section

variable {s t u v : Scene (Watch Client)} {path : String} {before : List Event}
  {seen : Option ServiceState} {result : Result Unit}

/-- Whether the service runs is asked in one scene. -/
theorem Checks.unique (hu : Checks (.quickSetup path) s u) (hv : Checks (.quickSetup path) s v) :
    u = v := by
  cases hu with
  | installed h =>
    cases hv with
    | installed => rfl
    | fresh h' => cases h.symm.trans h'
  | fresh h =>
    cases hv with
    | installed h' => cases h.symm.trans h'
    | fresh => rfl

theorem seesRunning_iff (asked : Checks (.quickSetup path) s u) :
    SeesRunning path s ↔ Controller.SeenRunning (controllerOf u) ∨
      ∃ report ∈ Controller.Order.sees (controllerOf (after isServiceRunning u)),
        ServiceState.running.reachedBy report = true := by
  constructor
  · rintro ⟨v, asked', runs⟩
    exact asked'.unique asked ▸ runs
  · exact fun runs => ⟨u, asked, runs⟩

/-- A call that succeeds does what the controller does. -/
theorem serviceCall_success {α : Type} {operation : Operation} {x : Act Controller α} {a : α}
    {k : Option ProtocolFault} (done : outcome (serviceCall operation x) s = .ok (.success a k)) :
    outcome x (controllerOf s) = .ok a ∧
      (after (serviceCall operation x) s).world = (after x (controllerOf s)).world := by
  rw [serviceCall, outcome_bind, outcome_attempt, outcome_onController] at done
  rw [serviceCall, after_bind, outcome_attempt, outcome_onController, after_attempt,
    after_onController]
  cases e : outcome x (controllerOf s) with
  | ok b =>
    rw [e] at done
    cases done
    exact ⟨rfl, rfl⟩
  | error raised =>
    rw [e] at done
    cases raised <;> cases done

theorem isServiceRunning_follows {running : Bool} (h : Following before none s)
    (answered : outcome isServiceRunning s = .ok running) :
    ∃ state, Following before state (after isServiceRunning s) ∧
      (running = true ↔ state = some .running) := by
  rw [isServiceRunning, outcome_onController] at answered
  rw [isServiceRunning, after_onController]
  obtain ⟨state, ⟨orderly, told⟩, said⟩ :=
    Controller.isRunning_follows (s := controllerOf s) ⟨h.orderly, h.told⟩ answered
  exact ⟨state, ⟨orderly, told⟩, said⟩

/-- A start that succeeds gives what was told last. -/
theorem startService_follows {state : Option ServiceState} {k : Option ProtocolFault}
    (h : Following before seen s) (done : outcome startService s = .ok (.success state k)) :
    (∃ l, (after startService s).world.events = before ++ l ∧ lastState l = state.or seen) ∧
      (state = some .running ↔ ∃ report ∈ Controller.Order.sees (controllerOf s),
        ServiceState.running.reachedBy report = true) := by
  obtain ⟨returns, world⟩ := serviceCall_success done
  rw [startService, world]
  exact Controller.start_follows (s := controllerOf s) ⟨h.orderly, h.told⟩ returns

/-- Starting without a failure was told last that the service runs exactly if it was seen to run. -/
theorem Starting.follows (h : Following before none s) (course : Starting s result t)
    (ok : result.ok = true) :
    ∃ l, t.world.events = before ++ l ∧ (lastState l = some .running ↔
      Controller.SeenRunning (controllerOf s) ∨
        ∃ report ∈ Controller.Order.sees (controllerOf (after isServiceRunning s)),
          ServiceState.running.reachedBy report = true) := by
  have readable : Readable s := fun _ reported => h.orderly.known reported
  have answer := isServiceRunning_or readable
  cases course with
  | runs runs =>
    obtain ⟨-, answered⟩ := answer.resolve_right fun no => no.1 runs
    obtain ⟨state, follows, said⟩ := isServiceRunning_follows h answered
    obtain ⟨l, events, last⟩ := follows.told
    exact ⟨l, events, iff_of_true (last.trans (said.mp rfl)) (.inl runs)⟩
  | started idle done =>
    obtain ⟨-, answered⟩ := answer.resolve_left fun yes => idle yes.1
    obtain ⟨first, follows, said⟩ := isServiceRunning_follows h answered
    obtain ⟨⟨l, events, last⟩, runs⟩ := startService_follows follows done
    refine ⟨l, events, ?_⟩
    rw [last, or_iff_right idle, ← runs, Option.or_eq_some_iff]
    exact or_iff_left fun none => nomatch said.mpr none.2
  | failed => cases ok

/-- Setting the service up without a failure was told last that it runs exactly if it saw it
run. -/
theorem SettingUp.follows (h : Following before none s) (course : SettingUp path s result t)
    (ok : result.ok = true) :
    ∃ l, t.world.events = before ++ l ∧
      (lastState l = some .running ↔ SeesRunning path s) := by
  have asked := isServiceInstalled_or s
  have looked : Following before none (after isServiceInstalled s) :=
    h.of_reporting (reporting_onController Controller.reporting_isInstalled s)
  cases course with
  | installed opens rest =>
    obtain ⟨-, answered⟩ := asked.resolve_right fun no => no.1 opens
    rw [seesRunning_iff (.installed answered)]
    exact rest.follows looked ok
  | fresh closed done rest =>
    obtain ⟨-, answered⟩ := asked.resolve_left fun yes => closed yes.1
    rw [seesRunning_iff (.fresh answered done)]
    exact rest.follows
      (looked.of_reporting (reporting_serviceCall (Controller.reporting_install path) _)) ok
  | failed => cases ok

end

end Client

namespace Console

open Client

/-- What is said of a service that was set up. -/
def readyLine : String := "Service is installed and running."

/-- The texts that report how setting up ended. -/
def setupTexts (result : Result Unit) : List String := printable (reportRows readyLine result)

/-- The line is said of a success alone. -/
theorem readyLine_mem_iff {result : Result Unit} :
    readyLine ∈ setupTexts result ↔ result.ok = true := by
  cases result with
  | success value skipped =>
    refine iff_of_true ?_ rfl
    cases skipped <;> rw [setupTexts, reportRows, row_ofString] <;> exact List.mem_cons_self
  | failure e =>
    refine iff_of_false (fun said => ?_) Bool.false_ne_true
    rw [setupTexts, reportRows, errorRow] at said
    rcases row_cases ("ERROR: " ++ e.message) with ⟨-, fault, error⟩ | ⟨-, text⟩
    · rw [error] at said
      cases said
    · rw [text, LooseText.render_append, LooseText.render_ofString] at said
      have same : readyLine.toList.head? = ("ERROR: ".toList ++ e.message.render.toList).head? :=
        (congrArg (·.toList.head?) (List.mem_singleton.mp said)).trans
          (congrArg List.head? String.toList_append)
      cases same

/-- What setting up fails of is the service. -/
theorem quickSetup_ofService {path : String} {s : Scene (Watch Client)} {result : Result Unit}
    (returns : outcome (quickSetup path) s = .ok result) : result.OfService := by
  rcases quickSetup_cases path s with ⟨t, v, asked, unreadable⟩ | ⟨other, returns', served⟩
  · have out := (LetsOut.checking asked unreadable).outcome
    rw [perform, outcome_map, returns] at out
    cases out
  · cases returns.symm.trans returns'
    exact served

/-- The command reports how setting up ended. -/
theorem execute_setup (settings : Settings) {path : String} {rest : List String}
    {s : Scene (Watch Client)} {result : Result Unit}
    (returns : outcome (quickSetup path) (received "setup" (path :: rest) s) = .ok result) :
    outcome (execute settings "setup" (path :: rest)) s = .ok false ∧
      after (execute settings "setup" (path :: rest)) s = printed (setupTexts result)
        (after (quickSetup path) (received "setup" (path :: rest) s)) := by
  have does : run settings (path :: rest) .setup = (do report (← quickSetup path) readyLine) := rfl
  have word : Command.setup.word = "setup" := rfl
  rw [outcome_execute_of_command word, after_execute_of_command word, does,
    outcome_reported ⟨result, returns, quickSetup_ofService returns⟩, after_bind, returns]
  exact ⟨rfl, (report_prints result readyLine _).after⟩

/-- **The console says that the service runs exactly if setting it up succeeded**, and then it was
told so last exactly if it was seen to run. -/
theorem setup_tells (settings : Settings) (path : String) (rest : List String)
    (s : Scene (Watch Client)) (orderly : s.world.manager.Orderly) :
    let asked := received "setup" (path :: rest) s
    let ended := after (execute settings "setup" (path :: rest)) s
    ∃ result texts l, outcome (quickSetup path) asked = .ok result ∧
      outcome (execute settings "setup" (path :: rest)) s = .ok false ∧
      ended = printed texts (after (quickSetup path) asked) ∧
      ended.world.events = s.world.events ++ l ∧
      (readyLine ∈ texts ↔ result.ok = true) ∧
      (readyLine ∈ texts → (lastState l = some .running ↔ SeesRunning path asked)) := by
  intro asked ended
  have follows : Following s.world.events none asked :=
    (Following.start orderly).of_reporting (Service.reporting_log _ _ _ _ s)
  obtain ⟨result, returns, course⟩ :=
    settingUp (fun _ reported => follows.orderly.known reported) path
  obtain ⟨ends, shown⟩ := execute_setup settings returns
  have events : ended.world.events = (after (quickSetup path) asked).world.events :=
    (congrArg (·.world.events) shown).trans (events_printed _ _)
  by_cases ok : result.ok = true
  · obtain ⟨l, added, runs⟩ := course.follows follows ok
    exact ⟨result, _, l, returns, ends, shown, events.trans added, readyLine_mem_iff, fun _ => runs⟩
  · obtain ⟨l, added⟩ := (course.added weighs_isCreation).1.events
    have received : asked.world.events = s.world.events := World.events_log ..
    exact ⟨result, _, l, returns, ends, shown, events.trans (received ▸ added), readyLine_mem_iff,
      fun said => absurd (readyLine_mem_iff.mp said) ok⟩

/-- A start that is pending when it is first asked for, and done when it is asked for again. -/
theorem setup_tells_of_slow_start :
    let manager : Manager :=
      { answers := fun p => if p = .queryStatus then [.state 1, .state 2, .state 4] else [] }
    let s : Scene (Watch Client) :=
      ⟨{ manager }, { host := { create {} {} with controller := { attempts := 2 } } }⟩
    manager.Orderly ∧ ∃ texts l,
      after (execute {} "setup" ["guard.exe"]) s =
        printed texts (after (quickSetup "guard.exe") (received "setup" ["guard.exe"] s)) ∧
      (after (execute {} "setup" ["guard.exe"]) s).world.events = s.world.events ++ l ∧
      readyLine ∈ texts ∧ lastState l = some .running := by
  intro manager s
  have orderly : manager.Orderly := ⟨rfl, by simp [manager, ServiceState.ofNumber?]⟩
  obtain ⟨result, texts, l, returns, -, shown, events, ready, runs⟩ :=
    setup_tells {} "guard.exe" [] s orderly
  have succeeds : (outcome (quickSetup "guard.exe") (received "setup" ["guard.exe"] s)).toOption.map
      Result.ok = some true := by decide +kernel
  rw [returns] at succeeds
  have said : readyLine ∈ texts := ready.mpr (Option.some.inj succeeds)
  obtain ⟨yes, answered⟩ := isServiceInstalled_cases (received "setup" ["guard.exe"] s)
  have installed : (outcome isServiceInstalled (received "setup" ["guard.exe"] s)).toOption =
      some true := by decide +kernel
  rw [answered] at installed
  have seen : SeesRunning "guard.exe" (received "setup" ["guard.exe"] s) :=
    ⟨_, .installed (Option.some.inj installed ▸ answered),
      .inr ⟨some 4, by decide +kernel, by decide⟩⟩
  exact ⟨orderly, texts, l, shown, events, said, (runs said).mpr seen⟩

/-- Of a service whose start is still pending the console says that it runs. -/
theorem setup_says_too_much :
    let manager : Manager :=
      { answers := fun p => if p = .queryStatus then [.state 1, .state 2] else [] }
    let s : Scene (Watch Client) :=
      ⟨{ manager }, { host := { create {} {} with controller := { attempts := 2 } } }⟩
    manager.Orderly ∧ ∃ texts l,
      after (execute {} "setup" ["guard.exe"]) s =
        printed texts (after (quickSetup "guard.exe") (received "setup" ["guard.exe"] s)) ∧
      (after (execute {} "setup" ["guard.exe"]) s).world.events = s.world.events ++ l ∧
      readyLine ∈ texts ∧ lastState l = some .startPending := by
  intro manager s
  have orderly : manager.Orderly := ⟨rfl, by simp [manager, ServiceState.ofNumber?]⟩
  have readable : Readable (received "setup" ["guard.exe"] s) := fun value reported =>
    ((Following.start (s := s) orderly).of_reporting
      (Service.reporting_log _ _ _ _ s)).orderly.known reported
  obtain ⟨result, returns, -⟩ := settingUp readable "guard.exe"
  have succeeds : (outcome (quickSetup "guard.exe") (received "setup" ["guard.exe"] s)).toOption.map
      Result.ok = some true := by decide +kernel
  rw [returns] at succeeds
  have pending : lastState (after (execute {} "setup" ["guard.exe"]) s).world.events =
      some .startPending := by decide +kernel
  exact ⟨orderly, _, _, (execute_setup {} returns).2, (List.nil_append _).symm,
    readyLine_mem_iff.mpr (Option.some.inj succeeds), pending⟩

end Console

end Vigil
