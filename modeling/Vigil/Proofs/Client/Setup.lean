import Vigil.Proofs.Client.Boundary
import Vigil.Proofs.Service.Looking

/-!
# Setting the service up

The service is installed if it cannot be opened, and started unless it is seen to run. Whether it is
installed is asked once and whether it runs is asked once, and each answer decides about one
command. Everything that keeps the service from being opened counts as its absence: a service
manager that cannot be reached, and a refusal of whatever code.

* `SettingUp`, `Ensuring`: the courses that the two operations may take, with what they come to.
* **`Client.sets_up_sparingly`**: each command is given once at most, and only where its question was
  answered with no; the first that fails ends the operation.
* `Client.installs_unopened`: a service that must not be opened is installed all the same.
-/

namespace Vigil

open Act

namespace Client

/-! ## The two questions -/

section

variable {s t : Scene (Watch Client)}

/-- The state that is reported next is one that there is, if one is reported. -/
def Readable (s : Scene (Watch Client)) : Prop :=
  ∀ value, s.world.manager.reported? = some value → (ServiceState.ofNumber? value).isSome = true

/-- What uses up no report leaves it readable. -/
theorem Readable.of_reporting (h : Readable s) (hr : reporting.holds s t) : Readable t := by
  intro value reported
  exact h value (Manager.reported?_congr hr.1 hr.2.1 ▸ reported)

theorem Readable.not_unreadable (h : Readable s) (value : UInt32) :
    ¬Controller.Unreadable value (controllerOf s) := by
  intro hu
  obtain ⟨state, known⟩ := Option.isSome_iff_exists.mp (h value hu.reported)
  exact nomatch known.symm.trans hu.unknown

/-- The service is said to be installed if it can be opened, and else to be absent. -/
theorem isServiceInstalled_or (s : Scene (Watch Client)) :
    Controller.OpensService (controllerOf s) ∧ outcome isServiceInstalled s = .ok true ∨
      ¬Controller.OpensService (controllerOf s) ∧ outcome isServiceInstalled s = .ok false := by
  have opens := Controller.isInstalled_iff (controllerOf s)
  obtain ⟨installed, answered⟩ := isServiceInstalled_cases s
  rw [← outcome_onController, ← isServiceInstalled, answered] at opens
  rw [answered]
  cases installed with
  | true => exact .inl ⟨opens.mp rfl, rfl⟩
  | false =>
    refine .inr ⟨fun h => ?_, rfl⟩
    cases opens.mpr h

/-- The service is said to run if it is seen to run, and else not to. -/
theorem isServiceRunning_or (readable : Readable s) :
    Controller.SeenRunning (controllerOf s) ∧ outcome isServiceRunning s = .ok true ∨
      ¬Controller.SeenRunning (controllerOf s) ∧ outcome isServiceRunning s = .ok false := by
  have runs := Controller.isRunning_iff (controllerOf s)
  rcases Controller.isRunning_cases (controllerOf s) with ⟨value, hu, -⟩ | ⟨-, running, answered⟩
  · exact absurd hu (readable.not_unreadable value)
  rw [isServiceRunning, outcome_onController, answered]
  rw [answered] at runs
  cases running with
  | true => exact .inl ⟨runs.mp rfl, rfl⟩
  | false =>
    refine .inr ⟨fun h => ?_, rfl⟩
    cases runs.mpr h

theorem reporting_onController {α : Type} {x : Act Controller α} (h : Respects reporting x) :
    Respects reporting (onController x) := by
  intro s
  rw [after_onController]
  exact h (controllerOf s)

theorem reporting_serviceCall {α : Type} {operation : Operation} {x : Act Controller α}
    (h : Respects reporting x) : Respects reporting (serviceCall operation x) := by
  refine .bind (.attempt (reporting_onController h)) fun r => ?_
  split
  · exact .pure _
  · exact .bind (Service.reporting_log _ _ _ _) fun _ => .pure _
  · exact .bind (Service.reporting_log _ _ _ _) fun _ => .pure _

end

/-! ## The courses of the two operations -/

/-- The service is started unless it is seen to run: what that comes to, and where it leads. -/
inductive Starting (s : Scene (Watch Client)) : Result Unit → Scene (Watch Client) → Prop
  | runs (h : Controller.SeenRunning (controllerOf s)) :
      Starting s (.success () none) (after isServiceRunning s)
  | started {state k} (h : ¬Controller.SeenRunning (controllerOf s))
      (done : outcome startService (after isServiceRunning s) = .ok (.success state k)) :
      Starting s (.success () none) (after startService (after isServiceRunning s))
  | failed {e} (h : ¬Controller.SeenRunning (controllerOf s))
      (fails : outcome startService (after isServiceRunning s) = .ok (.failure e)) :
      Starting s (.failure e) (after startService (after isServiceRunning s))

/-- The service is installed unless it can be opened, and then started unless it is seen to run. The
first command that fails is the last thing that is done, and its failure is what is returned. -/
inductive SettingUp (path : String) (s : Scene (Watch Client)) :
    Result Unit → Scene (Watch Client) → Prop
  | installed {result t} (h : Controller.OpensService (controllerOf s))
      (rest : Starting (after isServiceInstalled s) result t) : SettingUp path s result t
  | fresh {u k result t} (h : ¬Controller.OpensService (controllerOf s))
      (done : outcome (installService path) (after isServiceInstalled s) = .ok (.success u k))
      (rest : Starting (after (installService path) (after isServiceInstalled s)) result t) :
      SettingUp path s result t
  | failed {e} (h : ¬Controller.OpensService (controllerOf s))
      (fails : outcome (installService path) (after isServiceInstalled s) = .ok (.failure e)) :
      SettingUp path s (.failure e) (after (installService path) (after isServiceInstalled s))

/-- The service is started unless it is seen to run, if it can be opened; else it is not found, and
nothing more is done. -/
inductive Ensuring (s : Scene (Watch Client)) : Result Unit → Scene (Watch Client) → Prop
  | installed {result t} (h : Controller.OpensService (controllerOf s))
      (rest : Starting (after isServiceInstalled s) result t) : Ensuring s result t
  | absent (h : ¬Controller.OpensService (controllerOf s)) :
      Ensuring s (.failure (.service .notInstalled)) (after isServiceInstalled s)

section

variable {s t : Scene (Watch Client)} {path : String} {result : Result Unit}

theorem starting (readable : Readable s) : Reaches s startIfStopped (Starting s) := by
  rcases isServiceRunning_or readable with ⟨runs, answered⟩ | ⟨runs, answered⟩
  · exact .bind ⟨true, answered, .pure (.runs runs)⟩
  · obtain ⟨result, returns, -⟩ := startService_returns (after isServiceRunning s)
    refine .bind ⟨false, answered, .bind ⟨result, returns, ?_⟩⟩
    cases result with
    | success state k => exact .pure (.started runs returns)
    | failure e => exact .pure (.failed runs returns)

theorem settingUp (readable : Readable s) (path : String) :
    Reaches s (quickSetup path) (SettingUp path s) := by
  have readable' : Readable (after isServiceInstalled s) :=
    readable.of_reporting (reporting_onController Controller.reporting_isInstalled s)
  rcases isServiceInstalled_or s with ⟨opens, answered⟩ | ⟨opens, answered⟩
  · exact .bind ⟨true, answered, (starting readable').mono fun _ _ => .installed opens⟩
  · obtain ⟨result, returns, -⟩ := installService_returns path (after isServiceInstalled s)
    refine .bind ⟨false, answered, .bind ⟨result, returns, ?_⟩⟩
    cases result with
    | success u k =>
      have readable'' : Readable (after (installService path) (after isServiceInstalled s)) :=
        readable'.of_reporting (reporting_serviceCall (Controller.reporting_install path) _)
      exact (starting readable'').mono fun _ _ => .fresh opens returns
    | failure e => exact .pure (.failed opens returns)

theorem ensuring (readable : Readable s) : Reaches s ensureServiceRunning (Ensuring s) := by
  have readable' : Readable (after isServiceInstalled s) :=
    readable.of_reporting (reporting_onController Controller.reporting_isInstalled s)
  rcases isServiceInstalled_or s with ⟨opens, answered⟩ | ⟨opens, answered⟩
  · exact .bind ⟨true, answered, (starting readable').mono fun _ _ => .installed opens⟩
  · exact .bind ⟨false, answered, .pure (.absent opens)⟩

end

/-! ## The calls of the two operations -/

section

variable {s t u : Scene (Watch Client)} {path : String} {result : Result Unit} {p : Event → Bool}
  {m n : Nat}

theorem added_onController {α : Type} {x : Act Controller α} (h : AtMost p n x)
    (s : Scene (Watch Client)) : Added p n s (after (onController x) s) := by
  rw [after_onController]
  exact h (controllerOf s)

theorem added_serviceCall {α : Type} {operation : Operation} {x : Act Controller α}
    (h : AtMost p n x) (s : Scene (Watch Client)) :
    Added p n s (after (serviceCall operation x) s) := by
  have called : AtMost p n (onController x) := added_onController h
  refine AtMost.bind_quiet called.attempt (fun r => ?_) s
  split
  · exact .pure _
  · exact .quiet_bind (.log _ _ _ _) fun _ => .pure _
  · exact .quiet_bind (.log _ _ _ _) fun _ => .pure _

/-- Starting makes the calls of one start at most, and none where the service is seen to run. -/
theorem Starting.added (w : Weighs p m n) (course : Starting s result t) :
    Added p n s t ∧ (Controller.SeenRunning (controllerOf s) → Added p 0 s t) := by
  have asked : Added p 0 s (after isServiceRunning s) :=
    added_onController (Controller.atMost_isRunning w.quiet) s
  have both : Added p n s (after startService (after isServiceRunning s)) :=
    (asked.trans (added_serviceCall (Controller.atMost_start w) _)).mono
      (Nat.le_of_eq (Nat.zero_add n))
  cases course with
  | runs => exact ⟨asked.mono (Nat.zero_le n), fun _ => asked⟩
  | started idle => exact ⟨both, fun runs => absurd runs idle⟩
  | failed idle => exact ⟨both, fun runs => absurd runs idle⟩

/-- Starting behind other calls adds to them. -/
theorem Starting.added_behind (w : Weighs p m n) {k : Nat} (before : Added p k s t)
    (course : Starting t result u) :
    Added p (k + n) s u ∧ (Controller.SeenRunning (controllerOf t) → Added p k s u) := by
  obtain ⟨few, none⟩ := course.added w
  exact ⟨before.trans few, fun runs => before.trans (none runs)⟩

theorem added_isServiceInstalled (w : Weighs p m n) (s : Scene (Watch Client)) :
    Added p 0 s (after isServiceInstalled s) :=
  added_onController (Controller.atMost_isInstalled w.quiet) s

theorem added_installService (w : Weighs p m n) (path : String) (s : Scene (Watch Client)) :
    Added p m s (after (installService path) (after isServiceInstalled s)) :=
  ((added_isServiceInstalled w s).trans
    (added_serviceCall (Controller.atMost_install w path) _)).mono (Nat.le_of_eq (Nat.zero_add m))

/-- Setting up makes the calls of one installation and of one start at most: of no installation
where the service can be opened, and of no start where it is seen to run. -/
theorem SettingUp.added (w : Weighs p m n) (course : SettingUp path s result t) :
    Added p (m + n) s t ∧ (Controller.OpensService (controllerOf s) → Added p n s t) ∧
      ((∀ u, Checks (.quickSetup path) s u → Controller.SeenRunning (controllerOf u)) →
        Added p m s t) := by
  have asked := isServiceInstalled_or s
  cases course with
  | installed opens rest =>
    obtain ⟨-, answered⟩ := asked.resolve_right fun h => h.1 opens
    obtain ⟨few, none⟩ := rest.added_behind w (added_isServiceInstalled w s)
    have few : Added p n s t := few.mono (Nat.le_of_eq (Nat.zero_add n))
    exact ⟨few.mono (Nat.le_add_left n m), fun _ => few,
      fun runs => (none (runs _ (.installed answered))).mono (Nat.zero_le m)⟩
  | fresh closed done rest =>
    obtain ⟨-, answered⟩ := asked.resolve_left fun h => closed h.1
    obtain ⟨few, none⟩ := rest.added_behind w (added_installService w path s)
    exact ⟨few, fun opens => absurd opens closed, fun runs => none (runs _ (.fresh answered done))⟩
  | failed closed =>
    have few := added_installService w path s
    exact ⟨few.mono (Nat.le_add_right m n), fun opens => absurd opens closed, fun _ => few⟩

/-- Where the service is there and runs, nothing is left to fail. -/
theorem SettingUp.eq_of_running (course : SettingUp path s result t)
    (opens : Controller.OpensService (controllerOf s))
    (runs : Controller.SeenRunning (controllerOf (after isServiceInstalled s))) :
    result = .success () none := by
  cases course with
  | installed _ rest =>
    cases rest with
    | runs => rfl
    | started idle => exact absurd runs idle
    | failed idle => exact absurd runs idle
  | fresh closed => exact absurd opens closed
  | failed closed => exact absurd opens closed

/-- Where the service cannot be opened, it is said not to be found. -/
theorem Ensuring.eq_of_closed (course : Ensuring s result t)
    (closed : ¬Controller.OpensService (controllerOf s)) :
    result = .failure (.service .notInstalled) := by
  cases course with
  | installed opens => exact absurd opens closed
  | absent => rfl

/-- Seeing to it that the service runs makes the calls of one start at most, and of none where it
is seen to run. -/
theorem Ensuring.added (w : Weighs p m n) (course : Ensuring s result t) :
    Added p n s t ∧
      ((∀ u, Checks .ensureServiceRunning s u → Controller.SeenRunning (controllerOf u)) →
        Added p 0 s t) := by
  have looked := added_isServiceInstalled w s
  cases course with
  | installed opens rest =>
    obtain ⟨-, answered⟩ := (isServiceInstalled_or s).resolve_right fun h => h.1 opens
    obtain ⟨few, none⟩ := rest.added_behind w looked
    exact ⟨few.mono (Nat.le_of_eq (Nat.zero_add n)), fun runs => none (runs _ (.ensuring answered))⟩
  | absent => exact ⟨looked.mono (Nat.zero_le n), fun _ => looked⟩

end

/-- What the events that a call adds say of the commands that it gives: each is given once at most,
and only where its question was answered with no. -/
structure Sparing (call : ClientCall) (s : Scene (Watch Client)) (l : List Event) : Prop where
  created_once : l.countP Event.isCreation ≤ 1
  started_once : l.countP Event.isStart ≤ 1
  created : ∀ e ∈ l, e.isCreation = true → ¬Controller.OpensService (controllerOf s)
  started : ∀ e ∈ l, e.isStart = true →
    ∃ u, Checks call s u ∧ ¬Controller.SeenRunning (controllerOf u)

section

variable {s t : Scene (Watch Client)} {path : String} {result : Result Unit} {l : List Event}
  {call : ClientCall}

theorem Sparing.of_added (events : t.world.events = s.world.events ++ l)
    (creations : Added Event.isCreation 1 s t) (starts : Added Event.isStart 1 s t)
    (opened : Controller.OpensService (controllerOf s) → Added Event.isCreation 0 s t)
    (running : (∀ u, Checks call s u → Controller.SeenRunning (controllerOf u)) →
      Added Event.isStart 0 s t) : Sparing call s l where
  created_once := creations.countP_le events
  started_once := starts.countP_le events
  created _ he made opens := (opened opens).not_of_zero events he made
  started _ he made := Classical.byContradiction fun none =>
    have seen (u : Scene (Watch Client)) (h : Checks call s u) :
        Controller.SeenRunning (controllerOf u) :=
      Classical.byContradiction fun idle => none ⟨u, h, idle⟩
    (running seen).not_of_zero events he made

theorem SettingUp.sparing (course : SettingUp path s result t)
    (events : t.world.events = s.world.events ++ l) : Sparing (.quickSetup path) s l :=
  have creations := course.added weighs_isCreation
  have starts := course.added weighs_isStart
  .of_added events creations.1 starts.1 creations.2.1 starts.2.2

theorem Ensuring.sparing (course : Ensuring s result t)
    (events : t.world.events = s.world.events ++ l) :
    Sparing .ensureServiceRunning s l ∧ ∀ e ∈ l, e.isCreation ≠ true :=
  have creations := course.added weighs_isCreation
  have starts := course.added weighs_isStart
  ⟨.of_added events (creations.1.mono (Nat.zero_le 1)) starts.1 (fun _ => creations.1) starts.2,
    fun _ => creations.1.not_of_zero events⟩

end

/-- **The service is set up sparingly.** Where the states that are reported are ones that there are,
both operations return; a command is given once at most, and only where its question was answered
with no: a service that cannot be opened counts as absent, whatever keeps it from being opened. The
first command that fails ends the operation, and one that only sees to it that the service runs
creates none. -/
theorem sets_up_sparingly (path : String) (s : Scene (Watch Client)) (readable : Readable s) :
    (∃ result l, outcome (quickSetup path) s = .ok result ∧
      (after (quickSetup path) s).world.events = s.world.events ++ l ∧
      SettingUp path s result (after (quickSetup path) s) ∧ Sparing (.quickSetup path) s l) ∧
    ∃ result l, outcome ensureServiceRunning s = .ok result ∧
      (after ensureServiceRunning s).world.events = s.world.events ++ l ∧
      Ensuring s result (after ensureServiceRunning s) ∧ Sparing .ensureServiceRunning s l ∧
      ∀ e ∈ l, e.isCreation ≠ true := by
  constructor
  · obtain ⟨result, returns, course⟩ := settingUp readable path
    obtain ⟨l, events⟩ := (course.added weighs_isCreation).1.events
    exact ⟨result, l, returns, events, course, course.sparing events⟩
  · obtain ⟨result, returns, course⟩ := ensuring readable
    obtain ⟨l, events⟩ := (course.added weighs_isCreation).1.events
    exact ⟨result, l, returns, events, course, course.sparing events⟩

/-- A new client that finds the service there and running has nothing to do. -/
theorem sets_up_sparingly_of_running :
    let s : Scene (Watch Client) := ⟨{ manager := { state := 4 } }, { host := create {} {} }⟩
    Readable s ∧ outcome (quickSetup "guard.exe") s = .ok (.success () none) := by
  intro s
  have readable : Readable s := by
    intro value reported
    obtain rfl := Option.some.inj reported
    rfl
  have opens : Controller.OpensService (controllerOf s) := ⟨⟨.inr rfl, nofun⟩, nofun⟩
  have manager : ((after isServiceInstalled s).world.manager.next .openManager).1 = .done := by
    decide +kernel
  have service : ((after isServiceInstalled s).world.manager.next .openService).1 = .done := by
    decide +kernel
  have reported : (after isServiceInstalled s).world.manager.reported? = some 4 := by
    decide +kernel
  have runs : Controller.SeenRunning (controllerOf (after isServiceInstalled s)) :=
    ⟨⟨⟨.inl (by decide +kernel), fun code failed => nomatch manager.symm.trans failed⟩,
      fun code failed => nomatch service.symm.trans failed⟩,
      congrArg (·.bind ServiceState.ofNumber?) reported⟩
  obtain ⟨⟨result, l, returns, -, course, -⟩, -⟩ := sets_up_sparingly "guard.exe" s readable
  exact ⟨readable, returns.trans (congrArg _ (course.eq_of_running opens runs))⟩

/-- A service that must not be opened, or not be looked for, may be there: it is installed all the
same, and said not to be found. -/
theorem installs_unopened :
    let refusing (p : Primitive) : Manager :=
      { answers := fun q => if q = p then [.failed 5] else [] }
    let on (p : Primitive) : Scene (Watch Client) :=
      ⟨{ manager := refusing p }, { host := create {} {} }⟩
    ∀ p, p = .openService ∨ p = .openManager →
      Readable (on p) ∧ ((on p).world.manager.next p).1 = .failed 5 ∧
      (∃ e ∈ (after (quickSetup "guard.exe") (on p)).world.events, e.isCreation = true) ∧
      outcome ensureServiceRunning (on p) = .ok (.failure (.service .notInstalled)) := by
  intro refusing on p hp
  have readable : Readable (on p) := by
    intro value reported
    rcases hp with rfl | rfl <;> exact Option.some.inj reported ▸ rfl
  have refused : ((on p).world.manager.next p).1 = .failed 5 := by rcases hp with rfl | rfl <;> rfl
  have creates : (after (quickSetup "guard.exe") (on p)).world.events.any Event.isCreation := by
    rcases hp with rfl | rfl <;> decide +kernel
  have closed : ¬Controller.OpensService (controllerOf (on p)) := fun opens => by
    rcases hp with rfl | rfl
    · exact opens.service 5 refused
    · exact opens.manager 5 refused
  obtain ⟨result, returns, course⟩ := ensuring readable
  exact ⟨readable, refused, List.any_eq_true.mp creates,
    returns.trans (congrArg _ (course.eq_of_closed closed))⟩

end Client

end Vigil
