import Vigil.Proofs.Client.Results

/-!
# What the client lets out

Two ways lead out of an operation that is declared to return a result. Connecting guards against
errors of the channel alone, so that what breaks a session while it connects gets out. The two
operations that set the service up ask whether it runs outside any guard, so that a state that
there is none for gets out.

* `Client.perform_proper_iff`: every such operation returns a proper result if and only if neither
  way is open, and else lets out the mishap that is told.
-/

namespace Vigil

open Act

/-- The answer is a proper result. -/
def ClientReply.Proper : ClientReply → Prop
  | .request result => result.Proper
  | .service result => result.Proper
  | .state result => result.Proper
  | _ => False

/-- Whether a call is declared to give a result. -/
def ClientCall.givesResult : ClientCall → Bool
  | .connect _ | .listItems | .addItem _ | .updateItem _ | .removeItem _ | .startItem _
  | .stopItem _ | .serviceStatus | .sendHeartbeat _ => true
  | .installService _ | .uninstallService | .startService | .stopService => true
  | .quickSetup _ | .ensureServiceRunning => true
  | .addSelf .. | .removeSelf | .pauseSelf | .resumeSelf => true
  | _ => false

namespace Client

/-- The scene in which a call asks whether the service runs. -/
inductive Checks : ClientCall → Scene (Watch Client) → Scene (Watch Client) → Prop
  | installed {path s} (h : outcome isServiceInstalled s = .ok true) :
      Checks (.quickSetup path) s (after isServiceInstalled s)
  | fresh {path s u k} (h : outcome isServiceInstalled s = .ok false)
      (hi : outcome (installService path) (after isServiceInstalled s) = .ok (.success u k)) :
      Checks (.quickSetup path) s (after (installService path) (after isServiceInstalled s))
  | ensuring {s} (h : outcome isServiceInstalled s = .ok true) :
      Checks .ensureServiceRunning s (after isServiceInstalled s)

/-- What a call lets out. -/
inductive LetsOut : ClientCall → Scene (Watch Client) → Mishap → Prop
  | connecting {timeout s m}
      (h : Session.Breaks (timeout.getD s.own.host.connectTimeout) (sessionOf s) m) :
      LetsOut (.connect timeout) s m
  | checking {call s t v} (h : Checks call s t) (hu : Controller.Unreadable v (controllerOf t)) :
      LetsOut call s (.unknownState v)

/-! ## Connecting -/

/-- What a session lets out while it connects, the client lets out. -/
theorem outcome_connect (timeout : Option Float) (s : Scene (Watch Client)) :
    match outcome (Session.connect (timeout.getD s.own.host.connectTimeout)) (sessionOf s) with
    | .ok () | .error (.error (.channel _)) =>
      ∃ result, outcome (connect timeout) s = .ok result ∧ result.Proper
    | .error raised => outcome (connect timeout) s = .error raised := by
  have hcurrent : outcome current s = .ok s.own.host := rfl
  have hafter : after current s = s := rfl
  rw [connect, outcome_bind, hcurrent, hafter]
  dsimp only
  rw [outcome_bind, outcome_attempt, outcome_onSession]
  dsimp only
  cases outcome (Session.connect (timeout.getD s.own.host.connectTimeout)) (sessionOf s) with
  | ok u => exact Returns.bind (setConnected_returns _ _) (fun _ _ => .pure trivial) _
  | error raised =>
    cases raised with
    | mishap m => rfl
    | error e =>
      cases e with
      | channel fault =>
        refine Returns.bind (log_returns _ _ _) (fun _ _ => ?_) _
        exact .bind (setConnected_returns _ _) fun _ _ => .pure (Error.message_ne_empty nofun)
      | _ => rfl

theorem connect_cases (timeout : Option Float) (s : Scene (Watch Client)) :
    (∃ m, Session.Breaks (timeout.getD s.own.host.connectTimeout) (sessionOf s) m) ∨
      ∃ result, outcome (connect timeout) s = .ok result ∧ result.Proper := by
  have run := outcome_connect timeout s
  rcases Session.connect_cases (timeout.getD s.own.host.connectTimeout) (sessionOf s) with
    h | h | ⟨fault, h⟩
  · exact .inl h
  · rw [h] at run
    exact .inr run
  · rw [h] at run
    exact .inr run

/-! ## Asking whether the service runs -/

/-- The start of the service, unless it runs, lets out a state that there is none for. -/
theorem outcome_startIfStopped_of_unreadable {s : Scene (Watch Client)} {v : UInt32}
    (h : Controller.Unreadable v (controllerOf s)) :
    outcome startIfStopped s = .error (.mishap (.unknownState v)) := by
  rw [startIfStopped, outcome_bind, isServiceRunning, outcome_onController]
  rcases Controller.isRunning_cases (controllerOf s) with ⟨w, hw, e⟩ | ⟨hn, -⟩
  · obtain rfl : v = w := Option.some.inj (h.reported.symm.trans hw.reported)
    rw [e]
  · exact absurd h (hn v)

theorem startIfStopped_cases (s : Scene (Watch Client)) :
    (∃ v, Controller.Unreadable v (controllerOf s)) ∨
      ∃ result, outcome startIfStopped s = .ok result ∧ result.OfService := by
  rcases Controller.isRunning_cases (controllerOf s) with ⟨v, h, -⟩ | ⟨-, running, e⟩
  · exact .inl ⟨v, h⟩
  · refine .inr ?_
    rw [startIfStopped, outcome_bind, isServiceRunning, outcome_onController, e]
    cases running with
    | true => exact ⟨_, rfl, trivial⟩
    | false =>
      refine Returns.bind startService_returns (fun result h => ?_) _
      split
      · exact .pure trivial
      · exact .pure h

/-- Whether the service is installed is answered. -/
theorem isServiceInstalled_cases (s : Scene (Watch Client)) :
    ∃ installed, outcome isServiceInstalled s = .ok installed := by
  obtain ⟨installed, e, -⟩ := Controller.isInstalled_returns (controllerOf s)
  exact ⟨installed, by rw [isServiceInstalled, outcome_onController, e]⟩

theorem quickSetup_cases (path : String) (s : Scene (Watch Client)) :
    (∃ t v, Checks (.quickSetup path) s t ∧ Controller.Unreadable v (controllerOf t)) ∨
      ∃ result, outcome (quickSetup path) s = .ok result ∧ result.OfService := by
  obtain ⟨installed, e⟩ := isServiceInstalled_cases s
  rw [quickSetup, outcome_bind, e]
  cases installed with
  | true =>
    exact (startIfStopped_cases (after isServiceInstalled s)).imp
      (fun ⟨v, hu⟩ => ⟨_, v, .installed e, hu⟩) id
  | false =>
    obtain ⟨result, hi, hp⟩ := installService_returns path (after isServiceInstalled s)
    show _ ∨ ∃ result : Result Unit,
      outcome (installService path >>= _) _ = .ok result ∧ result.OfService
    rw [outcome_bind, hi]
    cases result with
    | success u k =>
      exact (startIfStopped_cases _).imp (fun ⟨v, hu⟩ => ⟨_, v, .fresh e hi, hu⟩) id
    | failure error => exact .inr ⟨_, rfl, hp⟩

theorem ensureServiceRunning_cases (s : Scene (Watch Client)) :
    (∃ t v, Checks .ensureServiceRunning s t ∧ Controller.Unreadable v (controllerOf t)) ∨
      ∃ result, outcome ensureServiceRunning s = .ok result ∧ result.OfService := by
  obtain ⟨installed, e⟩ := isServiceInstalled_cases s
  rw [ensureServiceRunning, outcome_bind, e]
  cases installed with
  | true =>
    exact (startIfStopped_cases (after isServiceInstalled s)).imp
      (fun ⟨v, hu⟩ => ⟨_, v, .ensuring e, hu⟩) id
  | false => exact .inr ⟨_, rfl, _, rfl⟩

/-! ## Every operation -/

/-- What a call is said to let out gets out. -/
theorem LetsOut.outcome {call : ClientCall} {s : Scene (Watch Client)} {m : Mishap}
    (h : LetsOut call s m) : outcome (perform call) s = .error (.mishap m) := by
  cases h with
  | connecting h =>
    rename_i timeout
    have run := outcome_connect timeout s
    rw [h.outcome] at run
    rw [perform, outcome_map, run]
    rfl
  | checking hc hu =>
    cases hc with
    | installed e =>
      rw [perform, outcome_map, quickSetup, outcome_bind, e]
      dsimp only
      rw [if_pos rfl, outcome_startIfStopped_of_unreadable hu]
      rfl
    | fresh e hi =>
      rw [perform, outcome_map, quickSetup, outcome_bind, e]
      dsimp only
      rw [if_neg Bool.false_ne_true, outcome_bind, hi]
      dsimp only
      rw [outcome_startIfStopped_of_unreadable hu]
      rfl
    | ensuring e =>
      rw [perform, outcome_map, ensureServiceRunning, outcome_bind, e]
      dsimp only
      rw [if_pos rfl, outcome_startIfStopped_of_unreadable hu]
      rfl

/-- An answer made of a result is a proper answer if the result makes one. -/
theorem answers_map {α : Type} {P : Result α → Prop} {x : Deed (Result α)}
    {answer : Result α → ClientReply} {s : Scene (Watch Client)}
    (ha : ∀ result, P result → (answer result).Proper)
    (h : ∃ result, outcome x s = .ok result ∧ P result) :
    ∃ reply, outcome (answer <$> x) s = .ok reply ∧ reply.Proper := by
  obtain ⟨result, e, hp⟩ := h
  exact ⟨answer result, by rw [outcome_map, e]; rfl, ha result hp⟩

/-- A call that is declared to give a result lets something out or returns a proper result. -/
theorem perform_cases {call : ClientCall} (hc : call.givesResult = true)
    {s : Scene (Watch Client)} {millis : Int} (ht : s.world.epochMillis = .ok millis) :
    (∃ m, LetsOut call s m) ∨ ∃ reply, outcome (perform call) s = .ok reply ∧ reply.Proper := by
  have answers {α : Type} {P : Result α → Prop} {x : Deed (Result α)}
      {answer : Result α → ClientReply} (hx : Returns P x)
      (ha : ∀ result, P result → (answer result).Proper) :
      ∃ reply, outcome (answer <$> x) s = .ok reply ∧ reply.Proper := answers_map ha (hx s)
  cases call with
  | connect timeout =>
    exact (connect_cases timeout s).imp (fun ⟨m, h⟩ => ⟨m, .connecting h⟩)
      (answers_map fun _ h => h)
  | listItems => exact .inr (answers (request_returns _ _) fun _ h => h)
  | addItem item => exact .inr (answers (addItem_returns item) fun _ h => h)
  | updateItem item => exact .inr (answers (updateItem_returns item) fun _ h => h)
  | removeItem id => exact .inr (answers (removeItem_returns id) fun _ h => h)
  | startItem id => exact .inr (answers (startItem_returns id) fun _ h => h)
  | stopItem id => exact .inr (answers (stopItem_returns id) fun _ h => h)
  | serviceStatus => exact .inr (answers (request_returns _ _) fun _ h => h)
  | sendHeartbeat id => exact .inr (answers_map (fun _ h => h) (sendHeartbeat_returns id ht))
  | installService path => exact .inr (answers (installService_returns path) fun _ h => h.proper)
  | uninstallService =>
    exact .inr (answers (serviceCall_returns _ Controller.uninstall_raises) fun _ h => h.proper)
  | startService => exact .inr (answers startService_returns fun _ h => h.proper)
  | stopService =>
    exact .inr (answers (serviceCall_returns _ Controller.stop_raises) fun _ h => h.proper)
  | quickSetup path =>
    exact (quickSetup_cases path s).imp (fun ⟨_, _, h, hu⟩ => ⟨_, .checking h hu⟩)
      (answers_map fun _ h => h.proper)
  | ensureServiceRunning =>
    exact (ensureServiceRunning_cases s).imp (fun ⟨_, _, h, hu⟩ => ⟨_, .checking h hu⟩)
      (answers_map fun _ h => h.proper)
  | addSelf id timeout => exact .inr (answers_map (fun _ h => h) (addSelf_returns id timeout ht))
  | removeSelf => exact .inr (answers (withSelf_returns removeItem_returns) fun _ h => h)
  | pauseSelf => exact .inr (answers (withSelf_returns stopItem_returns) fun _ h => h)
  | resumeSelf => exact .inr (answers (withSelf_returns startItem_returns) fun _ h => h)
  | _ => cases hc

/-- **An operation that is declared to return a result returns a proper one, if and only if it lets
nothing out**, in every state, whatever the pipe, the service manager and the callbacks do, if the
clock gives a time. What it lets out is told exactly. -/
theorem perform_proper_iff {call : ClientCall} (hc : call.givesResult = true)
    {s : Scene (Watch Client)} {millis : Int} (ht : s.world.epochMillis = .ok millis) :
    ((∃ reply, outcome (perform call) s = .ok reply ∧ reply.Proper) ↔ ∀ m, ¬LetsOut call s m) ∧
      ∀ m, outcome (perform call) s = .error (.mishap m) ↔ LetsOut call s m := by
  have cases := perform_cases hc ht
  refine ⟨?_, fun m => ?_⟩
  · constructor
    · rintro ⟨reply, e, -⟩ m h
      exact nomatch e.symm.trans h.outcome
    · intro hn
      exact cases.resolve_left fun ⟨m, h⟩ => hn m h
  · constructor
    · intro e
      rcases cases with ⟨m', h⟩ | ⟨reply, e', -⟩
      · cases e.symm.trans h.outcome
        exact h
      · exact nomatch e.symm.trans e'
    · exact LetsOut.outcome

/-- One second has a thousand milliseconds. -/
theorem epochMillis_of_one {w : World} (h : w.now = 1.0) : w.epochMillis = .ok 1000 := by
  rw [World.epochMillis, h]
  rfl

/-- A new client that connects lets out what an opening raises, and one that is to see to it that
the service runs lets out a state that there is none for, though the clock gives a time. -/
theorem perform_lets_out :
    let client : Watch Client := { host := create {} {} }
    let raising : World := { now := 1.0, pipe := [⟨.error (.raised "RuntimeError" "boom"), none⟩] }
    let strange : World := { now := 1.0, manager := { state := 9 } }
    (raising.epochMillis = .ok 1000 ∧ outcome (perform (.connect none)) ⟨raising, client⟩ =
        .error (.mishap (.raised "RuntimeError" "boom"))) ∧
      strange.epochMillis = .ok 1000 ∧ outcome (perform .ensureServiceRunning) ⟨strange, client⟩ =
        .error (.mishap (.unknownState 9)) := by
  intro client raising strange
  refine ⟨⟨epochMillis_of_one rfl, ?_⟩, epochMillis_of_one rfl, ?_⟩
  · exact LetsOut.outcome (.connecting (.reaching rfl (.opening rfl nofun)))
  · exact LetsOut.outcome (.checking (.ensuring rfl) ⟨⟨⟨.inr rfl, nofun⟩, nofun⟩, rfl, rfl⟩)

/-- A client that finds no pipe is told so by a proper result, and lets nothing out. -/
theorem perform_proper_iff_of_absent :
    let s : Scene (Watch Client) := ⟨{ now := 1.0 }, { host := create {} {} }⟩
    (ClientCall.connect none).givesResult = true ∧ s.world.epochMillis = .ok 1000 ∧
      (∃ reply, outcome (perform (.connect none)) s = .ok reply ∧ reply.Proper) ∧
      ∀ m, ¬LetsOut (.connect none) s m := by
  intro s
  have proper : ∃ reply, outcome (perform (.connect none)) s = .ok reply ∧ reply.Proper :=
    ⟨.request (.failure (.channel .pipeMissing)), rfl, Error.message_ne_empty nofun⟩
  have ht : s.world.epochMillis = .ok 1000 := epochMillis_of_one rfl
  exact ⟨rfl, ht, proper, (perform_proper_iff rfl ht).1.mp proper⟩

end Client

end Vigil
