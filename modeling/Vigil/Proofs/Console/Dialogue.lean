import Vigil.Proofs.Client.Heartbeats
import Vigil.Proofs.Console.Book
import Vigil.Proofs.Console.Talk

/-!
# A console that runs what is typed

Without arguments the console greets, runs the commands that are typed, up to the first `exit`, and
closes its client. The commands are a parameter here: whatever they do, they end the dialogue as
`Commands` says and start no reporter. The commands of the console are such commands.

* `Console.tidy_execute`: what the console's own commands are like.
* `Client.still_close`: a client that is closed has no reporter that runs.
* **`Console.calls_as_typed`**: what a whole run calls.
* `Console.typed_not_called`: a run that ends before the first command.
-/

namespace Vigil

open Act

/-! ## Reporters that are all at an end -/

/-- No reporter is in charge of an id, and every one was cancelled and has exited. -/
structure Registry.Still (r : Registry) : Prop where
  entries : r.entries = []
  exited : ∀ reporter ∈ r.reporters, reporter.phase = .exited ∧ reporter.cancelled = true

/-- Between two calls a registry without entries is still. -/
theorem Registry.Tended.still {r : Registry} (h : r.Tended none) (he : r.entries = []) :
    r.Still where
  entries := he
  exited reporter hm := by
    obtain ⟨number, found⟩ := List.mem_iff_getElem?.mp hm
    refine h.exited_of_not_mem found ?_
    rw [he]
    exact List.not_mem_nil

/-- In a still registry nothing is running. -/
theorem Registry.Still.isRunning {r : Registry} (h : r.Still) (id : String) :
    r.isRunning id = false := by
  unfold Registry.isRunning number?
  rw [h.entries]
  rfl

namespace Client

/-- Leaves a registry tended while nobody beats. -/
def restful : Frame (Scene (Watch Client)) where
  holds a b := a.own.registry.Tended none → b.own.registry.Tended none
  refl _ h := h
  trans hab hbc h := hbc (hab h)

theorem restful_of_tends {α : Type} {x : Deed α} (h : Respects tends x) : Respects restful x :=
  fun s tended => h s none tended

/-- Puts no reporter in charge where none is. -/
def vacant : Frame (Scene (Watch Client)) where
  holds a b := a.own.registry.entries = [] → b.own.registry.entries = []
  refl _ h := h
  trans hab hbc h := hbc (hab h)

theorem indifferent_vacant : Indifferent vacant where
  alter _ _ _ h := h
  setSelfId _ _ h := h
  log _ _ _ _ _ h := h
  told _ _ h := h
  reacts _ _ _ h := h
  stop id s h := by
    have nodup : (s.own.registry.entries.map Prod.fst).Nodup := by
      rw [h]
      exact List.nodup_nil
    rw [(Watch.leads_stop id s rfl).2, Registry.entries_halt nodup, h]
    rfl
  stopAll s h := by
    rw [(Watch.leads_stopAll s rfl).2, (Registry.Relieved.haltAll _).entries, h]
    rfl
  session _ s h := by
    rw [after_onSession]
    exact h
  controller _ s h := by
    rw [after_onController]
    exact h

/-- **A client that is closed has no reporter that runs**, whatever comes of the channel. -/
theorem still_close {s : Scene (Watch Client)} (tended : s.own.registry.Tended none) :
    (after close s).own.registry.Still := by
  obtain ⟨stops, stopped⟩ := Watch.leads_stopAll s rfl
  have halted : s.own.registry.Relieved (after Watch.stopAll s).own.registry fun _ => false := by
    rw [stopped]
    exact .haltAll _
  have vacated : (after Watch.stopAll s).own.registry.entries = [] := by
    rw [halted.entries]
    exact List.filter_eq_nil_iff.mpr fun _ _ => Bool.false_ne_true
  rw [close, after_bind, stops]
  exact (converses_tends.disconnect _ none (tended.relieved halted)).still
    (indifferent_vacant.disconnect _ vacated)

end Client

namespace Console

open Client

/-! ## The commands of the console -/

/-- Commands that end the dialogue as they should, and that start no reporter. -/
structure Tidy (execute : String → List String → Deed Bool) : Prop extends Commands execute where
  restful : ∀ word args, Respects restful (execute word args)

theorem talks_tends : Talks tends where
  toConverses := converses_tends
  alter_world _ _ _ h := h
  reported _ _ _ h := h

/-- What is raised does not say that there is no more input. -/
def GoesOn (raised : Raised) : Prop := endsInput raised = false

theorem GoesOn.of_mapError {ε α : Type} {name : ε → Mishap} {r : Except ε α} {m : Mishap}
    (e : r.mapError name = .error m) (h : ∀ why, GoesOn (.mishap (name why))) :
    GoesOn (.mishap m) := by
  cases r with
  | ok a => cases e
  | error why =>
    cases e
    exact h why

/-- What cannot be printed does not end the dialogue. -/
theorem Unprintable.goesOn {m : Mishap} (h : Unprintable m) : GoesOn (.mishap m) := by
  rcases h with ⟨fault, rfl⟩ | rfl
  · rfl
  · rfl

theorem printText_raises {σ : Type} (text : LooseText) :
    Raises GoesOn (Act.printText text : Act σ Unit) :=
  .bind (.orStumble fun _ h => .of_mapError h fun _ => rfl) fun _ => .alter _

theorem report_raises {σ α : Type} (result : Result α) (done : LooseText) :
    Raises GoesOn (report result done : Act σ Unit) := by
  cases result with
  | failure e => exact printText_raises _
  | success value skipped =>
    refine .bind (printText_raises done) fun _ => ?_
    cases skipped with
    | none => exact .pure _
    | some fault => exact .alter _

theorem addItem_raises (settings : Settings) (args : List String) :
    Raises GoesOn (addItem settings args) := by
  have made : Raises GoesOn (newItem? settings args : Deed (Option Item)) := by
    unfold newItem?
    split
    · exact .bind (.alter _) fun _ => .pure _
    · exact .bind .world fun w =>
        .bind (.orStumble fun m h => .of_mapError h fun _ => rfl) fun _ => .pure _
  refine .bind made fun item => ?_
  split
  · exact .bind (.of_returns (addItem_returns _)) fun _ => report_raises _ _
  · exact .pure _

theorem heartbeat_raises (settings : Settings) (args : List String) :
    Raises GoesOn (run settings args .heartbeat) := by
  cases args with
  | nil => exact .step fun _ => ⟨(), rfl⟩
  | cons id rest =>
    have sent : Raises GoesOn (Client.sendHeartbeat id) := by
      refine .bind (.bind .world fun w => .orStumble fun m h => .of_mapError h fun _ => rfl)
        fun millis => .bind (.of_returns (request_returns _ _)) fun result => ?_
      split
      · exact .pure _
      · exact .bind (.of_returns (log_returns _ _ _)) fun _ =>
          .bind (.of_returns (reportFailure_returns id)) fun _ => .pure _
    exact .bind sent fun _ => report_raises _ _

/-- What a command raises does not say that there is no more input. -/
theorem run_raises (settings : Settings) (args : List String) (command : Command) :
    Raises GoesOn (run settings args command) := by
  intro s raised e
  cases ht : command.needsTime with
  | true =>
    cases command with
    | add => exact addItem_raises settings args s raised e
    | heartbeat => exact heartbeat_raises settings args s raised e
    | _ => cases ht
  | false =>
    rcases run_cases settings args command fun h => nomatch ht.symm.trans h with ⟨m, hf⟩ | ok
    · cases e.symm.trans hf.outcome
      cases hf with
      | setup out =>
        cases out
        rfl
      | strange => rfl
      | shown _ _ breaks => exact (Command.unprintable_of_ending breaks).goesOn
    · exact nomatch e.symm.trans ok

/-- **The commands of the console are such commands.** -/
theorem tidy_execute (settings : Settings) : Tidy (execute settings) where
  ends_iff word args s := by
    by_cases h : ∃ command : Command, command.word = word
    · obtain ⟨command, hw⟩ := h
      rw [outcome_execute_of_command hw]
      cases e : outcome (run settings args command) (received word args s) with
      | ok u => simp
      | error raised =>
        refine ⟨nofun, fun hx => ?_⟩
        obtain rfl : command = .exit := (Command.eq_exit_iff hw).mpr hx
        cases e
    · rw [outcome_execute_of_unknown (not_exists.mp h)]
      simp
  goes_on word args := by
    refine .bind (.alter _) fun _ => ?_
    split
    · exact .bind (run_raises settings args _) fun _ => .pure _
    · exact .bind (.alter _) fun _ => .pure _
  restful word args := restful_of_tends (talks_tends.execute settings word args)

/-! ## The greeting -/

/-- The greeting ends with how the service is, unless a state is reported for it that there is none
for. -/
theorem greet_cases {d : Deeds (Watch Client)} (h : d.service = serviceWord)
    (s : Scene (Watch Client)) :
    (∃ v, Strange v (after welcome s) ∧
        outcome (greet d) s = .error (.mishap (.unknownState v))) ∨
      (∀ v, ¬Strange v (after welcome s)) ∧ outcome (greet d) s = .ok () := by
  have welcomed : outcome (welcome : Deed Unit) s = .ok () := rfl
  have greeted (word : String) (e : outcome serviceWord (after welcome s) = .ok word) :
      outcome (greet d) s = .ok () := by
    rw [greet, outcome_bind, welcomed, h]
    dsimp only
    rw [outcome_bind, e]
    rfl
  rcases running_cases (after welcome s) with ⟨e, hn⟩ | ⟨e, ⟨v, hv, he⟩ | ⟨hn, running, he⟩⟩
  · refine .inr ⟨hn, greeted "not installed" ?_⟩
    rw [serviceWord, outcome_bind, e]
    rfl
  · refine .inl ⟨v, hv, ?_⟩
    have fails : outcome serviceWord (after welcome s) = .error (.mishap (.unknownState v)) := by
      rw [serviceWord, outcome_bind, e]
      dsimp only
      rw [if_pos rfl, outcome_bind, he]
    rw [greet, outcome_bind, welcomed, h]
    dsimp only
    rw [outcome_bind, fails]
  · refine .inr ⟨hn, greeted (if running then "running" else "stopped") ?_⟩
    rw [serviceWord, outcome_bind, e]
    dsimp only
    rw [if_pos rfl, outcome_bind, he]
    cases running <;> rfl

theorem restful_serviceWord : Respects restful serviceWord := by
  refine restful_of_tends (.bind talks_tends.upholds.isInstalled fun installed => ?_)
  split
  · refine .bind talks_tends.upholds.isRunning fun running => ?_
    split <;> exact .pure _
  · exact .pure _

theorem restful_dialogue {run : String → List String → Deed Bool} (h : Tidy run)
    (lines : List String) : Respects restful (dialogue run lines) := by
  have world (f : World → World) : Respects restful (Act.alter f : Deed Unit) := fun _ h => h
  have logs (level : Int) (message : LooseText) (traced : Bool) :
      Respects restful (Console.log level message traced : Deed Unit) := fun _ h => h
  induction lines with
  | nil => exact .bind (world _) fun _ => logs _ _ _
  | cons line rest ih =>
    have obeys : Respects restful (obey run line) := by
      unfold obey
      split
      · exact .pure _
      · exact .bind (logs _ _ _) fun _ => h.restful _ _
    refine .bind (world _) fun _ => .bind (.attempt obeys) fun result => ?_
    split
    · exact .pure _
    · exact ih
    · split
      · exact logs _ _ _
      · exact .bind (logs _ _ _) fun _ => ih

/-! ## A whole run -/

/-- A run without arguments leaves no reporter that runs. -/
theorem still_conduct (settings : Settings) {run : String → List String → Deed Bool} (h : Tidy run)
    (w : World) (input : String) (farewell : Bool) :
    (after (conduct { deeds settings with execute := run } settings [] input farewell)
      ⟨w, { host := create settings {} }⟩).own.registry.Still := by
  let d : Deeds (Watch Client) := { deeds settings with execute := run }
  let s : Scene (Watch Client) := ⟨w, { host := create settings {} }⟩
  have own : (after settings.setUpLog s).own = s.own := outward_setUpLog settings s
  have restfulSession : Respects restful (session d [] input) := by
    have greeting : Respects restful (greet d) :=
      .bind (.bind (fun _ h => h) fun _ => fun _ h => h) fun _ => .bind restful_serviceWord
        fun _ => .bind (fun _ h => h) fun _ => fun _ h => h
    exact .bind greeting fun _ => restful_dialogue h _
  have begun : (after settings.setUpLog s).own.registry.Tended none := by
    rw [own]
    exact .empty
  have ended := still_close (restfulSession _ begun)
  rw [conduct, after_bind]
  cases outcome settings.setUpLog s with
  | error raised =>
    refine begun.still ?_
    rw [own]
  | ok u =>
    dsimp only
    rw [after_bind, after_ensure]
    split
    · cases farewell with
      | true => exact ended
      | false => exact ended
    · exact ended

/-- What a run calls once there is a log: the commands that are typed, unless the greeting fails,
and in any case the closing of the client. -/
theorem calls_of_log {d : Deeds (Watch Client)} (hd : Commands d.execute)
    (hs : d.service = serviceWord) {settings : Settings} (input : String) (farewell : Bool)
    {s : Scene (Watch Client)} (logs : outcome settings.setUpLog s = .ok ()) :
    let t := after settings.setUpLog s
    (∀ v, Strange v (after welcome t) → d.calls settings [] input farewell s = [.close] ∧
      outcome (session d [] input) t = .error (.mishap (.unknownState v))) ∧
    ((∀ v, ¬Strange v (after welcome t)) →
      d.calls settings [] input farewell s =
          ((typed (Text.lines input)).map fun c => .execute c.1 c.2) ++ [.close] ∧
        outcome (session d [] input) t = .ok ()) := by
  intro t
  obtain ⟨u, same, fresh, all⟩ := calls_of_setUpLog d [] input farewell logs
  obtain ⟨fails, succeeds⟩ := calls_session hd input fresh
  rw [same] at fails succeeds
  rw [all]
  rcases greet_cases hs t with ⟨v, hv, he⟩ | ⟨hn, he⟩
  · obtain ⟨ends, called⟩ := fails _ he
    refine ⟨fun v' hv' => ?_, fun hn => absurd hv (hn v)⟩
    rw [called, hv'.inj hv]
    exact ⟨rfl, ends⟩
  · obtain ⟨ends, called⟩ := succeeds he
    refine ⟨fun v hv => absurd hv (hn v), fun _ => ?_⟩
    rw [called]
    exact ⟨rfl, ends⟩

/-- **A run without arguments calls exactly the commands that are typed**, up to the first `exit`,
and closes the client once, as the last call, whatever the commands do and whatever the pipe and the
service manager do; no reporter runs after it. What is called is what is written into a book that
changes nothing else. It calls no command only where it ends before the
first line is read: where the log cannot be set up there is no client yet, and where a state is
reported for the service that there is none for the greeting lets it out. -/
theorem calls_as_typed (settings : Settings) (w : World) (input : String) (farewell : Bool) :
    Tidy (execute settings) ∧
      ∀ run : String → List String → Deed Bool, Tidy run →
        let d : Deeds (Watch Client) := { deeds settings with execute := run }
        let s : Scene (Watch Client) := ⟨w, { host := create settings {} }⟩
        let t := after settings.setUpLog s
        let calls := d.calls settings [] input farewell s
        Mirrors (conduct d.booked settings [] input farewell)
            (conduct d settings [] input farewell) ∧
          (after (conduct d settings [] input farewell) s).own.registry.Still ∧
          (∀ raised, outcome settings.setUpLog s = .error raised → calls = []) ∧
          (outcome settings.setUpLog s = .ok () →
            (∀ v, Strange v (after welcome t) → calls = [.close] ∧
              outcome (session d [] input) t = .error (.mishap (.unknownState v))) ∧
            ((∀ v, ¬Strange v (after welcome t)) →
              calls = ((typed (Text.lines input)).map fun c => .execute c.1 c.2) ++ [.close] ∧
                outcome (session d [] input) t = .ok ())) := by
  refine ⟨tidy_execute settings, fun run h => ?_⟩
  intro d s t calls
  exact ⟨mirrors_conduct d settings [] input farewell, still_conduct settings h w input farewell,
    fun raised fails => calls_of_setUpLog_error d fails,
    calls_of_log (d := d) h.toCommands rfl input farewell⟩

/-- Without a log file there is a log in any case. -/
theorem setUpLog_of_no_file {σ : Type} {settings : Settings} (h : settings.logFile = "")
    (s : Scene σ) :
    outcome settings.setUpLog s = .ok () ∧
      ∃ logging, after settings.setUpLog s = ⟨{ s.world with logging }, s.own⟩ := by
  have noFile : (none : Option String).getD settings.logFile = "" := h
  unfold Settings.setUpLog
  simp only [outcome_bind, after_bind, noFile, if_true]
  exact ⟨rfl, _, rfl⟩

/-- Where the greeting lets out a state that there is none for, a command that is typed is not
called. -/
theorem typed_not_called :
    let s : Scene (Watch Client) :=
      ⟨{ now := 1.0, manager := { state := 9 } }, { host := create {} {} }⟩
    typed (Text.lines "help\n") = [("help", [])] ∧
      (deeds {}).calls {} [] "help\n" false s = [.close] ∧
      outcome (session (deeds {}) [] "help\n") (after ({} : Settings).setUpLog s) =
        .error (.mishap (.unknownState 9)) := by
  intro s
  obtain ⟨logs, logging, e⟩ := setUpLog_of_no_file (show ({} : Settings).logFile = "" from rfl) s
  have strange : Strange 9 (after welcome (after ({} : Settings).setUpLog s)) := by
    rw [e]
    exact ⟨rfl, ⟨⟨.inr rfl, nofun⟩, nofun⟩, rfl, rfl⟩
  have commands : Commands (deeds {}).execute := (tidy_execute {}).toCommands
  exact ⟨by decide +kernel,
    (calls_of_log (d := deeds {}) commands rfl "help\n" false logs).1 9 strange⟩

end Console

end Vigil
