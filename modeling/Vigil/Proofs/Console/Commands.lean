import Vigil.Console.Command
import Vigil.Proofs.Client.Boundary
import Vigil.Proofs.Console.Printing
import Vigil.Proofs.Protocol.Skipped

/-!
# What commands let out

A command of the console prints what the client answers, and most answers are results, whatever
went wrong. Yet three things get out of commands. Setting the service up lets out what
`Client.LetsOut` says. The status asks outside any guard whether the service runs. And not all that
the supervisor says can be printed: the words of a refusal and the texts of an entry may be torn,
and the times it reports can be larger than any double. `Fails` lists these ways out.

* `Asks`: what a command asks of the client before it shows the answer.
* `Command.ending_cases`: which answers cannot be shown.
* `execute_returns_iff`: every other command returns, and only `exit` ends the console.
-/

namespace Vigil.Console

open Act Client

variable {σ : Type} {settings : Settings} {args : List String}

/-! ## The words -/

/-- The command of a word is the one that has the word. -/
theorem Command.ofWord?_eq_some_iff {word : String} {command : Command} :
    ofWord? word = some command ↔ command.word = word := by
  constructor
  · intro h
    simpa using List.find?_some h
  · rintro rfl
    cases command <;> rfl

/-! ## The status -/

/-- The first part of the status: how the service is. -/
def tellService (serviceName : String) : Deed Unit := do
  let installed ← Client.isServiceInstalled
  let running ← if installed then Client.isServiceRunning else pure false
  Act.print s!"\nService '{serviceName}': {serviceLabel installed running}"

/-- The second part: what the supervisor reports. -/
def tellSupervisor : Deed Unit := do
  match ← Client.serviceStatus with
  | .failure e => Act.printText ("Supervisor unreachable: " ++ e.message ++ "\n")
  | .success content skipped => showStatus (statusOf content) skipped

theorem status_eq (serviceName : String) :
    status serviceName = (do tellService serviceName; tellSupervisor) := by
  unfold status tellService tellSupervisor
  rw [bind_assoc]
  refine bind_congr fun installed => ?_
  cases installed with
  | false => rfl
  | true => exact (bind_assoc _ _ _).symm

/-- The service is installed and can be opened, and a state is reported for it that there is none
for. -/
structure Strange (v : UInt32) (s : Scene (Watch Client)) : Prop where
  installed : outcome Client.isServiceInstalled s = .ok true
  unreadable : Controller.Unreadable v (controllerOf (after Client.isServiceInstalled s))

theorem Strange.inj {v w : UInt32} {s : Scene (Watch Client)} (hv : Strange v s)
    (hw : Strange w s) : v = w :=
  Option.some.inj (hv.unreadable.reported.symm.trans hw.unreadable.reported)

/-- The service is not installed, or is asked whether it runs. -/
theorem running_cases (s : Scene (Watch Client)) :
    (outcome isServiceInstalled s = .ok false ∧ ∀ v, ¬Strange v s) ∨
      outcome isServiceInstalled s = .ok true ∧
        ((∃ v, Strange v s ∧ outcome isServiceRunning (after isServiceInstalled s) =
            .error (.mishap (.unknownState v))) ∨
          (∀ v, ¬Strange v s) ∧
            ∃ running, outcome isServiceRunning (after isServiceInstalled s) = .ok running) := by
  obtain ⟨installed, e⟩ := isServiceInstalled_cases s
  cases installed with
  | false => exact .inl ⟨e, fun v h => nomatch e.symm.trans h.installed⟩
  | true =>
    refine .inr ⟨e, ?_⟩
    rw [isServiceRunning, outcome_onController]
    rcases Controller.isRunning_cases (controllerOf (after isServiceInstalled s)) with
      ⟨v, hv, he⟩ | ⟨hn, running, he⟩
    · exact .inl ⟨v, ⟨e, hv⟩, he⟩
    · exact .inr ⟨fun v h => hn v h.unreadable, running, he⟩

theorem tellService_cases (serviceName : String) (s : Scene (Watch Client)) :
    (∃ v, Strange v s ∧ outcome (tellService serviceName) s = .error (.mishap (.unknownState v))) ∨
      (∀ v, ¬Strange v s) ∧ outcome (tellService serviceName) s = .ok () := by
  rw [tellService, outcome_bind]
  rcases running_cases s with ⟨e, hn⟩ | ⟨e, ⟨v, hv, he⟩ | ⟨hn, running, he⟩⟩
  · rw [e]
    exact .inr ⟨hn, rfl⟩
  · rw [e]
    dsimp only
    rw [if_pos rfl, outcome_bind, he]
    exact .inl ⟨v, hv, rfl⟩
  · rw [e]
    dsimp only
    rw [if_pos rfl, outcome_bind, he]
    exact .inr ⟨hn, rfl⟩

/-! ## What is asked of the client -/

/-- The id of a new item is a string: one that is given, or one of the time. -/
theorem created_id {exePath name : String} {options : ItemOptions}
    {clock : Except Number.NotWhole Int} {item : Item}
    (h : Item.create exePath name options clock = .ok item) :
    ∃ id : String, item.id = LooseText.ofString id := by
  have made (choice : Except Number.NotWhole String) (rest : String → Item)
      (keeps : ∀ id : String, (rest id).id = LooseText.ofString id)
      (e : (do pure (rest (← choice))) = Except.ok item) :
      ∃ id : String, item.id = LooseText.ofString id := by
    obtain ⟨id, -, made⟩ := exists_of_bind e
    cases made
    exact ⟨id, keeps id⟩
  unfold Item.create at h
  split at h
  · split at h
    · exact made _ _ (fun _ => rfl) h
    · exact made (pure _) _ (fun _ => rfl) h
  · exact made _ _ (fun _ => rfl) h

theorem newItem?_id {s : Scene σ} {item : Item}
    (h : outcome (newItem? settings args) s = .ok (some item)) :
    ∃ id : String, item.id = LooseText.ofString id := by
  unfold newItem? at h
  cases e : AddArgs.parse settings.itemTimeout args with
  | error refusal =>
    rw [e] at h
    cases h
  | ok parsed =>
    obtain ⟨exePath, name, options⟩ := parsed
    rw [e] at h
    simp only [outcome_bind, outcome_world, after_world, outcome_orStumble] at h
    cases made : Item.create exePath name options s.world.epochMillis with
    | error reason =>
      rw [made] at h
      cases h
    | ok created =>
      rw [made] at h
      cases h
      exact created_id made

/-- A new item is made if the clock gives a time. -/
theorem newItem?_returns (settings : Settings) (args : List String) {s : Scene σ} {millis : Int}
    (ht : s.world.epochMillis = .ok millis) :
    ∃ item, outcome (newItem? settings args) s = .ok item := by
  unfold newItem?
  cases AddArgs.parse settings.itemTimeout args with
  | error refusal => exact ⟨none, rfl⟩
  | ok parsed =>
    obtain ⟨exePath, name, options⟩ := parsed
    have made : ∃ item, Item.create exePath name options s.world.epochMillis = .ok item := by
      rw [ht]
      unfold Item.create
      split
      · split <;> exact ⟨_, rfl⟩
      · exact ⟨_, rfl⟩
    obtain ⟨item, e⟩ := made
    simp only [outcome_bind, outcome_world, after_world, outcome_orStumble, e]
    exact ⟨some item, rfl⟩

/-- What a command asks of the client, and in which scene, before it shows the answer. -/
inductive Asks (settings : Settings) :
    Command → List String → Scene (Watch Client) → Deed (Result Content) → Scene (Watch Client) →
      Prop
  | list {args s} : Asks settings .list args s Client.listItems s
  | status {args s} : (∀ v, ¬Strange v s) →
      Asks settings .status args s Client.serviceStatus
        (after (tellService settings.serviceName) s)
  | add {args s item} : outcome (newItem? settings args) s = .ok (some item) →
      Asks settings .add args s (Client.addItem item) (after (newItem? settings args) s)
  | remove {id rest s} : Asks settings .remove (id :: rest) s (Client.removeItem id) s
  | pause {id rest s} : Asks settings .pause (id :: rest) s (Client.stopItem id) s
  | resume {id rest s} : Asks settings .resume (id :: rest) s (Client.startItem id) s
  | heartbeat {id rest s} : Asks settings .heartbeat (id :: rest) s (Client.sendHeartbeat id) s

namespace Command

/-- How a command speaks of an error. -/
def complaint : Command → Error → LooseText
  | .status, e => "Supervisor unreachable: " ++ e.message ++ "\n"
  | _, e => "ERROR: " ++ e.message

/-- The rows of the entries that a command shows, at a time. -/
def entryRows (now : Float) : Command → Content → List (Except Mishap String)
  | .list, content => content.entries.map itemRow
  | .status, content => (statusOf content).items.map (statusRow now)
  | _, _ => []

/-- How a command ends that shows an answer at a time: the words of a refusal may be torn, and an
entry may be one that cannot be shown. -/
def ending (now : Float) (command : Command) : Result Content → Except Mishap Unit
  | .failure e => Console.ending [row (command.complaint e)]
  | .success content _ => Console.ending (command.entryRows now content)

/-- The content holds an entry that the command cannot show. -/
def Breaks : Command → Content → Prop
  | .list, content => ∃ i ∈ content.entries, i.Torn
  | .status, content => ∃ p ∈ (statusOf content).items, Unshown p
  | _, _ => False

/-- The answer cannot be shown by the command. -/
def Unspeakable (command : Command) : Result Content → Prop
  | .failure e => ∃ text ∈ e.words?, text.Torn
  | .success content _ => command.Breaks content

theorem torn_complaint (command : Command) (e : Error) :
    (command.complaint e).Torn ↔ ∃ text ∈ e.words?, text.Torn := by
  rw [← Error.torn_message_iff]
  cases command <;> simp only [complaint, LooseText.torn_append, LooseText.not_torn_ofString,
    false_or, or_false]

theorem ending_entryRows (now : Float) (command : Command) (content : Content) :
    (command.Breaks content ∧ ∃ m, Console.ending (command.entryRows now content) = .error m) ∨
      ¬command.Breaks content ∧ Console.ending (command.entryRows now content) = .ok () := by
  cases command with
  | list => exact itemRow_rowed.ending_map content.entries
  | status => exact (statusRow_rowed now).ending_map (statusOf content).items
  | _ => exact .inr ⟨id, rfl⟩

/-- **Which answers cannot be shown**: refusals in torn words, and contents with an entry that has
no row. -/
theorem ending_cases (now : Float) (command : Command) (result : Result Content) :
    (command.Unspeakable result ∧ ∃ m, command.ending now result = .error m) ∨
      ¬command.Unspeakable result ∧ command.ending now result = .ok () := by
  cases result with
  | success content skipped => exact ending_entryRows now command content
  | failure e =>
    rw [Unspeakable, ending, ← torn_complaint]
    rcases row_cases (command.complaint e) with ⟨torn, fault, f⟩ | ⟨whole, f⟩
    · rw [f]
      exact .inl ⟨torn, _, rfl⟩
    · rw [f]
      exact .inr ⟨whole, rfl⟩

/-- What goes wrong with an answer that cannot be shown. -/
theorem unprintable_of_ending {now : Float} {command : Command} {result : Result Content}
    {m : Mishap} (h : command.ending now result = .error m) : Unprintable m := by
  cases result with
  | failure e => exact unprintable_row (List.mem_singleton.mp (mem_of_ending h)).symm
  | success content skipped =>
    have among := mem_of_ending h
    cases command with
    | list =>
      obtain ⟨i, -, e⟩ := List.mem_map.mp among
      exact unprintable_row e
    | status =>
      obtain ⟨p, -, e⟩ := List.mem_map.mp among
      exact unprintable_statusRow e
    | _ => cases among

end Command

/-- A list ends as its entries do. -/
theorem ending_listRows (items : List Item) (skipped : Option ProtocolFault) :
    ending (listRows items skipped) = ending (items.map itemRow) := by
  unfold listRows
  split
  · rename_i none
    rw [List.isEmpty_iff.mp none]
    rfl
  · exact ending_append_map_ok _ _

/-- A status ends as its entries do. -/
theorem ending_statusRows (now : Float) (status : ServiceStatus) (skipped : Option ProtocolFault) :
    ending (statusRows now status skipped) = ending (status.items.map (statusRow now)) :=
  ending_append_map_ok _ _

/-- An answer that is reported ends the command as showing it ends. -/
theorem outcome_report {command : Command} {x : Deed (Result Content)} {done : LooseText}
    {t : Scene (Watch Client)} {result : Result Content} (whole : ¬done.Torn)
    (plain : ∀ e, command.complaint e = "ERROR: " ++ e.message)
    (bare : ∀ now content, command.entryRows now content = [])
    (answered : outcome x t = .ok result) :
    outcome (do report (← x) done) t =
      (command.ending (after x t).world.now result).mapError .mishap := by
  rw [outcome_bind, answered]
  dsimp only
  rw [(report_prints result done _).ends, ending_reportRows whole]
  cases result with
  | success content skipped =>
    rw [Command.ending, bare]
    rfl
  | failure e =>
    rw [Command.ending, plain]
    rfl

/-- **A command ends as showing its answer ends.** -/
theorem Asks.outcome_run {command : Command} {s t : Scene (Watch Client)}
    {x : Deed (Result Content)} {result : Result Content} (h : Asks settings command args s x t)
    (answered : outcome x t = .ok result) :
    outcome (run settings args command) s =
      (command.ending (after x t).world.now result).mapError .mishap := by
  have said {id done : String} :
      ¬(LooseText.ofString s!"Monitor item '{id}' {done}.").Torn := LooseText.not_torn_ofString _
  cases h with
  | list =>
    rw [run, listItems, outcome_bind, answered]
    cases result with
    | failure e => exact (printError_prints e _).ends
    | success content skipped =>
      exact (showItems_prints ..).ends.trans (by rw [ending_listRows]; rfl)
  | status hn =>
    rw [run, status_eq, outcome_bind]
    rcases tellService_cases settings.serviceName s with ⟨w, hw, -⟩ | ⟨-, told⟩
    · exact absurd hw (hn w)
    · rw [told]
      dsimp only
      rw [tellSupervisor, outcome_bind, answered]
      cases result with
      | failure e => exact (Prints.printText _).ends
      | success content skipped =>
        exact (showStatus_prints ..).ends.trans (by rw [ending_statusRows]; rfl)
  | add made =>
    rename_i item
    obtain ⟨id, hid⟩ := newItem?_id made
    have whole : ¬("Monitor item '" ++ item.id ++ "' added.").Torn := by
      simp only [hid, LooseText.torn_append, LooseText.not_torn_ofString, or_false,
        not_false_eq_true]
    rw [run, addItem, outcome_bind, made]
    exact outcome_report whole (fun _ => rfl) (fun _ _ => rfl) answered
  | remove => exact outcome_report said (fun _ => rfl) (fun _ _ => rfl) answered
  | pause => exact outcome_report said (fun _ => rfl) (fun _ _ => rfl) answered
  | resume => exact outcome_report said (fun _ => rfl) (fun _ _ => rfl) answered
  | heartbeat => exact outcome_report said (fun _ => rfl) (fun _ _ => rfl) answered

/-! ## Commands -/

/-- What a command lets out. -/
inductive Fails (settings : Settings) :
    Command → List String → Scene (Watch Client) → Mishap → Prop
  | setup {path rest s m} : LetsOut (.quickSetup path) s m →
      Fails settings .setup (path :: rest) s m
  | strange {args s v} : Strange v s → Fails settings .status args s (.unknownState v)
  | shown {command args s x t result m} : Asks settings command args s x t →
      outcome x t = .ok result → command.ending (after x t).world.now result = .error m →
      Fails settings command args s m

/-- What a command is said to let out gets out. -/
theorem Fails.outcome {command : Command} {s : Scene (Watch Client)} {m : Mishap}
    (h : Fails settings command args s m) :
    outcome (run settings args command) s = .error (.mishap m) := by
  cases h with
  | setup h =>
    rename_i path rest
    have out : outcome (quickSetup path) s = .error (.mishap m) := by
      have performed := h.outcome
      rw [perform, outcome_map] at performed
      cases he : outcome (quickSetup path) s with
      | ok result =>
        rw [he] at performed
        cases performed
      | error e =>
        rw [he] at performed
        cases performed
        rfl
    rw [run, withArgument, outcome_bind, out]
  | strange h =>
    rw [run, status_eq, outcome_bind]
    rcases tellService_cases settings.serviceName s with ⟨w, hw, he⟩ | ⟨hn, -⟩
    · rw [he, h.inj hw]
    · exact absurd h (hn _)
  | shown asks answered breaks =>
    rw [asks.outcome_run answered, breaks]
    rfl

/-- A command that asks the client lets something out or returns. -/
theorem Asks.cases {command : Command} {s t : Scene (Watch Client)} {x : Deed (Result Content)}
    (h : Asks settings command args s x t)
    (answers : ∃ result, outcome x t = .ok result ∧ result.Proper) :
    (∃ m, Fails settings command args s m) ∨ outcome (run settings args command) s = .ok () := by
  obtain ⟨result, answered, -⟩ := answers
  rcases command.ending_cases (after x t).world.now result with ⟨-, m, breaks⟩ | ⟨-, ends⟩
  · exact .inl ⟨m, .shown h answered breaks⟩
  · refine .inr ?_
    rw [h.outcome_run answered, ends]
    rfl

/-- What the service came to is reported. -/
theorem outcome_reported {α : Type} {x : Deed (Result α)} {done : String}
    {s : Scene (Watch Client)} (h : ∃ result, outcome x s = .ok result ∧ result.OfService) :
    outcome (do report (← x) done) s = .ok () := by
  obtain ⟨result, answered, served⟩ := h
  rw [outcome_bind, answered]
  dsimp only
  rw [(report_prints result done _).ends, ending_reportRows (LooseText.not_torn_ofString done)]
  cases result with
  | success value skipped => rfl
  | failure e =>
    obtain ⟨fault, rfl⟩ := served
    obtain ⟨-, spoken⟩ := (row_cases ("ERROR: " ++ (Error.service fault).message)).resolve_left
      fun h => LooseText.not_torn_ofString _ ((LooseText.torn_append.mp h.1).resolve_left
        (LooseText.not_torn_ofString _))
    show (ending [row ("ERROR: " ++ (Error.service fault).message)]).mapError _ = _
    rw [spoken]
    rfl

theorem status_cases (settings : Settings) (args : List String) (s : Scene (Watch Client)) :
    (∃ m, Fails settings .status args s m) ∨ outcome (run settings args .status) s = .ok () := by
  rcases tellService_cases settings.serviceName s with ⟨v, hv, -⟩ | ⟨hn, -⟩
  · exact .inl ⟨_, .strange hv⟩
  · exact Asks.cases (.status hn) (request_returns .status .serviceStatus _)

theorem add_cases (settings : Settings) (args : List String) {s : Scene (Watch Client)}
    {millis : Int} (ht : s.world.epochMillis = .ok millis) :
    (∃ m, Fails settings .add args s m) ∨ outcome (run settings args .add) s = .ok () := by
  obtain ⟨item, made⟩ := newItem?_returns settings args ht
  cases item with
  | none =>
    refine .inr ?_
    rw [run, addItem, outcome_bind, made]
    rfl
  | some item => exact Asks.cases (.add made) (addItem_returns item _)

theorem outcome_toggleVerbose (s : Scene σ) : outcome toggleVerbose s = .ok () := by
  unfold toggleVerbose
  simp only [outcome_bind, outcome_alter, after_alter, outcome_world, after_world]
  split
  · rfl
  · rfl

theorem outcome_help (s : Scene σ) : outcome help s = .ok () := by
  obtain ⟨u, hr, -⟩ := Returns.forM (l := helpLines)
    (fun line s => ⟨(), outcome_print s line, trivial⟩) s
  exact hr

/-- Whether a command needs to be told the time. -/
def Command.needsTime : Command → Bool
  | .add | .heartbeat => true
  | _ => false

/-- The command is run, or lets something out. -/
theorem run_cases (settings : Settings) (args : List String) (command : Command)
    {s : Scene (Watch Client)}
    (ht : command.needsTime = true → ∃ millis, s.world.epochMillis = .ok millis) :
    (∃ m, Fails settings command args s m) ∨ outcome (run settings args command) s = .ok () := by
  cases command with
  | list => exact Asks.cases .list (request_returns .list .listItems s)
  | status => exact status_cases settings args s
  | add =>
    obtain ⟨millis, ht⟩ := ht rfl
    exact add_cases settings args ht
  | remove =>
    cases args with
    | nil => exact .inr rfl
    | cons id rest => exact Asks.cases .remove (removeItem_returns id s)
  | pause =>
    cases args with
    | nil => exact .inr rfl
    | cons id rest => exact Asks.cases .pause (stopItem_returns id s)
  | resume =>
    cases args with
    | nil => exact .inr rfl
    | cons id rest => exact Asks.cases .resume (startItem_returns id s)
  | heartbeat =>
    obtain ⟨millis, ht⟩ := ht rfl
    cases args with
    | nil => exact .inr rfl
    | cons id rest => exact Asks.cases .heartbeat (sendHeartbeat_returns id ht)
  | setup =>
    cases args with
    | nil => exact .inr rfl
    | cons path rest =>
      rcases quickSetup_cases path s with ⟨t, v, hc, hu⟩ | h
      · exact .inl ⟨_, .setup (.checking hc hu)⟩
      · exact .inr (outcome_reported h)
  | install =>
    cases args with
    | nil => exact .inr rfl
    | cons path rest => exact .inr (outcome_reported (installService_returns path s))
  | uninstall =>
    exact .inr (outcome_reported (serviceCall_returns _ Controller.uninstall_raises s))
  | start => exact .inr (outcome_reported (startService_returns s))
  | stop => exact .inr (outcome_reported (serviceCall_returns _ Controller.stop_raises s))
  | verbose => exact .inr (outcome_toggleVerbose s)
  | help => exact .inr (outcome_help s)
  | exit => exact .inr rfl

/-! ## Words -/

/-- The scene in which a command is run: its word and its arguments stand in the log. -/
def received (word : String) (args : List String) (s : Scene (Watch Client)) :
    Scene (Watch Client) :=
  after (Act.log .commands Level.debug
    s!"Executing command: {word}, args: {Text.quotedList args}") s

/-- The record changes the journal and the files, and nothing else. -/
theorem received_eq (word : String) (args : List String) (s : Scene (Watch Client)) :
    ∃ journal files, received word args s = ⟨{ s.world with journal, files }, s.own⟩ := by
  obtain ⟨journal, files, kept⟩ := s.world.keep_eq _
  exact ⟨journal, files, congrArg (Scene.mk · s.own) kept⟩

theorem epochMillis_received (word : String) (args : List String) (s : Scene (Watch Client)) :
    (received word args s).world.epochMillis = s.world.epochMillis := by
  obtain ⟨journal, files, logged⟩ := received_eq word args s
  rw [logged]
  rfl

/-- What a word lets out: what its command does. -/
def Crashes (settings : Settings) (word : String) (args : List String) (s : Scene (Watch Client))
    (m : Mishap) : Prop :=
  ∃ command : Command, command.word = word ∧ Fails settings command args (received word args s) m

/-- Only one word ends the console. -/
theorem Command.eq_exit_iff {word : String} {command : Command} (h : command.word = word) :
    command = .exit ↔ word = "exit" := by
  subst h
  cases command <;> decide

theorem outcome_execute_of_command {word : String} {command : Command}
    (h : command.word = word) (s : Scene (Watch Client)) :
    outcome (execute settings word args) s =
      match outcome (run settings args command) (received word args s) with
      | .ok () => .ok (decide (word = "exit"))
      | .error e => .error e := by
  rw [execute, outcome_bind, outcome_log]
  dsimp only
  rw [Command.ofWord?_eq_some_iff.mpr h]
  dsimp only
  rw [outcome_bind]
  have same : outcome (run settings args command) (after (Act.log .commands Level.debug
      s!"Executing command: {word}, args: {Text.quotedList args}") s) =
      outcome (run settings args command) (received word args s) := rfl
  rw [same]
  cases outcome (run settings args command) (received word args s) with
  | error e => rfl
  | ok u =>
    rw [outcome_pure]
    simp only [Command.eq_exit_iff h]

/-- What a command does that is known by its word. -/
theorem after_execute_of_command {word : String} {command : Command} (h : command.word = word)
    (s : Scene (Watch Client)) :
    after (execute settings word args) s =
      after (run settings args command) (received word args s) := by
  rw [execute, after_bind, outcome_log]
  dsimp only
  rw [Command.ofWord?_eq_some_iff.mpr h]
  dsimp only
  rw [after_bind]
  have same : after (Act.log .commands Level.debug
      s!"Executing command: {word}, args: {Text.quotedList args}") s = received word args s := rfl
  rw [same]
  cases outcome (run settings args command) (received word args s) <;> rfl

/-- A word that names no command is logged. -/
theorem outcome_execute_of_unknown {word : String} (h : ∀ command : Command, command.word ≠ word)
    (s : Scene (Watch Client)) :
    outcome (execute settings word args) s = .ok (decide (word = "exit")) := by
  have unknown : Command.ofWord? word = none := by
    cases hw : Command.ofWord? word with
    | none => rfl
    | some command => exact absurd (Command.ofWord?_eq_some_iff.mp hw) (h command)
  have other : word ≠ "exit" := Ne.symm (h .exit)
  rw [execute, outcome_bind, outcome_log, decide_eq_false other]
  dsimp only
  rw [unknown]
  rfl

/-- What a word is said to let out gets out. -/
theorem Crashes.outcome {word : String} {s : Scene (Watch Client)} {m : Mishap}
    (h : Crashes settings word args s m) :
    outcome (execute settings word args) s = .error (.mishap m) := by
  obtain ⟨command, hw, hf⟩ := h
  rw [outcome_execute_of_command hw, hf.outcome]

theorem execute_cases (settings : Settings) (word : String) (args : List String)
    {s : Scene (Watch Client)} {millis : Int} (ht : s.world.epochMillis = .ok millis) :
    (∃ m, Crashes settings word args s m) ∨
      outcome (execute settings word args) s = .ok (decide (word = "exit")) := by
  by_cases h : ∃ command : Command, command.word = word
  · obtain ⟨command, hw⟩ := h
    have ht' := (epochMillis_received word args s).trans ht
    rcases run_cases settings args command fun _ => ⟨millis, ht'⟩ with ⟨m, hf⟩ | he
    · exact .inl ⟨m, command, hw, hf⟩
    · refine .inr ?_
      rw [outcome_execute_of_command hw, he]
  · exact .inr (outcome_execute_of_unknown (not_exists.mp h) s)

/-- **A word returns, and says to end the console exactly if it is `exit`**, if and only if it does
not let something out, in every state and whatever the pipe, the supervisor and the service manager
do, if the clock gives a time. What it lets out is told exactly. -/
theorem execute_returns_iff (settings : Settings) (word : String) (args : List String)
    {s : Scene (Watch Client)} {millis : Int} (ht : s.world.epochMillis = .ok millis) :
    (outcome (execute settings word args) s = .ok (decide (word = "exit")) ↔
        ∀ m, ¬Crashes settings word args s m) ∧
      ∀ m, outcome (execute settings word args) s = .error (.mishap m) ↔
        Crashes settings word args s m := by
  have cases := execute_cases settings word args ht
  refine ⟨⟨?_, ?_⟩, fun m => ⟨?_, Crashes.outcome⟩⟩
  · intro e m h
    exact nomatch e.symm.trans h.outcome
  · intro hn
    exact cases.resolve_left fun ⟨m, h⟩ => hn m h
  · intro e
    rcases cases with ⟨m', h⟩ | e'
    · cases e.symm.trans h.outcome
      exact h
    · exact nomatch e.symm.trans e'

/-- A state that there is none for gets out of the status, though the clock gives a time. -/
theorem execute_crashes :
    let s : Scene (Watch Client) :=
      ⟨{ now := 1.0, manager := { state := 9 } }, { host := create {} {} }⟩
    s.world.epochMillis = .ok 1000 ∧
      outcome (execute {} "status" []) s = .error (.mishap (.unknownState 9)) := by
  intro s
  have strange : Strange 9 (received "status" [] s) := by
    obtain ⟨journal, files, logged⟩ := received_eq "status" [] s
    rw [logged]
    exact ⟨rfl, ⟨⟨.inr rfl, nofun⟩, nofun⟩, rfl, rfl⟩
  exact ⟨epochMillis_of_one rfl, Crashes.outcome ⟨.status, rfl, .strange strange⟩⟩

/-- The items are listed or an error is shown, and the console goes on. -/
theorem execute_returns_iff_of_list :
    let s : Scene (Watch Client) := ⟨{ now := 1.0 }, { host := create {} {} }⟩
    s.world.epochMillis = .ok 1000 ∧ outcome (execute {} "list" []) s = .ok false := by
  intro s
  have ht : s.world.epochMillis = .ok 1000 := epochMillis_of_one rfl
  refine ⟨ht, (execute_returns_iff {} "list" [] ht).1.mpr ?_⟩
  have absent : outcome Client.listItems (received "list" [] s) =
      .ok (.failure (.channel .pipeMissing)) := by
    obtain ⟨journal, files, logged⟩ := received_eq "list" [] s
    rw [logged]
    rfl
  rintro m ⟨command, hw, hf⟩
  cases hf with
  | strange => exact absurd hw (by decide)
  | shown asks answered breaks =>
    cases asks with
    | list =>
      cases absent.symm.trans answered
      exact nomatch breaks
    | _ => exact absurd hw (by decide)

end Vigil.Console
