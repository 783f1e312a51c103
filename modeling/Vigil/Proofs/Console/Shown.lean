import Mathlib.Data.List.TakeWhile
import Vigil.Proofs.Client.Reply
import Vigil.Proofs.Console.Commands
import Vigil.Proofs.Console.Sheet

/-!
# What the console shows of a reply

Two commands show what a reply brings: the list of items and the status of processes. Each prints a
sheet of the entries, with the error of the one that was skipped last. The list has another text for
no items at all, and then says nothing of what was skipped; and both break off at an entry that
cannot be shown.

* `View`: the two commands.
* `View.shows_reply`: what they show of a reply of success.
* `list_hides_skipped`: a list of nothing but entries that cannot be read is shown as an empty one.
-/

namespace Vigil.Console

open Act Client Text

variable {σ : Type}

/-! ## Heads -/

/-- A line of dashes is no entry and no warning. -/
theorem isFrame_of_dashes {line : String} (h : "---".toList <+: line.toList) : IsFrame line := by
  constructor
  · intro he
    have marks : "---".toList <+: "  - ".toList := List.prefix_of_prefix_length_le h he (by decide)
    revert marks
    decide
  · intro hw
    have marks : "---".toList <+: "WARNING: ".toList :=
      List.prefix_of_prefix_length_le h hw (by decide)
    revert marks
    decide

theorem statusHead_frame (status : ServiceStatus) :
    ∀ line ∈ [statusHead status].flatMap printedLines, IsFrame line := by
  have unbroken : Unbroken (statusHead status) :=
    unbroken_append.mpr ⟨unbroken_append.mpr ⟨by decide +kernel, unbroken_int _⟩, by decide⟩
  have mark : "---".toList <+: "--- Supervisor Status (".toList := by decide
  rw [List.flatMap_singleton, printedLines_of_unbroken unbroken]
  exact List.forall_mem_singleton.mpr (isFrame_of_dashes (prefix_left (prefix_left mark)))

theorem listHead_frame (count : Nat) :
    ∀ line ∈ ["\n" ++ listHead count].flatMap printedLines, IsFrame line := by
  have unbroken : Unbroken (listHead count) :=
    unbroken_append.mpr ⟨unbroken_append.mpr ⟨by decide +kernel, unbroken_nat _⟩, by decide⟩
  have mark : "---".toList <+: "--- Monitor Items (".toList := by decide
  rw [List.flatMap_singleton, printedLines_of_break, printedLines_of_unbroken unbroken]
  exact List.forall_mem_cons.mpr ⟨by decide, List.forall_mem_singleton.mpr
    (isFrame_of_dashes (prefix_left (prefix_left mark)))⟩

/-! ## Sheets that are printed -/

/-- The rows of a sheet: a head, the entries, the warning and a foot. -/
def sheetRows {α : Type} (r : α → Except Mishap String) (head foot : String) (as : List α)
    (skipped : Option ProtocolFault) : List (Except Mishap String) :=
  .ok head :: (as.map r ++ (warnings skipped ++ [foot]).map .ok)

section

variable {α : Type} {r : α → Except Mishap String} {Bad : α → Prop} (face : α → Face)
  {head foot : String} {as : List α} {skipped : Option ProtocolFault} {x : Act σ Unit} {s : Scene σ}

/-- A sheet without a bad entry shows all entries and the warning. -/
theorem Prints.shows (prints : Prints x s (sheetRows r head foot as skipped))
    (h : Rowed r Bad fun a => (face a).text) (good : ∀ a ∈ as, ¬Bad a)
    (hhead : ∀ line ∈ [head].flatMap printedLines, IsFrame line)
    (hfoot : ∀ line ∈ [foot].flatMap printedLines, IsFrame line)
    (worded : ∀ fault ∈ skipped, Unbroken fault.message) :
    outcome x s = .ok () ∧
      ∃ texts, Act.after x s = printed texts s ∧ Shows texts (as.map face) skipped := by
  have rows : sheetRows r head foot as skipped =
      ([head] ++ (as.map face).map Face.text ++ warnings skipped ++ [foot]).map .ok := by
    rw [sheetRows, h.map_eq good]
    simp only [List.map_append, List.map_cons, List.map_nil, List.cons_append, List.nil_append,
      List.append_assoc, List.map_map]
    rfl
  rw [rows] at prints
  obtain ⟨ends, does⟩ := prints.of_texts
  exact ⟨ends, _, does, .of_texts [head] [foot] (as.map face) skipped hhead hfoot worded⟩

/-- A sheet with a bad entry ends there, and shows the entries before it. -/
theorem Prints.breaks [DecidablePred Bad] (prints : Prints x s (sheetRows r head foot as skipped))
    (h : Rowed r Bad fun a => (face a).text) (bad : ∃ a ∈ as, Bad a)
    (hhead : ∀ line ∈ [head].flatMap printedLines, IsFrame line) :
    ∃ m, ending (as.map r) = .error m ∧ outcome x s = .error (.mishap m) ∧
      ∃ texts, Act.after x s = printed texts s ∧
        Shows texts ((as.takeWhile fun a => ¬Bad a).map face) none := by
  obtain ⟨-, m, e⟩ := (h.ending_map as).resolve_right fun all => all.1 bad
  obtain ⟨ends, texts⟩ := ending_append_of_error e ((warnings skipped ++ [foot]).map .ok)
  have rows : printable (sheetRows r head foot as skipped) =
      [head] ++ (as.takeWhile fun a => ¬Bad a).map (fun a => (face a).text) := by
    rw [← h.printable_map as, ← texts]
    rfl
  have shown := Shows.of_texts [head] [] ((as.takeWhile fun a => ¬Bad a).map face) none hhead
    nofun nofun
  rw [List.map_map, warnings, Option.map_none, Option.toList_none, List.append_nil,
    List.append_nil] at shown
  refine ⟨m, e, ?_, _, prints.after, ?_⟩
  · rw [prints.ends]
    exact congrArg (Except.mapError Raised.mishap) ends
  · rw [rows]
    exact shown

end

/-- The list as a sheet. -/
theorem listRows_of_ne_nil {items : List Item} (h : items ≠ []) (skipped : Option ProtocolFault) :
    listRows items skipped =
      sheetRows itemRow ("\n" ++ listHead items.length) "" items skipped :=
  if_neg (mt List.isEmpty_iff.mp h)

/-! ## The commands -/

/-- A command that shows entries. -/
inductive View where
  | list
  | status

namespace View

/-- The command. -/
def command : View → Command
  | .list => .list
  | .status => .status

/-- What it asks of the supervisor. -/
def request : View → Request
  | .list => .list
  | .status => .status

/-- How its operation is called. -/
def operation : View → Operation
  | .list => .listItems
  | .status => .serviceStatus

/-- What it does before it asks: the status tells how the service is. -/
def before (settings : Settings) : View → Deed Unit
  | .list => pure ()
  | .status => tellService settings.serviceName

/-- How it asks. -/
def ask (v : View) : Deed (Result Content) := Client.request v.request v.operation

/-- What it does with the result. -/
def display : View → Result Content → Deed Unit
  | .list, .failure e => printError e
  | .list, .success content skipped => showItems content.entries skipped
  | .status, .failure e => Act.printText ("Supervisor unreachable: " ++ e.message ++ "\n")
  | .status, .success content skipped => showStatus (statusOf content) skipped

/-- The command asks and shows the result. -/
theorem run_eq (v : View) (settings : Settings) (args : List String) :
    run settings args v.command = (do v.before settings; v.display (← v.ask)) := by
  cases v with
  | list =>
    show listItems = _
    unfold listItems
    refine bind_congr fun result => ?_
    cases result <;> rfl
  | status =>
    show Console.status settings.serviceName = _
    rw [status_eq]
    refine bind_congr fun _ => ?_
    unfold tellSupervisor
    refine bind_congr fun result => ?_
    cases result <;> rfl

/-- What is shown of the entries at a time. -/
def faces (now : Float) : View → Content → List Face
  | .list, content => content.entries.map itemFace
  | .status, content => (statusOf content).items.map (statusFace now)

/-- What is shown of the entries before the first one that cannot be shown. -/
def facesBefore (now : Float) : View → Content → List Face
  | .list, content => (content.entries.takeWhile fun i => ¬i.Torn).map itemFace
  | .status, content =>
    ((statusOf content).items.takeWhile fun p => ¬Unshown p).map (statusFace now)

/-- What is told of the entry that was skipped last: a list without items says nothing of it. -/
def told : View → Content → Option ProtocolFault → Option ProtocolFault
  | .list, content, skipped => if content.entries.isEmpty then none else skipped
  | .status, _, skipped => skipped

/-- A result whose entries can all be shown is. -/
theorem display_prints (v : View) {content : Content} {skipped : Option ProtocolFault}
    (worded : ∀ fault ∈ skipped, Unbroken fault.message) (whole : ¬v.command.Breaks content)
    (s : Scene (Watch Client)) :
    outcome (v.display (.success content skipped)) s = .ok () ∧
      ∃ texts, after (v.display (.success content skipped)) s = printed texts s ∧
        Shows texts (v.faces s.world.now content) (v.told content skipped) := by
  cases v with
  | list =>
    have prints := showItems_prints content.entries skipped s
    by_cases none : content.entries = []
    · have frame : ∀ line ∈ ["No monitor items registered."].flatMap printedLines,
          IsFrame line := by decide +kernel
      have only : Prints (View.list.display (.success content skipped)) s
          (["No monitor items registered."].map .ok) := by
        rw [none] at prints
        rw [display, none]
        exact prints
      obtain ⟨ends, does⟩ := only.of_texts
      rw [faces, told, none]
      exact ⟨ends, _, does, .of_texts _ [] [] Option.none frame nofun nofun⟩
    · have foot : ∀ line ∈ [""].flatMap printedLines, IsFrame line := by decide
      rw [listRows_of_ne_nil none] at prints
      rw [told, if_neg (mt List.isEmpty_iff.mp none)]
      exact prints.shows itemFace itemRow_rowed (fun i hi torn => whole ⟨i, hi, torn⟩)
        (listHead_frame _) foot worded
  | status =>
    have foot : ∀ line ∈ [statusFoot].flatMap printedLines, IsFrame line := by decide +kernel
    exact (showStatus_prints (statusOf content) skipped s).shows (statusFace _) (statusRow_rowed _)
      (fun p hp unshown => whole ⟨p, hp, unshown⟩) (statusHead_frame _) foot worded

/-- A result that cannot be shown is shown up to the entry that is why. -/
theorem display_breaks (v : View) {content : Content} (skipped : Option ProtocolFault)
    (breaks : v.command.Breaks content) (s : Scene (Watch Client)) :
    ∃ m, ending (v.command.entryRows s.world.now content) = .error m ∧
      outcome (v.display (.success content skipped)) s = .error (.mishap m) ∧
      ∃ texts, after (v.display (.success content skipped)) s = printed texts s ∧
        Shows texts (v.facesBefore s.world.now content) none := by
  cases v with
  | list =>
    have some : content.entries ≠ [] := by
      obtain ⟨i, hi, -⟩ := breaks
      exact List.ne_nil_of_mem hi
    have prints := showItems_prints content.entries skipped s
    rw [listRows_of_ne_nil some] at prints
    exact prints.breaks itemFace itemRow_rowed breaks (listHead_frame _)
  | status =>
    exact (showStatus_prints (statusOf content) skipped s).breaks (statusFace _) (statusRow_rowed _)
      breaks (statusHead_frame _)

variable (settings : Settings) (args : List String)

/-- The scene in which the supervisor is asked. -/
def asked (v : View) (s : Scene (Watch Client)) : Scene (Watch Client) :=
  after (v.before settings) (received v.command.word args s)

/-- Once the supervisor is asked and has an answer, what is left to do is to display it. -/
theorem execute_of_result (v : View) {s : Scene (Watch Client)} {result : Result Content}
    (told : outcome (v.before settings) (received v.command.word args s) = .ok ())
    (answered : outcome v.ask (v.asked settings args s) = .ok result) :
    after (execute settings v.command.word args) s =
        after (v.display result) (after v.ask (v.asked settings args s)) ∧
      outcome (execute settings v.command.word args) s =
        match outcome (v.display result) (after v.ask (v.asked settings args s)) with
        | .ok () => .ok false
        | .error e => .error e := by
  have stays : decide (v.command.word = "exit") = false := by cases v <;> rfl
  rw [after_execute_of_command rfl, outcome_execute_of_command rfl, run_eq, stays]
  simp only [after_bind, outcome_bind, told]
  rw [← asked, answered]
  exact ⟨rfl, rfl⟩

/-- **What is shown of a reply of success**: all its entries and the warning, unless there is an
entry that cannot be shown. Then those before it are shown, nothing is said of what was skipped, and
the command ends with what went wrong. -/
theorem shows_reply (v : View) {s : Scene (Watch Client)} {raw : Bytes} {response : Response}
    (told : outcome (v.before settings) (received v.command.word args s) = .ok ())
    (got : outcome (exchange v.request) (v.asked settings args s) = .ok raw)
    (decoded : v.request.decode raw = .ok response) (success : response.success = true) :
    let answered := after v.ask (v.asked settings args s)
    let content := response.content
    (¬v.command.Breaks content →
        outcome (execute settings v.command.word args) s = .ok false ∧
        ∃ texts, after (execute settings v.command.word args) s = printed texts answered ∧
          Shows texts (v.faces answered.world.now content)
            (v.told content response.lastSkipped)) ∧
      (v.command.Breaks content →
        ∃ m, ending (v.command.entryRows answered.world.now content) = .error m ∧
          outcome (execute settings v.command.word args) s = .error (.mishap m) ∧
          ∃ texts, after (execute settings v.command.word args) s = printed texts answered ∧
            Shows texts (v.facesBefore answered.world.now content) none) := by
  intro answered content
  have worded : ∀ fault ∈ response.lastSkipped, Unbroken fault.message := fun fault h =>
    Request.unbroken_of_skipped decoded fault (List.mem_of_getLast? h)
  have result : outcome v.ask (v.asked settings args s) =
      .ok (.success content response.lastSkipped) := by
    rw [ask, outcome_request _ got, Request.verdict, decoded]
    exact congrArg _ (if_pos success)
  obtain ⟨does, ends⟩ := v.execute_of_result settings args told result
  refine ⟨fun whole => ?_, fun breaks => ?_⟩
  · obtain ⟨returns, texts, prints, shown⟩ := v.display_prints worded whole answered
    rw [returns] at ends
    exact ⟨ends, texts, does.trans prints, shown⟩
  · obtain ⟨m, why, raises, texts, prints, shown⟩ :=
      v.display_breaks response.lastSkipped breaks answered
    rw [raises] at ends
    exact ⟨m, why, ends, texts, does.trans prints, shown⟩

/-- A list of an item and of an entry that is none: one line for the item, and the warning. -/
theorem shows_reply_of_mixed :
    let raw := Text.encodeUtf8
      "\x7b\"success\": true, \"data\": [\x7b\"id\": \"a\", \"name\": \"b\"\x7d, 7]\x7d".toList
    let s : Scene (Watch Client) :=
      ⟨{ pipe := [⟨.ok { reply := raw }, none⟩] }, { host := create {} {} }⟩
    outcome (execute {} "list" []) s = .ok false ∧
      ∃ texts, after (execute {} "list" []) s =
          printed texts (after Client.listItems (received "list" [] s)) ∧
        (lines (unlines texts)).filter IsEntry =
          ["  - a                        : b |  | timeout 1000ms | paused"] ∧
        (lines (unlines texts)).filter IsWarning =
          ["WARNING: some entries were skipped: Parse item error: " ++
            "Monitor item must be an object, got int"] := by
  intro raw s
  have got : outcome (exchange .list) (received "list" [] s) = .ok raw := by
    obtain ⟨journal, files, logged⟩ := received_eq "list" [] s
    rw [logged]
    rfl
  obtain ⟨response, decoded, success, entries, last⟩ :
      ∃ response, Request.list.decode raw = .ok response ∧ response.success = true ∧
        response.content.entries = [{ id := "a", exePath := "", name := "b", enabled := false }] ∧
        response.lastSkipped = some (.skipped .item (.notObject .item .int)) := by
    have document : readDocument raw = .ok (.object [(("success" : String), .bool true),
        (("data" : String), .array [.object [(("id" : String), .text ("a" : String)),
          (("name" : String), .text ("b" : String))], .int 7])]) := by
      unfold raw
      cbv
    rw [Request.decode, document]
    exact ⟨_, rfl, rfl, rfl, rfl⟩
  have whole : ¬View.list.command.Breaks response.content := by
    show ¬∃ i ∈ response.content.entries, i.Torn
    rw [entries]
    decide
  obtain ⟨ends, texts, does, shown⟩ :=
    (shows_reply {} [] .list rfl got decoded success).1 whole
  have lined := shown.exact
  rw [View.faces, View.told, entries, last] at lined
  refine ⟨ends, texts, does, lined ?_⟩
  rw [List.map_singleton, List.forall_mem_singleton]
  decide

end View

/-- **A list hides what was skipped if nothing else is left of it**: an entry is skipped, and all
that is printed is that there are no items. -/
theorem list_hides_skipped :
    let raw := Text.encodeUtf8 "\x7b\"success\": true, \"data\": [7]\x7d".toList
    let s : Scene (Watch Client) :=
      ⟨{ pipe := [⟨.ok { reply := raw }, none⟩] }, { host := create {} {} }⟩
    outcome (exchange .list) (received "list" [] s) = .ok raw ∧
      (∃ response, Request.list.decode raw = .ok response ∧ response.success = true ∧
        response.skipped = [.skipped .item (.notObject .item .int)]) ∧
      after (execute {} "list" []) s = printed ["No monitor items registered."]
        (after Client.listItems (received "list" [] s)) ∧
      ∀ line ∈ lines (unlines ["No monitor items registered."]), ¬IsWarning line := by
  intro raw s
  have got : outcome (exchange .list) (received "list" [] s) = .ok raw := by
    obtain ⟨journal, files, logged⟩ := received_eq "list" [] s
    rw [logged]
    rfl
  have document : readDocument raw = .ok (.object [(("success" : String), .bool true),
      (("data" : String), .array [.int 7])]) := by
    unfold raw
    cbv
  have decoded : Request.list.decode raw = .ok
      { success := true, content := .items []
        skipped := [.skipped .item (.notObject .item .int)] } := by
    rw [Request.decode, document]
    rfl
  refine ⟨got, ⟨_, decoded, rfl, rfl⟩, ?_⟩
  have result : outcome Client.listItems (received "list" [] s) =
      .ok (.success (.items []) (some (.skipped .item (.notObject .item .int)))) := by
    rw [Client.listItems, outcome_request _ got, Request.verdict, decoded]
    rfl
  exact ⟨(View.list.execute_of_result {} [] rfl result).1.trans (showItems_prints [] _ _).after,
    by decide +kernel⟩

end Vigil.Console
