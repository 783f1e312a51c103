import Vigil.Console.Report
import Vigil.Proofs.Act

/-!
# What the console prints, and where it breaks off

What is printed of a result is a list of rows, one text each. A row may be one that there is no text
for: what the supervisor says is torn, or a time that it reports is too large to be divided. Rows
are printed one after the other, up to the first that has no text, and its mishap ends the printing.
So an action that prints is told by its rows, and rows are put together as actions are.

* `Prints`: an action prints these rows, as far as they go, and does nothing else.
* `report_prints`, `showItems_prints`, `showStatus_prints`: the rows of what the console shows.
* `itemRow_rowed`, `statusRow_rowed`: which entries have a text, and which one.
-/

namespace Vigil

/-- One of the texts that are shown of an item is torn. -/
def Item.Torn (i : Item) : Prop := i.id.Torn ∨ i.name.Torn ∨ i.exePath.Torn ∨ i.args.Torn

instance : DecidablePred Item.Torn := fun i =>
  inferInstanceAs (Decidable (i.id.Torn ∨ i.name.Torn ∨ i.exePath.Torn ∨ i.args.Torn))

/-- One of the texts that are shown of a process is torn. -/
def ProcessStatus.Torn (p : ProcessStatus) : Prop := p.name.Torn ∨ p.id.Torn

instance : DecidablePred ProcessStatus.Torn := fun p =>
  inferInstanceAs (Decidable (p.name.Torn ∨ p.id.Torn))

namespace Console

open Act Text

variable {σ α : Type}

/-! ## Rows -/

/-- The row of a text. -/
def row (text : LooseText) : Except Mishap String := text.string.mapError .torn

/-- The texts of rows up to the first that has none. -/
def printable : List (Except Mishap String) → List String
  | .ok text :: rows => text :: printable rows
  | _ => []

/-- How printing rows ends. -/
def ending : List (Except Mishap String) → Except Mishap Unit
  | [] => .ok ()
  | .ok _ :: rows => ending rows
  | .error m :: _ => .error m

theorem row_ofString (text : String) : row (LooseText.ofString text) = .ok text := by
  rw [row, LooseText.string_ofString]
  rfl

/-- A text has a row unless it is torn. -/
theorem row_cases (text : LooseText) :
    (text.Torn ∧ ∃ fault, row text = .error (.torn fault)) ∨
      ¬text.Torn ∧ row text = .ok text.render := by
  rcases text.string_cases with ⟨torn, fault, e⟩ | ⟨whole, e⟩
  · exact .inl ⟨torn, fault, by rw [row, e]; rfl⟩
  · exact .inr ⟨whole, by rw [row, e]; rfl⟩

/-- What goes wrong where a row has no text: it is torn, or a time in it is too large. -/
def Unprintable (m : Mishap) : Prop := (∃ fault, m = .torn fault) ∨ m = .quotientTooLarge

theorem unprintable_row {text : LooseText} {m : Mishap} (h : row text = .error m) :
    Unprintable m := by
  rcases row_cases text with ⟨-, fault, e⟩ | ⟨-, e⟩
  · cases e.symm.trans h
    exact .inl ⟨fault, rfl⟩
  · cases e.symm.trans h

/-- Rows end early with what goes wrong in one of them. -/
theorem mem_of_ending {rows : List (Except Mishap String)} {m : Mishap}
    (h : ending rows = .error m) : .error m ∈ rows := by
  induction rows with
  | nil => cases h
  | cons r rows ih =>
    cases r with
    | ok text => exact List.mem_cons_of_mem _ (ih h)
    | error m' =>
      cases h
      exact List.mem_cons_self

/-- Texts are printed as they are. -/
theorem printable_map_ok (texts : List String) (rows : List (Except Mishap String)) :
    printable (texts.map .ok ++ rows) = texts ++ printable rows := by
  induction texts with
  | nil => rfl
  | cons text texts ih => exact congrArg (text :: ·) ih

theorem ending_map_ok (texts : List String) (rows : List (Except Mishap String)) :
    ending (texts.map .ok ++ rows) = ending rows := by
  induction texts with
  | nil => rfl
  | cons text texts ih => exact ih

/-- Where rows end early, what would follow is of no account. -/
theorem ending_append_of_error {rows : List (Except Mishap String)} {m : Mishap}
    (h : ending rows = .error m) (more : List (Except Mishap String)) :
    ending (rows ++ more) = .error m ∧ printable (rows ++ more) = printable rows := by
  induction rows with
  | nil => cases h
  | cons r rows ih =>
    cases r with
    | error m' => exact ⟨h, rfl⟩
    | ok text => exact ⟨(ih h).1, congrArg (text :: ·) (ih h).2⟩

theorem ending_append_of_ok {rows : List (Except Mishap String)} (h : ending rows = .ok ())
    (more : List (Except Mishap String)) :
    ending (rows ++ more) = ending more ∧
      printable (rows ++ more) = printable rows ++ printable more := by
  induction rows with
  | nil => exact ⟨rfl, rfl⟩
  | cons r rows ih =>
    cases r with
    | error m => cases h
    | ok text => exact ⟨(ih h).1, congrArg (text :: ·) (ih h).2⟩

/-- Texts behind rows do not matter to how the rows end. -/
theorem ending_append_map_ok (rows : List (Except Mishap String)) (texts : List String) :
    ending (rows ++ texts.map .ok) = ending rows := by
  cases e : ending rows with
  | error m => exact (ending_append_of_error e _).1
  | ok u =>
    rw [(ending_append_of_ok e _).1, ← List.append_nil (texts.map _), ending_map_ok]
    rfl

/-! ## Rows of entries -/

/-- Entries have rows but for those that are bad, and these are the texts in the rows. -/
structure Rowed (row : α → Except Mishap String) (Bad : α → Prop) (text : α → String) : Prop where
  good : ∀ a, ¬Bad a → row a = .ok (text a)
  bad : ∀ a, Bad a → ∃ m, row a = .error m

namespace Rowed

variable {r : α → Except Mishap String} {Bad : α → Prop} {text : α → String}

/-- Without a bad entry all rows have texts. -/
theorem map_eq (h : Rowed r Bad text) {as : List α} (all : ∀ a ∈ as, ¬Bad a) :
    as.map r = (as.map text).map .ok := by
  rw [List.map_map]
  exact List.map_congr_left fun a ha => h.good a (all a ha)

/-- The texts are those up to the first bad entry. -/
theorem printable_map [DecidablePred Bad] (h : Rowed r Bad text) (as : List α) :
    printable (as.map r) = (as.takeWhile fun a => ¬Bad a).map text := by
  induction as with
  | nil => rfl
  | cons a as ih =>
    rw [List.map_cons, List.takeWhile_cons]
    by_cases bad : Bad a
    · obtain ⟨m, e⟩ := h.bad a bad
      rw [e, if_neg (by simpa using bad)]
      rfl
    · rw [h.good a bad, if_pos (by simpa using bad)]
      exact congrArg (text a :: ·) ih

/-- A bad entry ends the printing. -/
theorem ending_map (h : Rowed r Bad text) (as : List α) :
    ((∃ a ∈ as, Bad a) ∧ ∃ m, ending (as.map r) = .error m) ∨
      (¬∃ a ∈ as, Bad a) ∧ ending (as.map r) = .ok () := by
  induction as with
  | nil => exact .inr ⟨fun ⟨_, h, _⟩ => (nomatch h), rfl⟩
  | cons a as ih =>
    rw [List.map_cons]
    simp only [List.mem_cons, exists_eq_or_imp]
    by_cases bad : Bad a
    · obtain ⟨m, e⟩ := h.bad a bad
      rw [e]
      exact .inl ⟨.inl bad, m, rfl⟩
    · rw [h.good a bad, or_iff_right bad]
      exact ih

end Rowed

/-! ## Printing -/

/-- A scene after some texts were printed one by one. -/
def printed (texts : List String) (s : Scene σ) : Scene σ :=
  { s with world := { s.world with
      journal := (texts.map fun t => .print (t ++ "\n")).reverse ++ s.world.journal } }

theorem printed_append (texts more : List String) (s : Scene σ) :
    printed (texts ++ more) s = printed more (printed texts s) := by
  simp [printed]

/-- What is printed is no event. -/
theorem events_printed (texts : List String) (s : Scene σ) :
    (printed texts s).world.events = s.world.events := by
  simp [printed, World.events, List.filterMap_reverse]

/-- An action that prints rows, as far as they go, and does nothing else. -/
structure Prints (x : Act σ Unit) (s : Scene σ) (rows : List (Except Mishap String)) : Prop where
  ends : outcome x s = (ending rows).mapError .mishap
  after : after x s = printed (printable rows) s

namespace Prints

variable {s : Scene σ} {rows more : List (Except Mishap String)}

theorem print (line : String) : Prints (Act.print line) s [.ok line] := ⟨rfl, rfl⟩

theorem printText (text : LooseText) : Prints (Act.printText text) s [row text] := by
  have does : (Act.printText text : Act σ Unit) = (do Act.print (← orStumble (row text))) := rfl
  rw [does]
  cases row text with
  | ok line => exact print line
  | error m => exact ⟨rfl, rfl⟩

/-- A text that may not come about is printed if it does. -/
theorem printMade (made : Except Mishap LooseText) :
    Prints (do Act.printText (← orStumble made)) s [made >>= row] := by
  cases made with
  | ok text => exact printText text
  | error m => exact ⟨rfl, rfl⟩

theorem nothing : Prints (pure ()) s [] := ⟨rfl, rfl⟩

/-- Rows are put together as actions are. -/
theorem bind {x : Act σ Unit} {f : Unit → Act σ Unit} (hx : Prints x s rows)
    (hf : Prints (f ()) (printed (printable rows) s) more) : Prints (x >>= f) s (rows ++ more) := by
  have ends := hx.ends
  cases e : ending rows with
  | ok u =>
    obtain ⟨ending, printable⟩ := ending_append_of_ok e more
    rw [e] at ends
    constructor
    · rw [outcome_bind, ends, hx.after, ending]
      exact hf.ends
    · rw [after_bind, ends, hx.after, printable, printed_append]
      exact hf.after
  | error m =>
    obtain ⟨ending, printable⟩ := ending_append_of_error e more
    rw [e] at ends
    constructor
    · rw [outcome_bind, ends, ending]
      rfl
    · rw [after_bind, ends, hx.after, printable]
      rfl

theorem forM {f : α → Act σ Unit} {r : α → Except Mishap String}
    (h : ∀ a texts, Prints (f a) (printed texts s) [r a]) (as : List α) (texts : List String) :
    Prints (as.forM f) (printed texts s) (as.map r) := by
  induction as generalizing texts with
  | nil => exact .nothing
  | cons a as ih =>
    refine (h a texts).bind ?_
    rw [← printed_append]
    exact ih _

/-- If every row has a text, all of them are printed. -/
theorem of_texts {x : Act σ Unit} {texts : List String} (h : Prints x s (texts.map .ok)) :
    outcome x s = .ok () ∧ Act.after x s = printed texts s := by
  have ends := ending_map_ok texts []
  have all := printable_map_ok texts []
  rw [List.append_nil] at ends all
  constructor
  · rw [h.ends, ends]
    rfl
  · rw [h.after, all]
    exact congrArg (printed · s) (List.append_nil texts)

end Prints

/-! ## Results -/

/-- The row of an error. -/
def errorRow (e : Error) : Except Mishap String := row ("ERROR: " ++ e.message)

theorem printError_prints (e : Error) (s : Scene σ) : Prints (printError e) s [errorRow e] :=
  .printText _

/-- The rows that report the outcome of an operation. -/
def reportRows (done : LooseText) : Result α → List (Except Mishap String)
  | .success _ none => [row done]
  | .success _ (some fault) => [row done, .ok s!"  (some entries were skipped: {fault.message})"]
  | .failure e => [errorRow e]

theorem report_prints (result : Result α) (done : LooseText) (s : Scene σ) :
    Prints (report result done) s (reportRows done result) := by
  cases result with
  | failure e => exact printError_prints e s
  | success a skipped =>
    cases skipped with
    | none => exact (Prints.printText _).bind .nothing
    | some fault => exact (Prints.printText _).bind (.print _)

/-- A report of what is not torn fails only of an error. -/
theorem ending_reportRows {done : LooseText} (whole : ¬done.Torn) (result : Result α) :
    ending (reportRows done result) =
      match result with
      | .success .. => .ok ()
      | .failure e => ending [errorRow e] := by
  cases result with
  | failure e => rfl
  | success a skipped =>
    obtain ⟨-, e⟩ := (row_cases done).resolve_left fun h => whole h.1
    cases skipped <;> simp only [reportRows, e, ending]

/-- The warning about the last entry that was skipped. -/
def warning (fault : ProtocolFault) : String :=
  s!"WARNING: some entries were skipped: {fault.message}"

/-- What is printed of the last entry that was skipped, if any was. -/
def warnings (skipped : Option ProtocolFault) : List String := (skipped.map warning).toList

theorem mentionSkipped_prints (skipped : Option ProtocolFault) (s : Scene σ) :
    Prints (mentionSkipped skipped) s ((warnings skipped).map .ok) := by
  cases skipped with
  | none => exact .nothing
  | some fault => exact .print _

/-! ## Items -/

/-- The row of an item. -/
def itemRow (i : Item) : Except Mishap String := row (itemLine i)

theorem torn_itemLine {i : Item} : (itemLine i).Torn ↔ i.Torn := by
  have args : (if i.args.isEmpty then (LooseText.ofString "") else " " ++ i.args).Torn ↔
      i.args.Torn := by
    split
    · rename_i empty
      exact iff_of_false (LooseText.not_torn_ofString _) (LooseText.not_torn_of_isEmpty empty)
    · rw [LooseText.torn_append, or_iff_right (LooseText.not_torn_ofString _)]
  simp only [itemLine, LooseText.torn_append, LooseText.torn_padRight, LooseText.not_torn_ofString,
    args, false_or, or_false, or_assoc, Item.Torn]

/-- **An item has a row unless it is torn.** -/
theorem itemRow_rowed : Rowed itemRow Item.Torn fun i => (itemLine i).render where
  good i whole := ((row_cases (itemLine i)).resolve_left fun h => whole (torn_itemLine.mp h.1)).2
  bad i torn := by
    obtain ⟨-, fault, e⟩ :=
      (row_cases (itemLine i)).resolve_right fun h => h.1 (torn_itemLine.mpr torn)
    exact ⟨_, e⟩

/-- The head of a list of items, behind an empty line. -/
def listHead (count : Nat) : String := s!"--- Monitor Items ({count}) ---"

theorem listHead_eq (count : Nat) :
    s!"\n--- Monitor Items ({count}) ---" = "\n" ++ listHead count := by
  have mark : "\n--- Monitor Items (" = "\n" ++ "--- Monitor Items (" := by decide
  show "\n--- Monitor Items (" ++ toString count ++ ") ---" =
    "\n" ++ ("--- Monitor Items (" ++ toString count ++ ") ---")
  rw [mark]
  simp only [String.append_assoc]

/-- The rows of a list. -/
def listRows (items : List Item) (skipped : Option ProtocolFault) : List (Except Mishap String) :=
  if items.isEmpty then [.ok "No monitor items registered."]
  else .ok ("\n" ++ listHead items.length) :: (items.map itemRow ++
    (warnings skipped ++ [""]).map .ok)

theorem showItems_prints (items : List Item) (skipped : Option ProtocolFault) (s : Scene σ) :
    Prints (showItems items skipped) s (listRows items skipped) := by
  unfold showItems listRows
  split
  · exact .print _
  · rw [listHead_eq, List.map_append]
    exact (Prints.print _).bind <|
      (Prints.forM (fun item _ => .printText (itemLine item)) items _).bind <|
        (mentionSkipped_prints skipped _).bind (.print _)

/-! ## Processes -/

/-- A process with a last heartbeat whose seconds no double can hold. -/
def TooLate (p : ProcessStatus) : Prop := Number.quotient? p.lastHeartbeat 1000 = none

instance : DecidablePred TooLate := fun p =>
  decidable_of_iff _ (Option.isNone_iff_eq_none (o := Number.quotient? p.lastHeartbeat 1000))

/-- No time of sixty-four bits is too late, but a reply may hold a longer one. -/
example : ¬TooLate { id := "a", lastHeartbeat := 2 ^ 64 } ∧
    TooLate { id := "a", lastHeartbeat := 10 ^ 312 } := by decide +kernel

/-- What the line of a process starts with. -/
def statusLabel (p : ProcessStatus) : LooseText :=
  "  - " ++ (p.name ++ " (" ++ p.id ++ ")").padRight 40

theorem torn_statusLabel {p : ProcessStatus} : (statusLabel p).Torn ↔ p.Torn := by
  simp only [statusLabel, LooseText.torn_append, LooseText.torn_padRight,
    LooseText.not_torn_ofString, false_or, or_false, ProcessStatus.Torn]

/-- The line of a process is made unless its last heartbeat is too late, and holds no text of the
supervisor behind its label. -/
theorem statusLine_cases (now : Float) (p : ProcessStatus) :
    (TooLate p ∧ statusLine now p = .error .quotientTooLarge) ∨
      ¬TooLate p ∧ ∃ rest : String, statusLine now p = .ok (statusLabel p ++ rest) := by
  unfold TooLate
  by_cases h0 : p.lastHeartbeat = 0
  · refine .inr ⟨?_, ?_⟩
    · rw [h0]
      decide
    · simp only [statusLine, heartbeatAge, if_pos h0]
      exact ⟨_, rfl⟩
  · simp only [statusLine, heartbeatAge, if_neg h0]
    cases Number.quotient? p.lastHeartbeat 1000 with
    | none => exact .inl ⟨rfl, rfl⟩
    | some seconds => exact .inr ⟨nofun, _, rfl⟩

/-- The row of a process at a time. -/
def statusRow (now : Float) (p : ProcessStatus) : Except Mishap String := statusLine now p >>= row

/-- A process that has no row: its last heartbeat is too late, or it is torn. -/
def Unshown (p : ProcessStatus) : Prop := TooLate p ∨ p.Torn

instance : DecidablePred Unshown := fun p => inferInstanceAs (Decidable (TooLate p ∨ p.Torn))

/-- The text of a process at a time. There is none if its last heartbeat is too late, and then
its label stands here. -/
def statusText (now : Float) (p : ProcessStatus) : String :=
  ((statusLine now p).toOption.getD (statusLabel p)).render

/-- **A process has a row unless its last heartbeat is too late or it is torn.** -/
theorem statusRow_rowed (now : Float) : Rowed (statusRow now) Unshown (statusText now) := by
  have torn {p : ProcessStatus} {rest : String} : (statusLabel p ++ rest).Torn ↔ p.Torn := by
    rw [LooseText.torn_append, or_iff_left (LooseText.not_torn_ofString _), torn_statusLabel]
  constructor
  · intro p shown
    obtain ⟨early, whole⟩ := not_or.mp shown
    obtain ⟨-, rest, e⟩ := (statusLine_cases now p).resolve_left fun h => early h.1
    rw [statusRow, statusText, e]
    exact ((row_cases _).resolve_left fun h => whole (torn.mp h.1)).2
  · intro p unshown
    rw [statusRow]
    rcases statusLine_cases now p with ⟨late, e⟩ | ⟨early, rest, e⟩
    · rw [e]
      exact ⟨_, rfl⟩
    · obtain ⟨-, fault, f⟩ := (row_cases (statusLabel p ++ LooseText.ofString rest)).resolve_right
        fun h => h.1 (torn.mpr (unshown.resolve_left early))
      rw [e]
      exact ⟨_, f⟩

theorem unprintable_statusRow {now : Float} {p : ProcessStatus} {m : Mishap}
    (h : statusRow now p = .error m) : Unprintable m := by
  rw [statusRow] at h
  rcases statusLine_cases now p with ⟨-, e⟩ | ⟨-, rest, e⟩
  · rw [e] at h
    cases h
    exact .inr rfl
  · rw [e] at h
    exact unprintable_row h

/-- Prints the line of a process. -/
def printLine (p : ProcessStatus) : Act σ Unit := do
  Act.printText (← Act.orStumble (statusLine (← Act.world).now p))

theorem printLine_prints (p : ProcessStatus) (s : Scene σ) :
    Prints (printLine p) s [statusRow s.world.now p] := by
  obtain ⟨ends, does⟩ := Prints.printMade (s := s) (statusLine s.world.now p)
  constructor
  · rw [printLine, outcome_bind, outcome_world, after_world]
    exact ends
  · rw [printLine, after_bind, outcome_world, after_world]
    exact does

/-- The head of the status. -/
def statusHead (status : ServiceStatus) : String :=
  s!"--- Supervisor Status ({status.totalItems} item(s)) ---"

/-- The foot of the status. -/
def statusFoot : String := String.ofList (List.replicate 26 '-') ++ "\n"

/-- The rows of a status at a time. -/
def statusRows (now : Float) (status : ServiceStatus) (skipped : Option ProtocolFault) :
    List (Except Mishap String) :=
  .ok (statusHead status) :: (status.items.map (statusRow now) ++
    (warnings skipped ++ [statusFoot]).map .ok)

theorem showStatus_prints (status : ServiceStatus) (skipped : Option ProtocolFault) (s : Scene σ) :
    Prints (showStatus status skipped) s (statusRows s.world.now status skipped) := by
  have shown : showStatus status skipped = (do
      Act.print (statusHead status)
      status.items.forM printLine
      mentionSkipped skipped
      Act.print statusFoot : Act σ Unit) := rfl
  rw [shown, statusRows, List.map_append]
  exact (Prints.print _).bind <|
    (Prints.forM (fun p _ => printLine_prints p _) status.items _).bind <|
      (mentionSkipped_prints skipped _).bind (.print _)

end Console

end Vigil
