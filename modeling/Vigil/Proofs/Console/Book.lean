import Vigil.Console.Dialogue
import Vigil.Proofs.Act

/-!
# The book of calls

What the console has done by others can be written into a book: a deed that is booked writes down
that it is called and then does what it does. Keeping the book changes nothing else, so the book of
a run tells what the run has done by others, and in which order.

* `Console.mirrors_conduct`: a run with a book is the run without one.
* `Console.calls_dialogue`: a dialogue calls the commands that are typed up to the first `exit`,
  whatever they do.
-/

namespace Vigil.Console

open Act

variable {σ α β : Type}

/-! ## Books -/

/-- A call that the console makes. -/
inductive Call where
  | execute (word : String) (args : List String)
  | close
  deriving Repr, DecidableEq

/-- A state beside a book of calls, the first one first. -/
structure Booked (σ : Type) where
  host : σ
  calls : List Call := []

namespace Booked

/-- Runs an action of the host. -/
def hosted (x : Act σ α) : Act (Booked σ) α :=
  Act.within (·.host) (fun host booked => { booked with host }) x

/-- Writes a call into the book. -/
def write (call : Call) : Act (Booked σ) Unit :=
  Act.update fun booked => { booked with calls := booked.calls ++ [call] }

/-- The scene without the book. -/
def unbooked (s : Scene (Booked σ)) : Scene σ := ⟨s.world, s.own.host⟩

end Booked

open Booked

/-- The same deeds, each written into the book when it is called. -/
def Deeds.booked (d : Deeds σ) : Deeds (Booked σ) where
  service := hosted d.service
  execute word args := do
    write (.execute word args)
    hosted (d.execute word args)
  close := do
    write .close
    hosted d.close

/-- The calls of a run of the console. -/
def Deeds.calls (d : Deeds σ) (settings : Settings) (argv : List String) (input : String)
    (farewell : Bool) (s : Scene σ) : List Call :=
  (after (conduct d.booked settings argv input farewell) ⟨s.world, ⟨s.own, []⟩⟩).own.calls

/-! ## Keeping a book changes nothing else -/

/-- The first action does beside a book what the second does without. -/
structure Mirrors (y : Act (Booked σ) α) (x : Act σ α) : Prop where
  outcome : ∀ s, outcome y s = outcome x (unbooked s)
  after : ∀ s, unbooked (after y s) = after x (unbooked s)

namespace Mirrors

theorem pure (a : α) : Mirrors (Pure.pure a : Act (Booked σ) α) (Pure.pure a) :=
  ⟨fun _ => rfl, fun _ => rfl⟩

theorem alter (f : World → World) : Mirrors (Act.alter f : Act (Booked σ) Unit) (Act.alter f) :=
  ⟨fun _ => rfl, fun _ => rfl⟩

theorem log (level : Int) (message : LooseText) (traced : Bool) :
    Mirrors (Console.log level message traced : Act (Booked σ) Unit)
      (Console.log level message traced) := ⟨fun _ => rfl, fun _ => rfl⟩

theorem print (line : String) :
    Mirrors (Act.print line : Act (Booked σ) Unit) (Act.print line) :=
  ⟨fun _ => rfl, fun _ => rfl⟩

theorem ite {c : Prop} [Decidable c] {y y' : Act (Booked σ) α} {x x' : Act σ α}
    (h : Mirrors y x) (h' : Mirrors y' x') :
    Mirrors (if c then y else y') (if c then x else x') := by
  split
  · exact h
  · exact h'

theorem world : Mirrors (Act.world : Act (Booked σ) World) Act.world :=
  ⟨fun _ => rfl, fun _ => rfl⟩

theorem stumble (m : Mishap) : Mirrors (Act.stumble m : Act (Booked σ) α) (Act.stumble m) :=
  ⟨fun _ => rfl, fun _ => rfl⟩

theorem hosted (x : Act σ α) : Mirrors (Booked.hosted x) x where
  outcome s := outcome_within ..
  after s := by
    unfold Booked.hosted unbooked
    rw [after_within]

theorem bind {y : Act (Booked σ) α} {x : Act σ α} {g : α → Act (Booked σ) β} {f : α → Act σ β}
    (h : Mirrors y x) (hf : ∀ a, Mirrors (g a) (f a)) : Mirrors (y >>= g) (x >>= f) where
  outcome s := by
    rw [outcome_bind, outcome_bind, h.outcome]
    cases Act.outcome x (unbooked s) with
    | error e => rfl
    | ok a => exact h.after s ▸ (hf a).outcome _
  after s := by
    rw [after_bind, after_bind, h.outcome]
    cases Act.outcome x (unbooked s) with
    | error e => exact h.after s
    | ok a => exact h.after s ▸ (hf a).after _

/-- What is written into the book is not seen without it. -/
theorem write_bind {y : Act (Booked σ) α} {x : Act σ α} (call : Call) (h : Mirrors y x) :
    Mirrors (write call >>= fun _ => y) x :=
  ⟨fun _ => h.outcome _, fun _ => h.after _⟩

theorem attempt {y : Act (Booked σ) α} {x : Act σ α} (h : Mirrors y x) :
    Mirrors (Act.attempt y) (Act.attempt x) where
  outcome s := by rw [outcome_attempt, outcome_attempt, h.outcome]
  after s := by rw [after_attempt, after_attempt, h.after]

theorem discard {y : Act (Booked σ) α} {x : Act σ α} (h : Mirrors y x) :
    Mirrors (Functor.discard y) (Functor.discard x) where
  outcome s := by rw [outcome_discard, outcome_discard, h.outcome]
  after s := by rw [after_discard, after_discard, h.after]

theorem ensure {y : Act (Booked σ) α} {x : Act σ α} {last' : Act (Booked σ) Unit}
    {last : Act σ Unit} (h : Mirrors y x) (hl : Mirrors last' last) :
    Mirrors (Act.ensure y last') (Act.ensure x last) where
  outcome s := by rw [outcome_ensure, outcome_ensure, hl.outcome, h.after, h.outcome]
  after s := by rw [after_ensure, after_ensure, hl.after, h.after]

end Mirrors

theorem mirrors_execute (d : Deeds σ) (word : String) (args : List String) :
    Mirrors (d.booked.execute word args) (d.execute word args) := .write_bind _ (.hosted _)

theorem mirrors_dialogue (d : Deeds σ) (lines : List String) :
    Mirrors (dialogue d.booked.execute lines) (dialogue d.execute lines) := by
  induction lines with
  | nil => exact .bind (.alter _) fun _ => .log _ _ _
  | cons line rest ih =>
    refine .bind (.alter _) fun _ => .bind (.attempt ?_) fun result => ?_
    · unfold obey
      cases CommandLine.split line with
      | nil => exact .pure _
      | cons first args => exact .bind (.log _ _ _) fun _ => mirrors_execute d _ _
    · cases result with
      | ok ends =>
        cases ends with
        | true => exact .pure _
        | false => exact ih
      | error raised => exact .ite (.log _ _ _) (.bind (.log _ _ _) fun _ => ih)

theorem mirrors_greet (d : Deeds σ) : Mirrors (greet d.booked) (greet d) :=
  .bind (.bind (.print _) fun _ => .print _) fun _ => .bind (.hosted _) fun _ =>
    .bind (.log _ _ _) fun _ => .print _

theorem mirrors_toggleVerbose :
    Mirrors (toggleVerbose : Act (Booked σ) Unit) toggleVerbose :=
  .bind (.alter _) fun _ => .bind .world fun _ =>
    .ite (.bind (.print _) fun _ => .alter _) (.print _)

theorem mirrors_runOnce (d : Deeds σ) (word : String) (args : List String) :
    Mirrors (runOnce d.booked word args) (runOnce d word args) := by
  have once : Mirrors (Functor.discard (d.booked.execute (Text.lowerString word)
      (args.erase verboseFlag))) (Functor.discard (d.execute (Text.lowerString word)
      (args.erase verboseFlag))) := .discard (mirrors_execute d _ _)
  exact .ite (.bind mirrors_toggleVerbose fun _ => once) once

theorem mirrors_session (d : Deeds σ) (argv : List String) (input : String) :
    Mirrors (session d.booked argv input) (session d argv input) := by
  cases argv with
  | nil => exact .bind (mirrors_greet d) fun _ => mirrors_dialogue d _
  | cons word args => exact mirrors_runOnce d word args

theorem mirrors_setUpLog (settings : Settings) :
    Mirrors (settings.setUpLog : Act (Booked σ) Unit) settings.setUpLog := by
  refine .bind (.alter _) fun _ => .bind (.alter _) fun _ => .ite (.pure _) ?_
  refine .bind .world fun w => ?_
  dsimp only
  refine .bind (.alter _) fun _ => ?_
  split
  · exact .alter _
  · exact .alter _
  · exact .stumble _

/-- **A run with a book is the run without one.** -/
theorem mirrors_conduct (d : Deeds σ) (settings : Settings) (argv : List String) (input : String)
    (farewell : Bool) :
    Mirrors (conduct d.booked settings argv input farewell)
      (conduct d settings argv input farewell) :=
  .bind (mirrors_setUpLog settings) fun _ =>
    .bind (.ensure (mirrors_session d argv input) (.write_bind _ (.hosted _))) fun _ =>
      .ite (.print _) (.pure _)

/-! ## The calls of a dialogue -/

/-- The command that a line says: its first part in lower case, and its other parts as they are. -/
def spoken (line : String) : Option (String × List String) :=
  match CommandLine.split line with
  | [] => none
  | first :: args => some (Text.lowerString first, args)

/-- The commands that lines say, up to the first `exit`. -/
def typed (lines : List String) : List (String × List String) :=
  let commands := lines.filterMap spoken
  commands.take (commands.findIdx (·.1 = "exit") + 1)

/-- The commands of a console: `exit` ends it and no other word does, and none raises what says
that there is no more input. -/
structure Commands (execute : String → List String → Act σ Bool) : Prop where
  ends_iff : ∀ word args s, outcome (execute word args) s = .ok true ↔ word = "exit"
  goes_on : ∀ word args, Raises (fun raised => endsInput raised = false) (execute word args)

theorem typed_cons_of_none {line : String} (h : spoken line = none) (rest : List String) :
    typed (line :: rest) = typed rest := by
  simp only [typed, List.filterMap_cons_none h]

theorem typed_cons_exit {line : String} {args : List String} (h : spoken line = some ("exit", args))
    (rest : List String) : typed (line :: rest) = [("exit", args)] := by
  simp [typed, List.filterMap_cons_some h, List.findIdx_cons]

theorem typed_cons {line word : String} {args : List String} (h : spoken line = some (word, args))
    (hw : word ≠ "exit") (rest : List String) :
    typed (line :: rest) = (word, args) :: typed rest := by
  simp [typed, List.filterMap_cons_some h, List.findIdx_cons, hw]

example : typed ["", "Add \"C:\\a b.exe\" Name", "  EXIT now", "help"] =
    [("add", ["C:\\a b.exe", "Name"]), ("exit", ["now"])] := by decide +kernel

/-- A command that is booked stands in the book after it. -/
theorem calls_execute (d : Deeds σ) (word : String) (args : List String) (s : Scene (Booked σ)) :
    (after (d.booked.execute word args) s).own.calls = s.own.calls ++ [.execute word args] := by
  have written : d.booked.execute word args =
      (write (.execute word args) >>= fun _ => hosted (d.execute word args)) := rfl
  rw [written, after_bind]
  exact congrArg (fun t : Scene (Booked σ) => t.own.calls) (after_within ..)

/-- A line that says a command has it called, and comes to what the command comes to. -/
theorem obey_spoken (d : Deeds σ) {line word : String} {args : List String}
    (h : spoken line = some (word, args)) (s : Scene (Booked σ)) :
    (∃ t, outcome (obey d.booked.execute line) s = outcome (d.execute word args) t) ∧
      (after (obey d.booked.execute line) s).own.calls = s.own.calls ++ [.execute word args] := by
  unfold spoken at h
  unfold obey
  cases parts : CommandLine.split line with
  | nil =>
    rw [parts] at h
    cases h
  | cons first args =>
    rw [parts] at h
    cases h
    dsimp only
    rw [outcome_bind, after_bind]
    exact ⟨⟨_, (mirrors_execute d _ _).outcome _⟩, calls_execute d _ _ _⟩

/-- **A dialogue calls the commands that are typed**, one after the other and up to the first
`exit`, whatever else they do, and comes to its end. -/
theorem calls_dialogue {d : Deeds σ} (h : Commands d.execute) (lines : List String)
    (s : Scene (Booked σ)) :
    outcome (dialogue d.booked.execute lines) s = .ok () ∧
      (after (dialogue d.booked.execute lines) s).own.calls =
        s.own.calls ++ (typed lines).map fun c => .execute c.1 c.2 := by
  induction lines generalizing s with
  | nil => exact ⟨rfl, (List.append_nil _).symm⟩
  | cons line rest ih =>
    rw [dialogue, outcome_bind, after_bind, outcome_alter]
    dsimp only
    rw [outcome_bind, after_bind, outcome_attempt, after_attempt]
    dsimp only
    have asked : (after (Act.alter (·.say "> ")) s).own.calls = s.own.calls := rfl
    rw [← asked]
    generalize after (Act.alter (·.say "> ")) s = t
    cases said : spoken line with
    | none =>
      have obeyed : obey d.booked.execute line = pure false := by
        unfold spoken at said
        unfold obey
        cases parts : CommandLine.split line with
        | nil => rfl
        | cons first args =>
          rw [parts] at said
          cases said
      rw [obeyed, typed_cons_of_none said]
      exact ih t
    | some command =>
      obtain ⟨word, args⟩ := command
      obtain ⟨⟨u, comes⟩, booked⟩ := obey_spoken d said t
      rw [comes]
      -- Only `exit` ends the dialogue here, and it does in any case.
      by_cases hw : word = "exit"
      · subst hw
        rw [(h.ends_iff "exit" args u).mpr rfl, typed_cons_exit said]
        exact ⟨rfl, booked⟩
      · have goesOn (t' : Scene (Booked σ))
            (ht : t'.own.calls = t.own.calls ++ [.execute word args]) :
            outcome (dialogue d.booked.execute rest) t' = .ok () ∧
              (after (dialogue d.booked.execute rest) t').own.calls =
                t.own.calls ++ (typed (line :: rest)).map fun c => .execute c.1 c.2 := by
          rw [typed_cons said hw, List.map_cons, ← List.singleton_append, ← List.append_assoc, ← ht]
          exact ih t'
        cases e : outcome (d.execute word args) u with
        | ok ends =>
          cases ends with
          | true => exact absurd ((h.ends_iff word args u).mp e) hw
          | false => exact goesOn _ booked
        | error raised =>
          have more : endsInput raised = false := h.goes_on word args u raised e
          dsimp only
          rw [more, if_neg Bool.false_ne_true, outcome_bind, after_bind]
          exact goesOn _ booked

/-! ## The calls of a run -/

/-- Changes the world alone. -/
def outward : Frame (Scene σ) where
  holds a b := b.own = a.own
  refl _ := rfl
  trans hab hbc := hbc.trans hab

theorem outward_setUpLog (settings : Settings) :
    Respects outward (settings.setUpLog : Act σ Unit) := by
  have alters (f : World → World) : Respects outward (Act.alter f : Act σ Unit) := fun _ => rfl
  refine .bind (alters _) fun _ => .bind (alters _) fun _ => ?_
  dsimp only
  split
  · exact .pure _
  · refine .bind .world fun w => .bind (alters _) fun _ => ?_
    split
    · exact alters _
    · exact alters _
    · exact .stumble _

/-- Writes nothing into the book. -/
def unwritten : Frame (Scene (Booked σ)) where
  holds a b := b.own.calls = a.own.calls
  refl _ := rfl
  trans hab hbc := hbc.trans hab

theorem unwritten_log (level : Int) (message : LooseText) (traced : Bool) :
    Respects unwritten (log level message traced : Act (Booked σ) Unit) := fun _ => rfl

theorem unwritten_print (line : String) :
    Respects unwritten (Act.print line : Act (Booked σ) Unit) := fun _ => rfl

theorem unwritten_hosted (x : Act σ α) : Respects unwritten (hosted x) := fun s => by
  unfold hosted
  rw [after_within]
  rfl

theorem unwritten_greet (d : Deeds σ) : Respects unwritten (greet d.booked) :=
  .bind (.bind (unwritten_print _) fun _ => unwritten_print _) fun _ =>
    .bind (unwritten_hosted _) fun _ => .bind (unwritten_log _ _ _) fun _ => unwritten_print _

/-- What comes after it and writes nothing leaves the book as it is. -/
theorem calls_bind {x : Act (Booked σ) α} {f : α → Act (Booked σ) β}
    (hf : ∀ a, Respects unwritten (f a)) (s : Scene (Booked σ)) :
    (after (x >>= f) s).own.calls = (after x s).own.calls := by
  rw [after_bind]
  split
  · exact hf _ _
  · rfl

/-- The client being closed stands in the book after it. -/
theorem calls_close (d : Deeds σ) (s : Scene (Booked σ)) :
    (after d.booked.close s).own.calls = s.own.calls ++ [.close] := by
  have written : d.booked.close = (write .close >>= fun _ => hosted d.close) := rfl
  rw [written, after_bind]
  exact unwritten_hosted _ _

/-- Without a log there is no client, and nothing is called. -/
theorem calls_of_setUpLog_error (d : Deeds σ) {settings : Settings} {argv : List String}
    {input : String} {farewell : Bool} {s : Scene σ} {raised : Raised}
    (h : outcome settings.setUpLog s = .error raised) :
    d.calls settings argv input farewell s = [] := by
  unfold Deeds.calls conduct
  rw [after_bind, (mirrors_setUpLog settings).outcome]
  have fails : outcome settings.setUpLog (unbooked ⟨s.world, (⟨s.own, []⟩ : Booked σ)⟩) =
      .error raised := h
  rw [fails]
  exact congrArg Booked.calls (outward_setUpLog settings _)

/-- With a log, what is called is what is called between start and end, and then the client is
closed. -/
theorem calls_of_setUpLog (d : Deeds σ) {settings : Settings} (argv : List String) (input : String)
    (farewell : Bool) {s : Scene σ} (h : outcome settings.setUpLog s = .ok ()) :
    ∃ t : Scene (Booked σ), unbooked t = after settings.setUpLog s ∧ t.own.calls = [] ∧
      d.calls settings argv input farewell s =
        (after (session d.booked argv input) t).own.calls ++ [.close] := by
  refine ⟨after settings.setUpLog ⟨s.world, ⟨s.own, []⟩⟩, (mirrors_setUpLog settings).after _,
    congrArg Booked.calls (outward_setUpLog settings _), ?_⟩
  have last (u : Unit) : Respects unwritten
      (if farewell then Act.print "Exiting console application. See you next time!" else pure () :
        Act (Booked σ) Unit) := by
    cases farewell with
    | true => exact unwritten_print _
    | false => exact .pure _
  have succeeds : outcome settings.setUpLog (unbooked ⟨s.world, (⟨s.own, []⟩ : Booked σ)⟩) =
      .ok () := h
  unfold Deeds.calls conduct
  rw [after_bind, (mirrors_setUpLog settings).outcome, succeeds]
  dsimp only
  rw [calls_bind last, after_ensure, calls_close]

/-- Without arguments it is the greeting that may fail, and then no command is called. -/
theorem calls_session {d : Deeds σ} (hd : Commands d.execute) (input : String)
    {t : Scene (Booked σ)} (ht : t.own.calls = []) :
    (∀ raised, outcome (greet d) (unbooked t) = .error raised →
      outcome (session d [] input) (unbooked t) = .error raised ∧
        (after (session d.booked [] input) t).own.calls = []) ∧
    (outcome (greet d) (unbooked t) = .ok () →
      outcome (session d [] input) (unbooked t) = .ok () ∧
        (after (session d.booked [] input) t).own.calls =
          (typed (Text.lines input)).map fun c => .execute c.1 c.2) := by
  have made : session d.booked [] input =
      (greet d.booked >>= fun _ => dialogue d.booked.execute (Text.lines input)) := rfl
  have greeted : (after (greet d.booked) t).own.calls = [] := (unwritten_greet d t).trans ht
  rw [← (mirrors_greet d).outcome, ← (mirrors_session d [] input).outcome, made, outcome_bind,
    after_bind]
  constructor
  · intro raised fails
    rw [fails]
    exact ⟨rfl, greeted⟩
  · intro succeeds
    rw [succeeds]
    obtain ⟨ends, calls⟩ := calls_dialogue hd (Text.lines input) (after (greet d.booked) t)
    rw [greeted, List.nil_append] at calls
    exact ⟨ends, calls⟩

end Vigil.Console
