import Mathlib.Data.List.Basic
import Vigil.Proofs.Console.Commands

/-!
# The grammar of the arguments of the add command

Arguments are read from left to right as segments: an option with the string behind it, whatever
that is, or a position. Every list of strings is read in one way, and at its end an option may lack
its value. The loop keeps the positions and one value for each option; told by the segments, these
are the positions in their order and the last value of each option.

* `Reads`: the readings of a list of strings; `exists_reads` and `Reads.unique`: there is one.
* `readFrom_of_reads`: the invariant of the loop.
* `parse_returns_iff`, `created_iff`: what is asked for, told by the segments.
* **`Console.arguments_read`**: when arguments make an item, which one, and what does not matter.
-/

namespace Vigil

theorem AddOption.ofWord?_eq_some_iff {word : String} {name : AddOption} :
    ofWord? word = some name ↔ word = name.word := by
  constructor
  · intro h
    unfold ofWord? at h
    split at h
    · cases h; assumption
    · split at h
      · cases h; assumption
      · split at h
        · cases h; assumption
        · cases h
  · rintro rfl
    cases name <;> decide

theorem AddOption.ofWord?_word (name : AddOption) : ofWord? name.word = some name :=
  ofWord?_eq_some_iff.mpr rfl

theorem AddOption.word_inj {name other : AddOption} (h : name.word = other.word) : name = other :=
  Option.some.inj ((ofWord?_word name).symm.trans (ofWord?_eq_some_iff.mpr h))

theorem AddOption.ofWord?_eq_none {word : String} (plain : ∀ name : AddOption, word ≠ name.word) :
    ofWord? word = none :=
  Option.eq_none_iff_forall_ne_some.mpr fun name h => plain name (ofWord?_eq_some_iff.mp h)

namespace AddArgs

/-! ## Segments -/

/-- A segment of the arguments: an option with its value, or a position. -/
inductive Segment where
  | option (name : AddOption) (value : String)
  | position (word : String)
  deriving Repr, DecidableEq

/-- The position that a segment is. -/
def Segment.position? : Segment → Option String
  | .position word => some word
  | .option .. => none

/-- The value that a segment gives to an option. -/
def Segment.value? (name : AddOption) : Segment → Option String
  | .option other value => if name = other then some value else none
  | .position _ => none

/-- The positions, in their order. -/
def positions (segments : List Segment) : List String := segments.filterMap Segment.position?

/-- The value of an option is the last one that it is given. -/
def last? (name : AddOption) (segments : List Segment) : Option String :=
  (segments.filterMap (Segment.value? name)).getLast?

/-- The readings of a list of strings from left to right: its segments, and the option at its end
that lacks a value, if one does. -/
inductive Reads : List String → List Segment → Option AddOption → Prop
  | done : Reads [] [] none
  | lacking (name : AddOption) : Reads [name.word] [] (some name)
  | option (name : AddOption) (value : String) {rest : List String} {segments : List Segment}
      {lacking : Option AddOption} (h : Reads rest segments lacking) :
      Reads (name.word :: value :: rest) (.option name value :: segments) lacking
  | position {word : String} (plain : ∀ name : AddOption, word ≠ name.word) {rest : List String}
      {segments : List Segment} {lacking : Option AddOption} (h : Reads rest segments lacking) :
      Reads (word :: rest) (.position word :: segments) lacking

/-- Every list of strings has a reading. -/
theorem exists_reads : ∀ args : List String, ∃ segments lacking, Reads args segments lacking
  | [] => ⟨_, _, .done⟩
  | [word] => by
    by_cases h : ∃ name : AddOption, word = name.word
    · obtain ⟨name, rfl⟩ := h
      exact ⟨_, _, .lacking name⟩
    · exact ⟨_, _, .position (not_exists.mp h) .done⟩
  | word :: next :: rest => by
    by_cases h : ∃ name : AddOption, word = name.word
    · obtain ⟨name, rfl⟩ := h
      obtain ⟨segments, lacking, reads⟩ := exists_reads rest
      exact ⟨_, _, .option name next reads⟩
    · obtain ⟨segments, lacking, reads⟩ := exists_reads (next :: rest)
      exact ⟨_, _, .position (not_exists.mp h) reads⟩

/-- A list of strings has one reading. -/
theorem Reads.unique {args : List String} {segments others : List Segment}
    {lacking missing : Option AddOption} (h : Reads args segments lacking)
    (h' : Reads args others missing) : others = segments ∧ missing = lacking := by
  induction h generalizing others missing with
  | done =>
    cases h'
    exact ⟨rfl, rfl⟩
  | lacking name =>
    generalize e : [name.word] = args at h'
    cases h' with
    | done => cases e
    | lacking other =>
      rw [AddOption.word_inj (List.singleton_inj.mp e)]
      exact ⟨rfl, rfl⟩
    | option other value h' => simp at e
    | position plain h' => exact absurd (List.cons.inj e).1.symm (plain name)
  | option name value h ih =>
    generalize e : name.word :: value :: _ = args at h'
    cases h' with
    | done => cases e
    | lacking other => simp at e
    | option other value' h' =>
      obtain ⟨same, rfl, rfl⟩ : name.word = other.word ∧ value = value' ∧ _ = _ := by simpa using e
      obtain ⟨rfl, rfl⟩ := ih h'
      rw [AddOption.word_inj same]
      exact ⟨rfl, rfl⟩
    | position plain h' => exact absurd (List.cons.inj e).1.symm (plain name)
  | position plain h ih =>
    generalize e : _ :: _ = args at h'
    cases h' with
    | done => cases e
    | lacking other => exact absurd (List.cons.inj e).1 (plain other)
    | option other value h' => exact absurd (List.cons.inj e).1 (plain other)
    | position plain' h' =>
      obtain ⟨rfl, rfl⟩ := List.cons.inj e
      obtain ⟨rfl, rfl⟩ := ih h'
      exact ⟨rfl, rfl⟩

/-! ## The loop -/

/-- What was given, and then what segments give. -/
def Given.gather (g : Given) (segments : List Segment) : Given where
  positions := g.positions ++ AddArgs.positions segments
  value? name := (last? name segments).or (g.value? name)

@[simp] theorem positions_option (name : AddOption) (value : String) (segments : List Segment) :
    positions (.option name value :: segments) = positions segments := rfl

@[simp] theorem positions_position (word : String) (segments : List Segment) :
    positions (.position word :: segments) = word :: positions segments := rfl

/-- A later value takes the place of an earlier one. -/
theorem last?_option (name other : AddOption) (value : String) (segments : List Segment) :
    last? name (.option other value :: segments) =
      (last? name segments).or (if name = other then some value else none) := by
  by_cases same : name = other <;> simp [last?, Segment.value?, same, List.getLast?_cons]

@[simp] theorem last?_position (name : AddOption) (word : String) (segments : List Segment) :
    last? name (.position word :: segments) = last? name segments := rfl

theorem Given.value?_assign (g : Given) (name other : AddOption) (value : String) :
    (g.assign other value).value? name = if name = other then some value else g.value? name := rfl

theorem Given.gather_option (g : Given) (name : AddOption) (value : String)
    (segments : List Segment) :
    g.gather (.option name value :: segments) = (g.assign name value).gather segments := by
  have values (n : AddOption) : (last? n (.option name value :: segments)).or (g.value? n) =
      (last? n segments).or ((g.assign name value).value? n) := by
    rw [last?_option, Option.or_assoc, value?_assign]
    split <;> rfl
  simp only [gather, positions_option, values]
  rfl

theorem Given.gather_position (g : Given) (word : String) (segments : List Segment) :
    g.gather (.position word :: segments) = (g.place word).gather segments := by
  simp [gather, place]

theorem readFrom_position (g : Given) {word : String} (plain : ∀ name : AddOption, word ≠ name.word)
    (rest : List String) : readFrom g (word :: rest) = readFrom (g.place word) rest := by
  cases rest <;> simp only [readFrom, AddOption.ofWord?_eq_none plain]

/-- **The loop gathers what the segments give**, unless an option lacks its value. -/
theorem readFrom_of_reads {args : List String} {segments : List Segment}
    {lacking : Option AddOption} (h : Reads args segments lacking) (g : Given) :
    readFrom g args =
      lacking.elim (.ok (g.gather segments)) fun name => .error (.missingValue name) := by
  induction h generalizing g with
  | done => simp [readFrom, Given.gather, positions, last?]
  | lacking name => simp only [readFrom, AddOption.ofWord?_word, Option.elim]
  | option name value h ih =>
    rw [Given.gather_option, ← ih]
    simp only [readFrom, AddOption.ofWord?_word]
  | position plain h ih => rw [Given.gather_position, ← ih, readFrom_position g plain]

/-! ## What is asked for -/

/-- The timeout that the value of the option gives: the default one of none, and else the positive
integer that it is. -/
inductive Timed (default : Int) : Option String → Int → Prop
  | absent : Timed default none default
  | given {text : String} {n : Int} (integer : Number.readInteger text.toList = .ok n)
      (positive : 0 < n) : Timed default (some text) n

theorem timeoutOf_eq_ok_iff {default n : Int} {value? : Option String} :
    timeoutOf default value? = .ok n ↔ Timed default value? n := by
  constructor
  · intro h
    cases value? with
    | none =>
      cases h
      exact .absent
    | some text =>
      simp only [timeoutOf] at h
      split at h
      · cases h
      · rename_i m integer
        split at h
        · cases h
        · rename_i positive
          cases h
          exact .given integer (Int.not_le.mp positive)
  · intro h
    cases h with
    | absent => rfl
    | given integer positive => simp only [timeoutOf, integer, if_neg (Int.not_le.mpr positive)]

/-- The id that the value of the option gives: itself unless it is empty, and else one of the
time. -/
inductive Named (clock : Except Number.NotWhole Int) : Option String → String → Prop
  | given {id : String} (nonempty : id ≠ "") : Named clock (some id) id
  | generated {value? : Option String} {millis : Int} (empty : value?.getD "" = "")
      (time : clock = .ok millis) : Named clock value? (Item.idAt millis)

/-- The item that segments ask for. -/
inductive Asked (default : Int) (clock : Except Number.NotWhole Int) (segments : List Segment) :
    Item → Prop
  | intro {exePath name id : String} {heartbeatTimeout : Int}
      (two : positions segments = [exePath, name])
      (named : Named clock (last? .id segments) id)
      (timed : Timed default (last? .timeout segments) heartbeatTimeout) :
      Asked default clock segments
        { id, exePath, name, args := (last? .args segments).getD "", heartbeatTimeout }

/-- Segments ask for an item: no option lacks its value, there are two positions, and the last
timeout is a positive integer, if there is one. -/
structure Acceptable (segments : List Segment) (lacking : Option AddOption) : Prop where
  complete : lacking = none
  two : (positions segments).length = 2
  timed : ∀ text ∈ last? .timeout segments,
    ∃ n, Number.readInteger text.toList = .ok n ∧ 0 < n

theorem exists_timed_iff {default : Int} {value? : Option String} :
    (∃ n, Timed default value? n) ↔
      ∀ text ∈ value?, ∃ n, Number.readInteger text.toList = .ok n ∧ 0 < n := by
  constructor
  · rintro ⟨n, timed⟩ text h
    cases timed with
    | absent => cases h
    | given integer positive =>
      cases h
      exact ⟨n, integer, positive⟩
  · intro h
    cases value? with
    | none => exact ⟨default, .absent⟩
    | some text =>
      obtain ⟨n, integer, positive⟩ := h text rfl
      exact ⟨n, .given integer positive⟩

/-- A new item with its id. -/
def identified (exePath name : String) (options : ItemOptions) (id : String) : Item where
  id := id
  exePath := exePath
  name := name
  args := options.args
  minimize := options.minimize
  noWindow := options.noWindow
  enabled := options.enabled
  heartbeatTimeout := options.heartbeatTimeout

section

variable {exePath name id : String} {options : ItemOptions} {clock : Except Number.NotWhole Int}

theorem create_of_id (h : options.id = some id) (nonempty : id ≠ "") :
    Item.create exePath name options clock = .ok (identified exePath name options id) := by
  simp only [Item.create, h, if_neg nonempty]
  rfl

theorem create_of_empty (empty : options.id.getD "" = "") :
    Item.create exePath name options clock =
      clock.map fun millis => identified exePath name options (Item.idAt millis) := by
  unfold Item.create
  cases h : options.id with
  | none => cases clock <;> rfl
  | some id =>
    rw [h] at empty
    simp only [if_pos (show id = "" from empty)]
    cases clock <;> rfl

theorem create_eq_ok_iff {item : Item} :
    Item.create exePath name options clock = .ok item ↔
      ∃ id, Named clock options.id id ∧ item = identified exePath name options id := by
  constructor
  · intro h
    by_cases empty : options.id.getD "" = ""
    · rw [create_of_empty empty] at h
      cases clock with
      | error e => cases h
      | ok millis =>
        cases h
        exact ⟨_, .generated empty rfl, rfl⟩
    · obtain ⟨id, given⟩ : ∃ id, options.id = some id :=
        Option.ne_none_iff_exists'.mp fun none => empty (by rw [none]; rfl)
      have nonempty : id ≠ "" := by simpa [given] using empty
      rw [create_of_id given nonempty] at h
      cases h
      exact ⟨id, given ▸ .given nonempty, rfl⟩
  · rintro ⟨id, named, rfl⟩
    generalize given : options.id = value? at named
    cases named with
    | given nonempty => exact create_of_id given nonempty
    | generated empty time =>
      rw [create_of_empty (given ▸ empty), time]
      rfl

end

theorem request_eq_ok_iff {g : Given} {default : Int} {exePath name : String}
    {options : ItemOptions} :
    g.request default = .ok (exePath, name, options) ↔
      g.positions = [exePath, name] ∧ ∃ n, Timed default (g.value? .timeout) n ∧
        options = { id := g.value? .id, args := (g.value? .args).getD "", heartbeatTimeout := n } := by
  constructor
  · intro h
    unfold Given.request at h
    split at h
    · rename_i two
      cases timed : timeoutOf default (g.value? .timeout) with
      | error refusal =>
        rw [timed] at h
        cases h
      | ok n =>
        rw [timed] at h
        cases h
        exact ⟨two, n, timeoutOf_eq_ok_iff.mp timed, rfl⟩
    · cases h
  · rintro ⟨two, n, timed, rfl⟩
    simp only [Given.request, two, timeoutOf_eq_ok_iff.mpr timed]
    rfl

variable {args : List String} {segments : List Segment} {lacking : Option AddOption} {default : Int}

/-- What arguments ask for is what their segments give, unless an option lacks its value. -/
theorem parse_of_reads (h : Reads args segments lacking) :
    parse default args =
      lacking.elim ((Given.gather {} segments).request default)
        fun name => .error (.missingValue name) := by
  rw [parse, readFrom_of_reads h]
  cases lacking <;> rfl

theorem parse_eq_ok_iff (h : Reads args segments lacking) {exePath name : String}
    {options : ItemOptions} :
    parse default args = .ok (exePath, name, options) ↔
      lacking = none ∧ positions segments = [exePath, name] ∧
        ∃ n, Timed default (last? .timeout segments) n ∧
          options = { id := last? .id segments, args := (last? .args segments).getD ""
                      heartbeatTimeout := n } := by
  rw [parse_of_reads h]
  cases lacking with
  | some name => exact ⟨nofun, nofun⟩
  | none => simp [request_eq_ok_iff, Given.gather]

theorem parse_returns_iff (h : Reads args segments lacking) :
    (∃ exePath name options, parse default args = .ok (exePath, name, options)) ↔
      Acceptable segments lacking := by
  simp only [parse_eq_ok_iff h]
  constructor
  · rintro ⟨exePath, name, options, complete, two, n, timed, -⟩
    exact ⟨complete, congrArg List.length two, exists_timed_iff.mp ⟨n, timed⟩⟩
  · intro acceptable
    obtain ⟨exePath, name, two⟩ := List.length_eq_two.mp acceptable.two
    obtain ⟨n, timed⟩ := exists_timed_iff.mpr acceptable.timed
    exact ⟨exePath, name, _, acceptable.complete, two, n, timed, rfl⟩

/-- The item of arguments is the one that their segments ask for. -/
theorem created_iff (h : Reads args segments lacking) {clock : Except Number.NotWhole Int}
    {item : Item} :
    (∃ exePath name options, parse default args = .ok (exePath, name, options) ∧
        Item.create exePath name options clock = .ok item) ↔
      lacking = none ∧ Asked default clock segments item := by
  simp only [parse_eq_ok_iff h, create_eq_ok_iff]
  constructor
  · rintro ⟨exePath, name, options, ⟨complete, two, n, timed, rfl⟩, id, named, rfl⟩
    exact ⟨complete, .intro two named timed⟩
  · rintro ⟨complete, two, named, timed⟩
    exact ⟨_, _, _, ⟨complete, two, _, timed, rfl⟩, _, named, rfl⟩

end AddArgs

namespace Console

variable {σ : Type} {settings : Settings} {args : List String} {s : Scene σ}

theorem outcome_newItem?_refused {refusal : AddRefusal}
    (refused : AddArgs.parse settings.itemTimeout args = .error refusal) :
    Act.outcome (newItem? settings args) s = .ok none := by
  unfold newItem?
  rw [refused]
  rfl

/-- Of arguments that are parsed an item is created, if the clock gives the id it may need. -/
theorem outcome_newItem?_parsed {exePath name : String} {options : ItemOptions}
    (parsed : AddArgs.parse settings.itemTimeout args = .ok (exePath, name, options)) :
    Act.outcome (newItem? settings args) s =
      ((Item.create exePath name options s.world.epochMillis).mapError
        fun e => Raised.mishap (.notWhole e)).map some := by
  unfold newItem?
  simp only [parsed, Act.outcome_bind, Act.outcome_world, Act.after_world, Act.outcome_orStumble]
  cases Item.create exePath name options s.world.epochMillis <;> rfl

theorem newItem?_eq_none_iff :
    Act.outcome (newItem? settings args) s = .ok none ↔
      ¬∃ exePath name options,
        AddArgs.parse settings.itemTimeout args = .ok (exePath, name, options) := by
  cases parsed : AddArgs.parse settings.itemTimeout args with
  | error refusal => exact iff_of_true (outcome_newItem?_refused parsed) nofun
  | ok asked =>
    refine iff_of_false ?_ fun unparsed => unparsed ⟨_, _, _, rfl⟩
    rw [outcome_newItem?_parsed parsed]
    cases Item.create asked.1 asked.2.1 asked.2.2 s.world.epochMillis <;> nofun

theorem newItem?_eq_some_iff {item : Item} :
    Act.outcome (newItem? settings args) s = .ok (some item) ↔
      ∃ exePath name options,
        AddArgs.parse settings.itemTimeout args = .ok (exePath, name, options) ∧
          Item.create exePath name options s.world.epochMillis = .ok item := by
  constructor
  · intro returns
    cases parsed : AddArgs.parse settings.itemTimeout args with
    | error refusal =>
      rw [outcome_newItem?_refused parsed] at returns
      cases returns
    | ok asked =>
      refine ⟨_, _, _, rfl, ?_⟩
      rw [outcome_newItem?_parsed parsed] at returns
      cases created : Item.create asked.1 asked.2.1 asked.2.2 s.world.epochMillis with
      | error e =>
        rw [created] at returns
        cases returns
      | ok item =>
        rw [created] at returns
        cases returns
        rfl
  · rintro ⟨exePath, name, options, parsed, created⟩
    rw [outcome_newItem?_parsed parsed, created]
    rfl

open AddArgs

/-- **How the arguments of the add command are read.** They have one reading. There is no item if
the reading is not acceptable, and an item if it is and the clock gives a time; the item is the one
that the reading asks for. What counts is the positions in their order and the last value of each
option: arguments that agree in these do the same. -/
theorem arguments_read (settings : Settings) (args : List String) :
    ∃ segments lacking, Reads args segments lacking ∧
      (∀ others missing, Reads args others missing → others = segments ∧ missing = lacking) ∧
      (∀ s : Scene σ,
        (Act.outcome (newItem? settings args) s = .ok none ↔ ¬Acceptable segments lacking) ∧
        (∀ item, Act.outcome (newItem? settings args) s = .ok (some item) ↔
          lacking = none ∧ Asked settings.itemTimeout s.world.epochMillis segments item) ∧
        (∀ millis, s.world.epochMillis = .ok millis →
          ((∃ item, Act.outcome (newItem? settings args) s = .ok (some item)) ↔
            Acceptable segments lacking))) ∧
      ∀ args' segments', Reads args' segments' none → lacking = none →
        positions segments' = positions segments →
        (∀ name, last? name segments' = last? name segments) →
        (newItem? settings args' : Act σ (Option Item)) = newItem? settings args := by
  obtain ⟨segments, lacking, reads⟩ := exists_reads args
  have refused (s : Scene σ) :
      Act.outcome (newItem? settings args) s = .ok none ↔ ¬Acceptable segments lacking := by
    rw [newItem?_eq_none_iff, parse_returns_iff reads]
  have asked (s : Scene σ) (item : Item) :
      Act.outcome (newItem? settings args) s = .ok (some item) ↔
        lacking = none ∧ Asked settings.itemTimeout s.world.epochMillis segments item := by
    rw [newItem?_eq_some_iff, created_iff reads]
  refine ⟨segments, lacking, reads, fun _ _ h => reads.unique h,
    fun s => ⟨refused s, asked s, fun millis time => ⟨?_, fun acceptable => ?_⟩⟩, ?_⟩
  · rintro ⟨item, returns⟩
    by_contra refusal
    rw [(refused s).mpr refusal] at returns
    cases returns
  · obtain ⟨item?, returns⟩ := newItem?_returns settings args time
    cases item? with
    | none => exact absurd acceptable ((refused s).mp returns)
    | some item => exact ⟨item, returns⟩
  · rintro args' segments' reads' rfl same values
    have gathered : Given.gather {} segments' = Given.gather {} segments := by
      simp only [Given.gather, same, values]
    unfold newItem?
    rw [parse_of_reads reads, parse_of_reads reads', gathered]

/-- The value of an option may be the word of an option, and an earlier timeout does not count. -/
theorem arguments_read_of_repeated :
    Act.outcome
        (newItem? {} ["--id", "--args", "a.exe", "--timeout", "x", "A", "--timeout", "5"])
        (⟨{}, ()⟩ : Scene Unit) =
      .ok (some { id := "--args", exePath := "a.exe", name := "A", heartbeatTimeout := 5 }) := by
  obtain ⟨segments, lacking, reads, unique, comes, -⟩ := arguments_read (σ := Unit) {}
    ["--id", "--args", "a.exe", "--timeout", "x", "A", "--timeout", "5"]
  have plain (name : AddOption) : "a.exe" ≠ name.word ∧ "A" ≠ name.word := by
    cases name <;> decide
  have reading := Reads.option .id "--args" (.position (fun name => (plain name).1)
    (.option .timeout "x" (.position (fun name => (plain name).2) (.option .timeout "5" .done))))
  obtain ⟨rfl, rfl⟩ := unique _ _ reading
  exact ((comes _).2.1 _).mpr
    ⟨rfl, .intro rfl (.given (by decide)) (.given (by decide) (by decide))⟩

end Console

end Vigil
