import Vigil.Console.CommandLine

/-!
# What lines are cut into

`CommandLine.split` reads a line once, with a part in the making and a quote that is open or not.
Told without a state, a character is quoted if an odd number of quotes stand before it, and a line
is cut at the runs of blanks that are not quoted; what is left of a piece without its quotes is a
part unless nothing is. So every list of strings can be typed that holds no empty one: a pair of
quotes with nothing between them is no part.

* `partsFrom_eq`: the invariant of the loop, by the parity of the quotes.
* `Cut`: a text is cut at the maximal runs of what separates.
* **`split_reads`**: the parts of a line are what is left of the pieces it is cut into.
* **`split_quotedLine`**: the strings that come back of a line they were typed in.
-/

namespace Vigil.CommandLine

/-! ## The loop -/

/-- The characters of a piece without its quotes. -/
def bare (piece : List (Char × Nat)) : List Char := (piece.map (·.1)).filter (· ≠ '"')

/-- What is left of pieces: their characters without quotes, where there are any. -/
def left (pieces : List (List (Char × Nat))) : List (List Char) :=
  (pieces.map bare).filter (!·.isEmpty)

theorem bare_cons (c : Char × Nat) (piece : List (Char × Nat)) :
    bare (c :: piece) = if c.1 = '"' then bare piece else c.1 :: bare piece := by
  unfold bare
  split <;> simp [*]

theorem bare_reverse (piece : List (Char × Nat)) : bare piece.reverse = (bare piece).reverse := by
  simp [bare]

theorem left_cons (piece : List (Char × Nat)) (pieces : List (List (Char × Nat))) :
    left (piece :: pieces) =
      if (bare piece).isEmpty then left pieces else bare piece :: left pieces := by
  unfold left
  cases h : (bare piece).isEmpty <;> simp [h]

theorem odd_succ (quotes : Nat) : ((quotes + 1) % 2 == 1) = !(quotes % 2 == 1) := by
  rcases Nat.mod_two_eq_zero_or_one quotes with h | h <;> simp [Nat.add_mod, h]

/-- A blank separates if no quote is open. -/
theorem separates_eq (c : Char) (quotes : Nat) :
    separates (c, quotes) = (Text.isBlank c && !(quotes % 2 == 1)) := by
  unfold separates
  rcases Nat.mod_two_eq_zero_or_one quotes with h | h <;> simp [h]

theorem quote_not_blank : Text.isBlank '"' = false := by decide

/-- **The loop cuts at the blanks that are not quoted.** The part in the making is what is left of
the piece read so far, and a quote is open if the number of quotes before is odd. -/
theorem partsFrom_eq (line : List Char) (piece : List (Char × Nat)) (quotes : Nat) :
    partsFrom (bare piece) (quotes % 2 == 1) line =
      left (List.splitOnPPrepend separates (numbered quotes line) piece) := by
  induction line generalizing piece quotes with
  | nil =>
    rw [partsFrom, numbered, List.splitOnPPrepend_nil, left_cons, bare_reverse, List.isEmpty_reverse]
    rfl
  | cons c rest ih =>
    rw [partsFrom, numbered, List.splitOnPPrepend_cons_eq_if, separates_eq]
    by_cases quote : c = '"'
    · subst quote
      rw [if_pos rfl, if_pos rfl, quote_not_blank, Bool.false_and, if_neg (by decide), ← ih,
        odd_succ, bare_cons, if_pos rfl]
    · rw [if_neg quote, if_neg quote]
      split
      · rw [left_cons, bare_reverse, List.isEmpty_reverse, List.splitOnP_eq_splitOnPPrepend, ← ih]
        rfl
      · rw [← ih, bare_cons, if_neg quote]

/-- The parts of a line, told without a state. -/
theorem parts_eq_reading (line : List Char) : parts line = reading line := by
  have loop := partsFrom_eq (Text.trim line) [] 0
  rw [parts, reading, pieces, List.map_map]
  exact loop

theorem parts_eq_left (line : List Char) :
    parts line = left ((numbered 0 (Text.trim line)).splitOnP separates) := by
  rw [parts_eq_reading, reading, pieces, List.map_map]
  rfl

/-! ## Cutting at maximal runs -/

section

variable {α : Type} {p : α → Bool} {text : List α} {pieces : List (List α)}

/-- A text is cut at the maximal runs of what separates: no piece holds any of it, and between two
pieces stands a run behind which a piece begins or the text ends. -/
inductive Cut (p : α → Bool) : List α → List (List α) → Prop
  | last {piece : List α} (whole : ∀ a ∈ piece, p a = false) : Cut p piece [piece]
  | run {piece run rest : List α} {pieces : List (List α)} (whole : ∀ a ∈ piece, p a = false)
      (nonempty : run ≠ []) (separates : ∀ a ∈ run, p a = true)
      (maximal : ∀ a ∈ rest.head?, p a = false) (cut : Cut p rest pieces) :
      Cut p (piece ++ run ++ rest) (piece :: pieces)

/-- A run may stand at the beginning. -/
theorem Cut.run_first {run : List α} (nonempty : run ≠ []) (separates : ∀ a ∈ run, p a = true)
    (maximal : ∀ a ∈ text.head?, p a = false) (cut : Cut p text pieces) :
    Cut p (run ++ text) ([] :: pieces) :=
  .run (List.forall_mem_nil _) nonempty separates maximal cut

/-- What does not separate goes to the first piece. -/
theorem Cut.cons {a : α} (h : p a = false) (cut : Cut p text pieces) :
    ∃ pieces, Cut p (a :: text) pieces := by
  cases cut with
  | last whole => exact ⟨_, .last (List.forall_mem_cons.mpr ⟨h, whole⟩)⟩
  | run whole nonempty separates maximal cut =>
    exact ⟨_, .run (List.forall_mem_cons.mpr ⟨h, whole⟩) nonempty separates maximal cut⟩

/-- What separates goes to the first run, if the text begins with it, and otherwise is one. -/
theorem Cut.separator {a : α} (h : p a = true) (cut : Cut p text pieces) :
    ∃ pieces, Cut p (a :: text) pieces := by
  have alone (begins : ∀ b ∈ text.head?, p b = false) : ∃ pieces, Cut p (a :: text) pieces :=
    ⟨_, .run_first (List.cons_ne_nil a []) (List.forall_mem_singleton.mpr h) begins cut⟩
  cases cut with
  | last whole => exact alone fun b hb => whole b (List.mem_of_mem_head? hb)
  | @run piece run rest pieces whole nonempty separates maximal cut =>
    cases piece with
    | nil =>
      exact ⟨_, .run_first (List.cons_ne_nil a run) (List.forall_mem_cons.mpr ⟨h, separates⟩)
        maximal cut⟩
    | cons b piece =>
      refine alone fun c hc => ?_
      obtain rfl : b = c := Option.some.inj hc
      exact whole b List.mem_cons_self

/-- **Every text can be cut.** -/
theorem exists_cut (p : α → Bool) (text : List α) : ∃ pieces, Cut p text pieces := by
  induction text with
  | nil => exact ⟨_, .last (List.forall_mem_nil _)⟩
  | cons a text ih =>
    obtain ⟨pieces, cut⟩ := ih
    cases h : p a with
    | false => exact cut.cons h
    | true => exact cut.separator h

/-- Cutting at every separator of a run, and not only once, adds pieces that are empty. -/
theorem filter_splitOnP_run {run : List α} (separates : ∀ a ∈ run, p a = true) (rest : List α) :
    ((run ++ rest).splitOnP p).filter (!·.isEmpty) = (rest.splitOnP p).filter (!·.isEmpty) := by
  induction run with
  | nil => rfl
  | cons a run ih =>
    obtain ⟨first, later⟩ := List.forall_mem_cons.mp separates
    rw [List.cons_append, List.splitOnP_cons_eq_if_modifyHead, if_pos first,
      List.filter_cons_of_neg (by simp), ih later]

/-- The pieces that are not empty are those between separators. -/
theorem Cut.filter_eq (cut : Cut p text pieces) :
    (text.splitOnP p).filter (!·.isEmpty) = pieces.filter (!·.isEmpty) := by
  induction cut with
  | last whole => rw [List.splitOnP_eq_singleton whole]
  | @run piece run rest pieces whole nonempty separates maximal cut ih =>
    obtain ⟨a, run, rfl⟩ := List.exists_cons_of_ne_nil nonempty
    obtain ⟨first, later⟩ := List.forall_mem_cons.mp separates
    rw [List.append_assoc, List.cons_append,
      List.splitOnP_append_cons_of_forall_mem whole a first, List.filter_cons, List.filter_cons,
      filter_splitOnP_run later, ih]

end

/-- A piece that is empty leaves nothing. -/
theorem left_filter (pieces : List (List (Char × Nat))) :
    left (pieces.filter (!·.isEmpty)) = left pieces := by
  induction pieces with
  | nil => rfl
  | cons piece pieces ih =>
    cases piece with
    | nil => rw [List.filter_cons_of_neg (by simp), ih, left_cons]; rfl
    | cons c piece => rw [List.filter_cons_of_pos (by simp), left_cons, left_cons, ih]

/-- The parts of a line are what is left of the pieces it is cut into. -/
theorem parts_of_cut {line : List Char} {pieces : List (List (Char × Nat))}
    (cut : Cut separates (numbered 0 (Text.trim line)) pieces) : parts line = left pieces := by
  rw [parts_eq_left, ← left_filter, cut.filter_eq, left_filter]

/-! ## What the parts are -/

/-- Nothing is lost but the separators. -/
theorem flatten_splitOnP {α : Type} (p : α → Bool) (text : List α) :
    (text.splitOnP p).flatten = text.filter (!p ·) := by
  induction text with
  | nil => rfl
  | cons a text ih =>
    rw [List.splitOnP_cons_eq_if_modifyHead]
    cases h : p a with
    | true => simp [h, ih]
    | false =>
      obtain ⟨first, later, e⟩ := List.exists_cons_of_ne_nil (List.splitOnP_ne_nil p text)
      rw [e] at ih
      simp [h, e, ← ih]

theorem flatten_left (pieces : List (List (Char × Nat))) :
    (left pieces).flatten = bare pieces.flatten := by
  unfold left
  rw [List.flatten_filter_not_isEmpty]
  induction pieces with
  | nil => rfl
  | cons piece pieces ih => simp [ih, bare]

theorem not_mem_bare (piece : List (Char × Nat)) : '"' ∉ bare piece := fun h => by
  simpa using (List.mem_filter.mp h).2

theorem of_mem_left {pieces : List (List (Char × Nat))} {part : List Char} (h : part ∈ left pieces) :
    part ≠ [] ∧ '"' ∉ part := by
  obtain ⟨among, some⟩ := List.mem_filter.mp h
  obtain ⟨piece, -, rfl⟩ := List.mem_map.mp among
  exact ⟨by simpa using some, not_mem_bare piece⟩

/-- **A line is read by the parity of its quotes.** Its blanks at both ends do not count. It can be
cut at the maximal runs of blanks with an even number of quotes before them, and its parts are what
is left of the pieces without their quotes, where anything is. So no part is empty or holds a
quote, and joined together they are the line without its quotes and without those blanks. -/
theorem split_reads (line : String) :
    let text := numbered 0 (Text.trim line.toList)
    (∃ pieces, Cut separates text pieces) ∧
      (∀ pieces, Cut separates text pieces → split line = (left pieces).map String.ofList) ∧
      (∀ part ∈ split line, part ≠ "" ∧ '"' ∉ part.toList) ∧
      (String.join (split line)).toList =
        ((text.filter (!separates ·)).map (·.1)).filter (· ≠ '"') := by
  intro text
  refine ⟨exists_cut separates text, fun pieces cut => ?_, fun part h => ?_, ?_⟩
  · rw [split, parts_of_cut cut]
  · rw [split, parts_eq_left] at h
    obtain ⟨part, among, rfl⟩ := List.mem_map.mp h
    obtain ⟨some, plain⟩ := of_mem_left among
    rw [String.toList_ofList]
    exact ⟨fun none => some (by simpa using congrArg String.toList none), plain⟩
  · rw [String.toList_join, split, List.flatMap_map, parts_eq_left]
    simp only [String.toList_ofList, List.flatMap_id', flatten_left, flatten_splitOnP, bare]
    rfl

/-! ## Typing a list of strings -/

/-- A string between quotes. -/
def quote (arg : String) : String := "\"" ++ arg ++ "\""

/-- The line that a list of strings is typed in: each between quotes, with blanks between them. -/
def quotedLine (args : List String) : String := " ".intercalate (args.map quote)

/-- The characters of a string between quotes. -/
def quotedChars (arg : List Char) : List Char := '"' :: (arg ++ ['"'])

theorem toList_quotedLine (args : List String) :
    (quotedLine args).toList = [' '].intercalate ((args.map String.toList).map quotedChars) := by
  rw [quotedLine, String.toList_intercalate, List.map_map, List.map_map]
  congr 2
  funext arg
  simp [quote, quotedChars]

/-- A line in which strings were typed begins and ends with a quote. -/
theorem exists_intercalate_eq (arg : List Char) (args : List (List Char)) :
    ∃ inner, [' '].intercalate ((arg :: args).map quotedChars) = '"' :: (inner ++ ['"']) := by
  induction args generalizing arg with
  | nil => exact ⟨arg, by simp [quotedChars]⟩
  | cons next args ih =>
    obtain ⟨inner, e⟩ := ih next
    refine ⟨arg ++ '"' :: ' ' :: '"' :: inner, ?_⟩
    rw [List.map_cons] at e ⊢
    rw [List.map_cons, List.intercalate_cons_cons, e]
    simp [quotedChars]

theorem trim_quoted (inner : List Char) :
    Text.trim ('"' :: (inner ++ ['"'])) = '"' :: (inner ++ ['"']) := by
  have blank : ¬Text.isBlank '"' = true := by decide
  rw [Text.trim, Text.trimLeft, List.dropWhile_cons_of_neg blank, Text.trimRight]
  simp [List.dropWhile_cons_of_neg blank]

/-- Between quotes all characters but quotes go to the part in the making. -/
theorem partsFrom_quoted {arg : List Char} (plain : '"' ∉ arg) (part rest : List Char) :
    partsFrom part true (arg ++ '"' :: rest) = partsFrom (arg.reverse ++ part) false rest := by
  induction arg generalizing part with
  | nil => rfl
  | cons c arg ih =>
    obtain ⟨first, later⟩ := not_or.mp (mt List.mem_cons.mpr plain)
    rw [List.cons_append, partsFrom, if_neg (Ne.symm first), Bool.not_true, Bool.and_false,
      if_neg (by decide), ih later, List.reverse_cons, List.append_assoc]
    rfl

/-- What was typed between quotes is a part unless it is empty. -/
theorem partsFrom_typed {args : List (List Char)} (plain : ∀ arg ∈ args, '"' ∉ arg) :
    partsFrom [] false ([' '].intercalate (args.map quotedChars)) = args.filter (!·.isEmpty) := by
  induction args with
  | nil => rfl
  | cons arg args ih =>
    obtain ⟨first, later⟩ := List.forall_mem_cons.mp plain
    have typed (rest : List Char) : partsFrom [] false (quotedChars arg ++ rest) =
        partsFrom arg.reverse false rest := by
      rw [quotedChars, List.cons_append, List.append_assoc, partsFrom, if_pos rfl]
      exact (partsFrom_quoted first [] rest).trans (by rw [List.append_nil])
    cases args with
    | nil =>
      have alone := typed []
      rw [List.append_nil] at alone
      rw [List.map_singleton, List.intercalate_singleton, alone, partsFrom, List.isEmpty_reverse,
        List.reverse_reverse, List.filter_cons]
      cases arg <;> rfl
    | cons next args =>
      rw [List.map_cons, List.map_cons, List.intercalate_cons_cons, List.append_assoc, typed,
        List.singleton_append, partsFrom, if_neg (by decide), if_pos (by decide),
        ← List.map_cons, ih later, List.isEmpty_reverse, List.reverse_reverse,
        List.filter_cons (x := arg)]
      cases arg <;> rfl

/-- **The strings that come back of a line that they were typed in are those that are not empty**,
whatever blanks and backslashes they hold; so a list comes back as it is exactly if it holds no
empty string. -/
theorem split_quotedLine (args : List String) (plain : ∀ arg ∈ args, '"' ∉ arg.toList) :
    split (quotedLine args) = args.filter (· ≠ "") ∧
      (split (quotedLine args) = args ↔ "" ∉ args) := by
  have comes : split (quotedLine args) = args.filter (· ≠ "") := by
    have trimmed : Text.trim (quotedLine args).toList = (quotedLine args).toList := by
      rw [toList_quotedLine]
      cases args with
      | nil => rfl
      | cons arg args =>
        obtain ⟨inner, e⟩ := exists_intercalate_eq arg.toList (args.map String.toList)
        rw [List.map_cons, e, trim_quoted]
    have plain : ∀ arg ∈ args.map String.toList, '"' ∉ arg := List.forall_mem_map.mpr plain
    have nonempty : (fun chars : List Char => !chars.isEmpty) ∘ String.toList =
        fun arg : String => decide (arg ≠ "") := by
      funext arg
      rw [Bool.eq_iff_iff]
      simp
    rw [split, parts, trimmed, toList_quotedLine, partsFrom_typed plain, List.filter_map, nonempty,
      List.map_map]
    simp [Function.comp_def]
  refine ⟨comes, ?_⟩
  rw [comes, List.filter_eq_self]
  exact ⟨fun all h => absurd (all "" h) (by decide), fun h arg ha => by
    simpa using fun (e : arg = "") => h (e ▸ ha)⟩

/-- Blanks and backslashes come back, and an empty string does not. -/
theorem split_quotedLine_of_path :
    (∀ arg ∈ ["add", "C:\\Program Files\\a.exe", ""], '"' ∉ arg.toList) ∧
      split (quotedLine ["add", "C:\\Program Files\\a.exe", ""]) =
        ["add", "C:\\Program Files\\a.exe"] := by
  have plain : ∀ arg ∈ ["add", "C:\\Program Files\\a.exe", ""], '"' ∉ arg.toList := by decide
  exact ⟨plain, (split_quotedLine _ plain).1⟩

/-- A pair of quotes with nothing between them is no part. -/
theorem split_drops_empty :
    (∀ arg ∈ [""], '"' ∉ arg.toList) ∧ split (quotedLine [""]) ≠ [""] := by
  decide

end Vigil.CommandLine
