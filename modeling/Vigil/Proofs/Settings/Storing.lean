import Vigil.Proofs.Json.Given
import Vigil.Proofs.Json.RoundTrip
import Vigil.Proofs.Log.Elsewhere
import Vigil.Proofs.Settings.Loading

/-!
# What is left of the file after saving

The file of overrides is emptied before anything is written to it, and nothing puts the old content
back. Saving therefore ends in one of four ways: two leave the file alone, one leaves a whole
document in it, and one the beginning of a document, up to the first value that cannot be written.

* `store_whole`, `store_cut`: what is written of entries stands in the file, however writing ends.
* `Ending`: the four ways, and `store_ends`: there is no other.
* `store_loses_content`: a value that cannot be written costs the file its content.
-/

namespace Vigil

namespace Files

variable {fs : Files} {path : FilePath} {content : Bytes}

/-- Whatever the content is, it can be written under a path. -/
def Writable (fs : Files) (path : FilePath) : Prop :=
  ∀ content, ∃ after, fs.write path content = .ok after

/-- A file that can be read can be written. -/
theorem writable_of_read (h : fs.read path = .ok content) : fs.Writable path := by
  intro content
  unfold read at h
  split at h
  · cases h
  · rename_i place hp
    split at h
    · rename_i hf
      simp only [write, hp, hf, Except.ok.injEq, exists_eq']
    · cases h
    · cases h

/-- Whether a file can be written depends on its path alone, not on the content. -/
theorem writable_or (fs : Files) (path : FilePath) :
    fs.Writable path ∨ ∃ fault, ∀ content, fs.write path content = .error fault := by
  unfold Writable write
  cases fs.place path with
  | error fault => exact .inr ⟨fault, fun _ => rfl⟩
  | ok place =>
    dsimp only
    split
    · exact .inr ⟨_, fun _ => rfl⟩
    · exact .inl fun content => ⟨_, rfl⟩

end Files

namespace Overrides

open Act
open Json (Spacing)

/-! ## What is kept, and what is written of it -/

theorem modifiable_map {α β : Type} (f : α → β) (entries : List (LooseText × α)) :
    modifiable (entries.map fun e => (e.1, f e.2)) =
      (modifiable entries).map fun e => (e.1, f e.2) := by
  unfold modifiable
  rw [List.filter_map]
  rfl

/-- The entries of a document are given as that document. -/
theorem object_ofJson (entries : List (LooseText × Json)) :
    object (entries.map fun e => (e.1, .ofJson e.2)) = .ofJson (.object entries) := by
  rw [object, Given.ofJson, Given.ofFields_eq_map, List.map_map]
  rfl

/-- An entry that is written as a field of the document in the file. -/
def WrittenAs (entry : LooseText × Given) (field : LooseText × Json) : Prop :=
  entry.1 = field.1 ∧ entry.2.document? 1 = some field.2

/-- Entries are written as fields one by one. -/
theorem fields?_of_writtenAs {entries : List (LooseText × Given)}
    {fields : List (LooseText × Json)} (h : List.Forall₂ WrittenAs entries fields) :
    Given.fields? 1 (entries.map fun e => (.ok e.1, e.2)) = some fields := by
  induction h with
  | nil => rfl
  | @cons entry field entries fields written _ ih =>
    obtain ⟨key, value⟩ := entry
    obtain ⟨name, doc⟩ := field
    obtain ⟨rfl, hd⟩ := written
    rw [List.map_cons, Given.fields?, hd, ih]
    rfl

/-- Entries are all written, or there is a first that cannot be. -/
theorem written_or_first (entries : List (LooseText × Given)) :
    (∃ fields, List.Forall₂ WrittenAs entries fields) ∨
      ∃ before fields key value later, entries = before ++ (key, value) :: later ∧
        List.Forall₂ WrittenAs before fields ∧ value.document? 1 = none := by
  induction entries with
  | nil => exact .inl ⟨[], .nil⟩
  | cons entry rest ih =>
    obtain ⟨key, value⟩ := entry
    cases hd : value.document? 1 with
    | none => exact .inr ⟨[], [], key, value, rest, rfl, .nil, hd⟩
    | some doc =>
      rcases ih with ⟨fields, written⟩ | ⟨before, fields, bad, v, later, rfl, written, none⟩
      · exact .inl ⟨(key, doc) :: fields, .cons ⟨rfl, hd⟩ written⟩
      · exact .inr ⟨(key, value) :: before, (key, doc) :: fields, bad, v, later, rfl,
          .cons ⟨rfl, hd⟩ written, none⟩

/-- Entries that are all written make one document. -/
theorem indented_of_writtenAs {entries : List (LooseText × Given)}
    {fields : List (LooseText × Json)} (h : List.Forall₂ WrittenAs entries fields) :
    (object entries).indented = (Spacing.lined.text 0 (.object fields), none) := by
  refine Given.indented_eq ?_
  rw [object, Given.document?, if_pos (Bool.or_eq_true_iff.mpr (.inr (by decide))),
    fields?_of_writtenAs h]
  rfl

/-- The beginning of a document: some fields, and what stands of one more behind its key. -/
def beginning (fields : List (LooseText × Json)) (key : LooseText) (text : List Char) : List Char :=
  '{' :: Given.newLine 1 ++ Given.fieldsText 1 [] fields ++
    (if fields = [] then [] else ',' :: Given.newLine 1) ++ Json.quote key ++ [':', ' '] ++ text

/-- The first entry that cannot be written ends the document. -/
theorem indented_of_first {before : List (LooseText × Given)} {fields : List (LooseText × Json)}
    {key : LooseText} {value : Given} {text : List Char} {why : Mishap}
    (h : List.Forall₂ WrittenAs before fields)
    (stops : Given.Stops (value.pieces 1 []) text why) (later : List (LooseText × Given)) :
    (object (before ++ (key, value) :: later)).indented = (beginning fields key text, some why) := by
  have inner := @Given.put_fields_stops 1 key _ _ _ (later.map fun e => (.ok e.1, e.2)) stops _ _
    [] (fields?_of_writtenAs h)
  have all := ((Given.Puts.one ('{' :: Given.newLine 1)).stops inner).append
    [.ok (Given.newLine 0 ++ ['}'])]
  have pieces : (object (before ++ (key, value) :: later)).pieces 0 [] =
      .ok ('{' :: Given.newLine 1) :: Given.fieldPieces 1 []
        ((before.map fun e => (.ok e.1, e.2)) ++ (.ok key, value) ::
          later.map fun e => (.ok e.1, e.2)) ++ [.ok (Given.newLine 0 ++ ['}'])] := by
    rw [object, List.map_append, List.map_cons, Given.pieces, if_neg (by simp),
      if_pos (by decide)]
    rfl
  rw [Given.indented, pieces, beginning]
  simpa using all.put_eq

/-! ## The file -/

variable {σ : Type} {s : Scene σ} {path : FilePath} {entries : List (LooseText × Given)}

/-- Saving entries of which none may be changed only logs that. -/
theorem store_nothing (h : modifiable entries = [])
    (hl : ∀ handler ∈ s.world.logging.handlers, handler.Elsewhere path) :
    outcome (store path entries) s = .ok () ∧
      (after (store path entries) s).world.files.read path = s.world.files.read path := by
  unfold store
  simp only [h, List.isEmpty_nil, if_true, log, outcome_log, after_log, true_and]
  exact World.read_log hl _ _ _ _

/-- A file that cannot be opened is left alone. -/
theorem store_refused {fault : PathFault} (hne : modifiable entries ≠ [])
    (hw : ∀ content, s.world.files.write path content = .error fault)
    (hl : ∀ handler ∈ s.world.logging.handlers, handler.Elsewhere path) :
    (after (store path entries) s).world.files.read path = s.world.files.read path := by
  unfold store
  simp only [List.isEmpty_eq_false_iff.mpr hne, Bool.false_eq_true, if_false, after_bind,
    outcome_world, after_world, hw, refuse]
  split
  · rw [log, after_log]
    exact World.read_log hl _ _ _ _
  · rfl

/-- **Entries that can be written** stand in the file, which is logged. -/
theorem store_whole {text : List Char} (hne : modifiable entries ≠ [])
    (complete : (object (modifiable entries)).indented = (text, none))
    (hw : s.world.files.Writable path)
    (hl : ∀ handler ∈ s.world.logging.handlers, handler.Elsewhere path) :
    outcome (store path entries) s = .ok () ∧
      (after (store path entries) s).world.files.read path = .ok (Text.encodeUtf8 text) ∧
      (after (store path entries) s).world.logging = s.world.logging := by
  obtain ⟨files, written⟩ := hw (Text.encodeUtf8 text)
  unfold store
  simp only [List.isEmpty_eq_false_iff.mpr hne, Bool.false_eq_true, if_false, outcome_bind,
    after_bind, outcome_world, after_world, complete, written, outcome_alter, after_alter,
    log, outcome_log, after_log, true_and]
  exact ⟨(World.read_log (w := { s.world with files }) hl _ _ _ _).trans (Files.read_write written),
    World.logging_log _ _ _ _ _⟩

/-- **What was written before a value that cannot be** stands in the file. -/
theorem store_cut {text : List Char} {why : Mishap} (hne : modifiable entries ≠ [])
    (cut : (object (modifiable entries)).indented = (text, some why))
    (hw : s.world.files.Writable path) :
    outcome (store path entries) s = .error (.mishap why) ∧
      (after (store path entries) s).world.files.read path = .ok (Text.encodeUtf8 text) := by
  obtain ⟨files, written⟩ := hw (Text.encodeUtf8 text)
  unfold store
  simp only [List.isEmpty_eq_false_iff.mpr hne, Bool.false_eq_true, if_false, outcome_bind,
    after_bind, outcome_world, after_world, cut, written, outcome_alter, after_alter,
    outcome_stumble, after_stumble, true_and]
  exact Files.read_write written

/-- **How saving ends**, by what is under the path then. -/
inductive Ending (path : FilePath) (entries : List (LooseText × Given)) (s : Scene σ) : Prop where
  /-- No entry may be changed, and the file is as it was. -/
  | nothing (none : modifiable entries = [])
      (returns : outcome (store path entries) s = .ok ())
      (same : (after (store path entries) s).world.files.read path = s.world.files.read path)
  /-- The file cannot be opened, and is as it was. -/
  | refused {fault : PathFault} (some : modifiable entries ≠ [])
      (cannot : ∀ content, s.world.files.write path content = .error fault)
      (same : (after (store path entries) s).world.files.read path = s.world.files.read path)
  /-- All that may be changed is written, as one document. It is read back if it is plain. -/
  | whole {fields : List (LooseText × Json)} (some : modifiable entries ≠ [])
      (written : List.Forall₂ WrittenAs (modifiable entries) fields)
      (returns : outcome (store path entries) s = .ok ())
      (content : (after (store path entries) s).world.files.read path =
        .ok (Text.encodeUtf8 (Spacing.lined.text 0 (.object fields))))
      (holds : Json.Plain Json.Limits.standard.depth (.object fields) →
        Holds (Text.encodeUtf8 (Spacing.lined.text 0 (.object fields))) (.object fields))
  /-- A value cannot be written, and the file ends with what can be written of it. -/
  | cut {before later : List (LooseText × Given)} {fields : List (LooseText × Json)}
      {key : LooseText} {value : Given} {text : List Char} {why : Mishap}
      (kept : modifiable entries = before ++ (key, value) :: later)
      (written : List.Forall₂ WrittenAs before fields) (none : value.document? 1 = none)
      (stops : Given.Stops (value.pieces 1 []) text why)
      (raises : outcome (store path entries) s = .error (.mishap why))
      (content : (after (store path entries) s).world.files.read path =
        .ok (Text.encodeUtf8 (beginning fields key text)))

/-- A plain document is read from the file that it is written to. -/
theorem holds_lined {doc : Json} (plain : Json.Plain Json.Limits.standard.depth doc) :
    Holds (Text.encodeUtf8 (Spacing.lined.text 0 doc)) doc := by
  unfold Holds reading
  rw [Text.decodeUtf8_encodeUtf8 (plain.ascii 0), Except.map, Json.read_lined plain]

/-- **The file is emptied before anything is written.** Where no log is written to the file, saving
leaves it alone if no entry may be changed or the file cannot be opened. In all other cases nothing
of the old content is left: the file holds one whole document with the entries that may be changed,
or, if one of them cannot be written, what stands before it. -/
theorem store_ends (path : FilePath) (entries : List (LooseText × Given)) (s : Scene σ)
    (hl : ∀ handler ∈ s.world.logging.handlers, handler.Elsewhere path) :
    Ending path entries s := by
  by_cases hne : modifiable entries = []
  · have ⟨returns, same⟩ := store_nothing hne hl
    exact .nothing hne returns same
  rcases s.world.files.writable_or path with hw | ⟨fault, cannot⟩
  · rcases written_or_first (modifiable entries) with
      ⟨fields, written⟩ | ⟨before, fields, key, value, later, kept, written, none⟩
    · have ⟨returns, content, _⟩ := store_whole hne (indented_of_writtenAs written) hw hl
      exact .whole hne written returns content holds_lined
    · obtain ⟨text, why, stops⟩ := Given.put_stops 1 [] value none
      have ⟨raises, content⟩ := store_cut hne (kept ▸ indented_of_first written stops later) hw
      exact .cut kept written none stops raises content
  · exact .refused hne cannot (store_refused hne cannot hl)

/-- A flag is written over a file that is no text, and the name that may not be changed is left
out, although its value could not be written. -/
theorem store_ends_whole :
    let path : FilePath := ⟨"", ["overrides.json"]⟩
    let entries : List (LooseText × Given) :=
      [(("PIPE_NAME" : String), .foreign (.raised "TypeError" "not serializable")),
        (("LOG_LEVEL" : String), .bool true)]
    let s : Scene Unit := ⟨{
      files := ⟨[(path, .file [0xFF])]⟩
      logging := { handlers := [⟨Level.info, .console⟩] } }, ()⟩
    outcome (store path entries) s = .ok () ∧
      (after (store path entries) s).world.files.read path =
        .ok (Text.encodeUtf8 "\x7b\n    \"LOG_LEVEL\": true\n\x7d".toList) := by
  intro path entries s
  have elsewhere : ∀ handler ∈ s.world.logging.handlers, handler.Elsewhere path := by
    simp only [s, List.forall_mem_cons]
    exact ⟨Handler.elsewhere_console path rfl, nofun⟩
  have one : modifiable entries = [(.ofString "LOG_LEVEL", .bool true)] :=
    (List.filter_cons_of_neg (by decide +kernel)).trans
      (List.filter_cons_of_pos (by decide +kernel))
  rcases store_ends path entries s elsewhere with none | ⟨-, cannot, -⟩ |
    ⟨-, written, returns, content, -⟩ | ⟨kept, -, none, -⟩
  · exact nomatch one.symm.trans none
  · obtain ⟨files, written⟩ := Files.writable_of_read (read_alone [0xFF]) []
    exact nomatch (cannot []).symm.trans written
  · rw [one] at written
    obtain ⟨⟨key, value⟩, rest, ⟨name, doc⟩, none, rfl⟩ := List.forall₂_cons_left_iff.mp written
    obtain rfl := List.forall₂_nil_left_iff.mp none
    obtain rfl := name
    obtain rfl := Option.some.inj doc
    exact ⟨returns, content.trans (by decide +kernel)⟩
  · obtain e := List.mem_singleton.mp (one ▸ kept ▸ List.mem_append_right _ List.mem_cons_self)
    obtain rfl := congrArg Prod.snd e
    cases none

/-- A set, which no document can hold, costs the file its content: what is left is a name that no
value follows. -/
theorem store_loses_content :
    let path : FilePath := ⟨"", ["overrides.json"]⟩
    let set := Mishap.raised "TypeError" "Object of type set is not JSON serializable"
    let entries : List (LooseText × Given) :=
      [(("LOG_LEVEL" : String), .text ("DEBUG" : String)),
        (("CONNECT_TIMEOUT" : String), .foreign set)]
    let s : Scene Unit := ⟨{ files := ⟨[(path, .file (Text.encodeUtf8 "\x7b\x7d".toList))]⟩ }, ()⟩
    outcome (store path entries) s = .error (.mishap set) ∧
      s.world.files.read path = .ok (Text.encodeUtf8 "\x7b\x7d".toList) ∧
      (after (store path entries) s).world.files.read path = .ok (Text.encodeUtf8
        "\x7b\n    \"LOG_LEVEL\": \"DEBUG\",\n    \"CONNECT_TIMEOUT\": ".toList) := by
  intro path set entries s
  have kept : modifiable entries = entries := List.filter_eq_self.mpr <| by
    simp only [entries, List.forall_mem_cons]
    exact ⟨by decide +kernel, by decide +kernel, nofun⟩
  have stops : Given.Stops (Given.pieces 1 [] (.foreign set)) [] set :=
    (Given.Puts.one []).stops (.one set)
  have before : List.Forall₂ WrittenAs [(.ofString "LOG_LEVEL", .text ("DEBUG" : String))]
      [(.ofString "LOG_LEVEL", .text ("DEBUG" : String))] := .cons ⟨rfl, rfl⟩ .nil
  have cut : (object entries).indented = _ := indented_of_first before stops []
  rw [← kept] at cut
  have there : s.world.files.read path = .ok (Text.encodeUtf8 "\x7b\x7d".toList) := read_alone _
  have ⟨raises, content⟩ := store_cut (kept ▸ List.cons_ne_nil _ _) cut
    (Files.writable_of_read there)
  exact ⟨raises, there, content.trans (by decide +kernel)⟩

end Overrides

end Vigil
