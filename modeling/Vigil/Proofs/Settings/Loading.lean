import Mathlib
import Vigil.Proofs.Act
import Vigil.Proofs.Json.Members
import Vigil.Proofs.Settings.Entries
import Vigil.Settings.Overrides

/-!
# Loading the file of overrides

Which contents of the file keep a program from its settings, and what the settings are after all
others. `Spoils` lists the contents that do, with what they raise: bytes that are no text, a
document beyond the limits of the reader, and a value too large for its setting.

* `load_follows_iff`: settings are loaded, and follow the content, if and only if nothing spoils it.
* `load_prevented`: two contents that let no settings be loaded.
-/

namespace Vigil

/-- A file that can be read is there. -/
theorem Files.has_of_read {files : Files} {path : FilePath} {content : Bytes}
    (h : files.read path = .ok content) : files.has path = .ok true := by
  unfold Files.read at h
  split at h
  · cases h
  · rename_i place hp
    split at h
    · rename_i hf
      simp only [Files.has, hp, hf, Option.isSome_some]
    · cases h
    · cases h

namespace Overrides

open Act

variable {σ : Type} {settings : Settings} {entries : List (LooseText × Json)} {m : Mishap}

/-! ## Entries -/

/-- An entry whose value is too large for its setting, and what it raises. -/
def Overfull (entry : LooseText × Json) (m : Mishap) : Prop :=
  ∃ setting, Modifiable.ofName? entry.1.render = some setting ∧ TooLarge setting.kind entry.2 m

/-- The first entry that is too large for its setting, and what it raises. -/
inductive Stops : List (LooseText × Json) → Mishap → Prop where
  | here {entry rest m} : Overfull entry m → Stops (entry :: rest) m
  | later {entry rest m} : (∀ m', ¬Overfull entry m') → Stops rest m → Stops (entry :: rest) m

/-- An entry that is not too large is converted or left out. -/
theorem outcome_applyEntry {entry : LooseText × Json} (h : ∀ m, ¬Overfull entry m)
    (s : Settings) (t : Scene σ) :
    outcome (applyEntry s entry.1.render entry.2) t = .ok (settle s entry) := by
  unfold applyEntry settle
  cases hm : Modifiable.ofName? entry.1.render with
  | none => rfl
  | some setting =>
    simp only [outcome_bind, outcome_orStumble, after_orStumble, Setting.granted?]
    cases hc : Setting.convert setting.kind entry.2 with
    | error m => exact absurd ⟨setting, hm, Setting.convert_eq_error_iff.mp hc⟩ (h m)
    | ok result =>
      cases result with
      | error fault => rfl
      | ok x => rfl

theorem Overfull.outcome {entry : LooseText × Json} (h : Overfull entry m) (s : Settings)
    (t : Scene σ) :
    outcome (applyEntry s entry.1.render entry.2) t = .error (.mishap m) := by
  obtain ⟨setting, hm, hl⟩ := h
  unfold applyEntry
  simp only [hm, outcome_bind, outcome_orStumble, Setting.convert_eq_error_iff.mpr hl]
  rfl

/-- Nothing stops entries none of which is too large. -/
theorem not_stops (h : ∀ e ∈ entries, ∀ m, ¬Overfull e m) (m : Mishap) : ¬Stops entries m := by
  intro stops
  induction stops with
  | here hover => exact h _ List.mem_cons_self _ hover
  | later _ _ ih => exact ih fun e he => h e (List.mem_cons_of_mem _ he)

theorem Stops.outcome (h : Stops entries m) (s : Settings) (t : Scene σ) :
    outcome (apply s entries) t = .error (.mishap m) := by
  induction h generalizing s t with
  | here he => simp only [apply, outcome_bind, he.outcome]
  | later he _ ih =>
    simp only [apply, outcome_bind, outcome_applyEntry he]
    exact ih _ _

/-- Entries are applied one after the other, or the first that is too large stops all. -/
theorem apply_cases (entries : List (LooseText × Json)) :
    (∃ m, Stops entries m) ∨
      ∀ (s : Settings) (t : Scene σ), outcome (apply s entries) t = .ok (settled s entries) := by
  induction entries with
  | nil => exact .inr fun s t => rfl
  | cons entry rest ih =>
    by_cases he : ∃ m, Overfull entry m
    · obtain ⟨m, hm⟩ := he
      exact .inl ⟨m, .here hm⟩
    · have he : ∀ m, ¬Overfull entry m := not_exists.mp he
      rcases ih with ⟨m, hm⟩ | hr
      · exact .inl ⟨m, .later he hm⟩
      · refine .inr fun s t => ?_
        simp only [apply, outcome_bind, outcome_applyEntry he]
        exact hr _ _

/-! ## Contents -/

/-- What bytes are read as, if they are text: a document or why there is none. -/
def reading (content : Bytes) : Except Text.Utf8Fault (Except Json.Fault Json) :=
  (Text.decodeUtf8 content).map fun text => Json.read (Text.unixLines text)

/-- The content is the text of a document. -/
def Holds (content : Bytes) (document : Json) : Prop := reading content = .ok (.ok document)

/-- What a content raises where settings are wanted. -/
inductive Spoils (content : Bytes) : Mishap → Prop where
  | notUtf8 {fault} : reading content = .error fault → Spoils content (.notUtf8 fault)
  | tooLong {digits} : reading content = .ok (.error (.tooLong digits)) →
      Spoils content (.document (.tooLong digits))
  | tooDeep {container} : reading content = .ok (.error (.tooDeep container)) →
      Spoils content (.document (.tooDeep container))
  | entry {fields mishap} : Holds content (.object fields) → Stops fields mishap →
      Spoils content mishap

/-- **Loaded settings**: they follow the entries if the content is an object, and are as they were
before if it is anything else. -/
structure Loads (before : Settings) (content : Bytes) (after : Settings) : Prop where
  follows : ∀ entries, Holds content (.object entries) → Follows before entries after
  kept : (∀ entries, ¬Holds content (.object entries)) → after = before

theorem Holds.nodup {content : Bytes} (h : Holds content (.object entries)) :
    (entries.map Prod.fst).Nodup := by
  unfold Holds reading at h
  cases ht : Text.decodeUtf8 content with
  | error fault =>
    rw [ht] at h
    cases h
  | ok text =>
    rw [ht] at h
    exact Json.nodup_of_read (Except.ok.inj h)

theorem Holds.inj {content : Bytes} {d d' : Json} (h : Holds content d) (h' : Holds content d') :
    d = d' :=
  Except.ok.inj (Except.ok.inj (h.symm.trans h'))

/-- An object spoils nothing if none of its entries is too large for its setting. -/
theorem Holds.sound {content : Bytes} (h : Holds content (.object entries))
    (hs : ∀ m, ¬Stops entries m) (m : Mishap) : ¬Spoils content m := by
  intro spoils
  cases spoils with
  | notUtf8 h' => cases h.symm.trans h'
  | tooLong h' => cases h.symm.trans h'
  | tooDeep h' => cases h.symm.trans h'
  | entry h' stops =>
    cases h.inj h'
    exact hs m stops

theorem outcome_readContent (path : FilePath) (content : Bytes) (s : Scene σ) :
    outcome (readContent path content) s =
      match reading content with
      | .error fault => .error (.mishap (.notUtf8 fault))
      | .ok (.ok document) => .ok (some document)
      | .ok (.error (.flawed _ _)) => .ok none
      | .ok (.error fault) => .error (.mishap (.document fault)) := by
  unfold readContent reading
  simp only [outcome_bind, outcome_orStumble, after_orStumble]
  cases Text.decodeUtf8 content with
  | error fault => rfl
  | ok text =>
    simp only [Except.mapError, Except.map]
    cases Json.read (Text.unixLines text) with
    | ok document => rfl
    | error fault => cases fault <;> rfl

variable {path : FilePath} {content : Bytes} {s : Scene σ}

/-- What loading comes to where the file is there. -/
theorem outcome_load (h : s.world.files.read path = .ok content) :
    outcome (load settings path) s =
      match reading content with
      | .error fault => .error (.mishap (.notUtf8 fault))
      | .ok (.ok (.object entries)) => outcome (do
          log Level.info s!"Loading configuration overrides from {path.render}"
          apply settings entries) (after (readContent path content) s)
      | .ok (.ok _) => .ok settings
      | .ok (.error (.flawed _ _)) => .ok settings
      | .ok (.error fault) => .error (.mishap (.document fault)) := by
  have there : (s.world.files.has path).mapError (·.mishap path) = .ok true := by
    rw [Files.has_of_read h]
    rfl
  unfold load
  simp only [outcome_bind, outcome_world, after_world, there, orStumble, outcome_pure, after_pure,
    if_true, h, outcome_readContent]
  cases reading content with
  | error fault => rfl
  | ok result =>
    cases result with
    | error fault => cases fault <;> rfl
    | ok document => cases document <;> rfl

/-- What spoils the content gets out. -/
theorem Spoils.outcome (hs : Spoils content m) (h : s.world.files.read path = .ok content) :
    outcome (load settings path) s = .error (.mishap m) := by
  rw [outcome_load h]
  cases hs with
  | notUtf8 hr => rw [hr]
  | tooLong hr => rw [hr]
  | tooDeep hr => rw [hr]
  | entry hr he =>
    rw [show reading content = _ from hr]
    simp only [outcome_bind]
    exact he.outcome settings _

/-- A content spoils the loading, or the settings that are loaded are those it says. -/
theorem load_cases (settings : Settings) (h : s.world.files.read path = .ok content) :
    (∃ m, Spoils content m) ∨
      ∃ loaded, outcome (load settings path) s = .ok loaded ∧ Loads settings content loaded := by
  rw [outcome_load h]
  have unchanged (hn : ∀ entries, ¬Holds content (.object entries)) :
      Loads settings content settings :=
    ⟨fun entries he => absurd he (hn entries), fun _ => rfl⟩
  cases hr : reading content with
  | error fault => exact .inl ⟨_, .notUtf8 hr⟩
  | ok result =>
    cases result with
    | error fault =>
      cases fault with
      | flawed flaw place =>
        exact .inr ⟨settings, rfl, unchanged fun entries he => nomatch hr.symm.trans he⟩
      | tooLong digits => exact .inl ⟨_, .tooLong hr⟩
      | tooDeep container => exact .inl ⟨_, .tooDeep hr⟩
    | ok document =>
      cases document with
      | object entries =>
        rcases apply_cases entries with ⟨m, hm⟩ | ha
        · exact .inl ⟨m, .entry hr hm⟩
        · refine .inr ⟨settled settings entries, ?_, fun entries' he => ?_, fun hn => ?_⟩
          · simp only [outcome_bind]
            exact ha settings _
          · cases Holds.inj hr he
            exact follows_settled settings (Holds.nodup hr)
          · exact absurd hr (hn entries)
      | _ =>
        exact .inr ⟨settings, rfl, unchanged fun entries he => nomatch Holds.inj hr he⟩

/-- **Settings are loaded from a file if and only if nothing spoils its content**, and what spoils
it is what gets out. The loaded settings are those from before, each setting that may be changed
with the value that its entry is converted to. -/
theorem load_follows_iff (settings : Settings) (h : s.world.files.read path = .ok content) :
    ((∃ loaded, outcome (load settings path) s = .ok loaded ∧ Loads settings content loaded) ↔
        ∀ m, ¬Spoils content m) ∧
      ∀ m, outcome (load settings path) s = .error (.mishap m) ↔ Spoils content m := by
  refine ⟨⟨?_, ?_⟩, fun m => ⟨?_, fun hm => hm.outcome h⟩⟩
  · rintro ⟨loaded, e, -⟩ m hm
    exact nomatch e.symm.trans (hm.outcome h)
  · intro hn
    exact (load_cases settings h).resolve_left fun ⟨m, hm⟩ => hn m hm
  · intro e
    rcases load_cases settings h with ⟨m', hm⟩ | ⟨loaded, e', -⟩
    · cases e.symm.trans (hm.outcome h)
      exact hm
    · exact nomatch e.symm.trans e'

/-- A file that stands alone in the current directory is read under its name. -/
theorem read_alone (content : Bytes) :
    (⟨[(⟨"", ["overrides.json"]⟩, .file content)]⟩ : Files).read ⟨"", ["overrides.json"]⟩ =
      .ok content := by
  have noNul : FilePath.hasNul ⟨"", ["overrides.json"]⟩ = false := by decide
  have short : (FilePath.render ⟨"", ["overrides.json"]⟩).utf8ByteSize ≤ FilePath.longest := by
    decide
  simp only [Files.read, Files.place, noNul, if_pos short]
  rfl

/-- A byte that starts no character keeps the program from its settings, and so does infinity as a
number of attempts, whatever else stands in the file. -/
theorem load_prevented :
    let path : FilePath := ⟨"", ["overrides.json"]⟩
    let here (content : Bytes) : Scene Unit := ⟨{ files := ⟨[(path, .file content)]⟩ }, ()⟩
    let endless := Text.encodeUtf8
      "\x7b\"SERVICE_POLL_ATTEMPTS\": Infinity, \"LOG_LEVEL\": \"DEBUG\"\x7d".toList
    outcome (load {} path) (here [0xFF]) = .error (.mishap (.notUtf8 ⟨.start, 0xFF, 0, 1⟩)) ∧
      outcome (load {} path) (here endless) = .error (.mishap (.notWhole .infinity)) := by
  intro path here endless
  have unread : Spoils [0xFF] (.notUtf8 ⟨.start, 0xFF, 0, 1⟩) := .notUtf8 rfl
  have holds : Holds endless (.object
      [(("SERVICE_POLL_ATTEMPTS" : String), .real (Float.ofBits 0x7FF0000000000000)),
        (("LOG_LEVEL" : String), .text ("DEBUG" : String))]) := by
    unfold Holds endless
    cbv
  have overfull : Spoils endless (.notWhole .infinity) :=
    .entry holds (.here ⟨.pollAttempts, Modifiable.ofName?_render_iff.mpr rfl, .infinite rfl⟩)
  exact ⟨unread.outcome (read_alone _), overfull.outcome (read_alone _)⟩

/-- No text is too large for a setting. -/
theorem not_overfull_text (key text : LooseText) (m : Mishap) : ¬Overfull (key, .text text) m := by
  rintro ⟨setting, -, large⟩
  generalize setting.kind = kind at large
  cases large

/-- A text that is no number is left out, and the entry behind it is taken all the same. -/
theorem load_follows_iff_of_unconvertible :
    let path : FilePath := ⟨"", ["overrides.json"]⟩
    let content := Text.encodeUtf8
      "\x7b\"SERVICE_POLL_ATTEMPTS\": \"many\", \"LOG_LEVEL\": \"DEBUG\"\x7d".toList
    let s : Scene Unit := ⟨{ files := ⟨[(path, .file content)]⟩ }, ()⟩
    s.world.files.read path = .ok content ∧
      ∃ loaded, outcome (load {} path) s = .ok loaded ∧
        loaded.value .pollAttempts = .whole 60 ∧ loaded.value .logLevel = .text "DEBUG" := by
  intro path content s
  have there : s.world.files.read path = .ok content := read_alone _
  have holds : Holds content (.object
      [(("SERVICE_POLL_ATTEMPTS" : String), .text ("many" : String)),
        (("LOG_LEVEL" : String), .text ("DEBUG" : String))]) := by
    unfold Holds content
    cbv
  have sound : ∀ m, ¬Spoils content m := by
    refine holds.sound (not_stops ?_)
    simp only [List.forall_mem_cons]
    exact ⟨not_overfull_text _ _, not_overfull_text _ _, List.forall_mem_nil _⟩
  obtain ⟨loaded, e, hl⟩ := (load_follows_iff {} there).1.mpr sound
  have follows := (hl.follows _ holds).changed
  exact ⟨there, loaded, e, follows .pollAttempts, follows .logLevel⟩

end Overrides

end Vigil
