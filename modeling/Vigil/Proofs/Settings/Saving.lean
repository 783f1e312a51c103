import Vigil.Proofs.Number.Nearest
import Vigil.Proofs.Number.Truncate
import Vigil.Proofs.Settings.Storing

/-!
# Saving is the inverse of loading

Entries that were saved to the file of overrides are loaded from it as they were, whatever stood in
the file: what is written is read back, the names that are kept are those that are applied, and no
value that may be saved is too large for its setting.

* `holds_saved`: the file that is written holds the entries that may be changed.
* `load_inverts_save`: settings loaded after saving follow the entries that were saved, and saving
  them once more leaves the file as it is. Entries that may not be changed leave it alone.
-/

namespace Vigil

/-! ## Values -/

/-- How many digits an integer may have that is saved. -/
def savedDigits : Nat := 300

/-- **A value that may be saved**: null, a flag, a text without halves of pairs, or an integer below
`10 ^ 300` in absolute value. -/
inductive Savable : Json → Prop
  | null : Savable .null
  | bool (b : Bool) : Savable (.bool b)
  | int {n : Int} (h : n.natAbs < Nat.pow 10 savedDigits) : Savable (.int n)
  | text {s : LooseText} (h : s.Whole) : Savable (.text s)

namespace Savable

variable {value : Json}

/-- Three decimal digits take ten bits at most. -/
theorem lt_two_pow {n digits triples : Nat} (hd : digits ≤ 3 * triples)
    (h : n < Nat.pow 10 digits) : n < Nat.pow 2 (10 * triples) := by
  rw [Nat.pow_eq] at h ⊢
  calc n < 10 ^ digits := h
    _ ≤ 10 ^ (3 * triples) := Nat.pow_le_pow_right (by decide) hd
    _ = (10 ^ 3) ^ triples := Nat.pow_mul ..
    _ ≤ (2 ^ 10) ^ triples := Nat.pow_le_pow_left (by decide) triples
    _ = 2 ^ (10 * triples) := (Nat.pow_mul ..).symm

/-- An integer that may be saved takes a thousand bits at most. -/
theorem exists_bits {n : Nat} (h : n < Nat.pow 10 savedDigits) :
    ∃ bits ≤ 1000, n < Nat.pow 2 bits :=
  ⟨10 * 100, by decide, lt_two_pow (show savedDigits ≤ 3 * 100 by decide) h⟩

theorem plain (h : Savable value) (d : Nat) : Json.Plain d value := by
  cases h with
  | null => exact .null
  | bool b => exact .bool b
  | int hn =>
    obtain ⟨bits, hb, few⟩ := exists_bits hn
    exact .int (Number.not_tooLongToWrite few (Nat.le_trans hb (by decide)))
  | text hs => exact .text hs

/-- A value that may be saved is too large for no setting. -/
theorem not_tooLarge (h : Savable value) (kind : SettingKind) (m : Mishap) :
    ¬TooLarge kind value m := by
  intro large
  cases h with
  | int hn =>
    cases large with
    | huge none =>
      obtain ⟨bits, hb, few⟩ := exists_bits hn
      have some := Number.isSome_ofInt? few hb
      rw [none] at some
      cases some
  | _ => cases large

end Savable

namespace Overrides

open Act

variable {σ : Type} {entries : List (LooseText × Json)} {path : FilePath} {s : Scene σ}

/-! ## What is kept of entries -/

/-- An entry is kept if and only if its key is the name of a setting that may be changed. -/
theorem isSome_ofName?_iff {key : LooseText} :
    (Modifiable.ofName? key.render).isSome ↔ ∃ m : Modifiable, key = m.name := by
  simp only [Option.isSome_iff_exists, Modifiable.ofName?_render_iff]

theorem mem_modifiable_iff {entry : LooseText × Json} :
    entry ∈ modifiable entries ↔ entry ∈ entries ∧ ∃ m : Modifiable, entry.1 = m.name := by
  rw [modifiable, List.mem_filter, isSome_ofName?_iff]

/-- Nothing is lost of the settings that may be changed. -/
theorem get?_modifiable (m : Modifiable) (entries : List (LooseText × Json)) :
    Json.get? m.name (modifiable entries) = Json.get? m.name entries := by
  induction entries with
  | nil => rfl
  | cons entry rest ih =>
    obtain ⟨key, value⟩ := entry
    by_cases hk : ∃ n : Modifiable, key = n.name
    · have kept : modifiable ((key, value) :: rest) = (key, value) :: modifiable rest :=
        List.filter_cons_of_pos (isSome_ofName?_iff.mpr hk)
      rw [kept, Json.get?, Json.get?, ih]
    · have left : modifiable ((key, value) :: rest) = modifiable rest :=
        List.filter_cons_of_neg fun h => hk (isSome_ofName?_iff.mp h)
      rw [left, ih, Json.get?, if_neg fun e => hk ⟨m, e⟩]

/-- Settings that follow what is kept of entries follow the entries. -/
theorem Follows.of_modifiable {before after : Settings}
    (h : Follows before (modifiable entries) after) : Follows before entries after :=
  ⟨fun m => get?_modifiable m entries ▸ h.changed m, h.fixed⟩

/-! ## What is written -/

/-- The content of the file to which entries were saved. -/
def saved (entries : List (LooseText × Json)) : Bytes :=
  Text.encodeUtf8 (Json.Spacing.lined.text 0 (.object (modifiable entries)))

/-- What is kept of entries is a plain document. -/
theorem plain_modifiable (hk : (entries.map Prod.fst).Nodup) (hv : ∀ e ∈ entries, Savable e.2)
    (d : Nat) : Json.Plain (d + 1) (.object (modifiable entries)) := by
  refine .object (fun e he => ?_) (hk.sublist (List.filter_sublist.map _)) fun e he => ?_
  · obtain ⟨-, m, name⟩ := mem_modifiable_iff.mp he
    rw [name]
    exact LooseText.whole_ofString _
  · exact (hv e (mem_modifiable_iff.mp he).1).plain d

/-- **The file that is written holds what is kept of the entries.** -/
theorem holds_saved (hk : (entries.map Prod.fst).Nodup) (hv : ∀ e ∈ entries, Savable e.2) :
    Holds (saved entries) (.object (modifiable entries)) :=
  holds_lined (plain_modifiable hk hv 989)

/-- Nothing that is kept is too large for its setting. -/
theorem not_stops_modifiable (hv : ∀ e ∈ entries, Savable e.2) (m : Mishap) :
    ¬Stops (modifiable entries) m := by
  refine not_stops (fun e he m => ?_) m
  rintro ⟨setting, -, large⟩
  exact (hv e (mem_modifiable_iff.mp he).1).not_tooLarge _ _ large

/-! ## The file -/

/-- Saving entries of which one may be changed writes the file, and logs it. -/
theorem save_kept (hk : (entries.map Prod.fst).Nodup) (hv : ∀ e ∈ entries, Savable e.2)
    (hne : modifiable entries ≠ []) (hw : s.world.files.Writable path)
    (hl : ∀ handler ∈ s.world.logging.handlers, handler.Elsewhere path) :
    outcome (save path entries) s = .ok () ∧
      (after (save path entries) s).world.files.read path = .ok (saved entries) ∧
      (after (save path entries) s).world.logging = s.world.logging := by
  have plain := plain_modifiable hk hv 989
  refine store_whole ?_ ?_ hw hl
  · rw [modifiable_map, ne_eq, List.map_eq_nil_iff]
    exact hne
  · rw [modifiable_map, object_ofJson]
    exact Given.indented_eq (Given.document?_ofJson plain (by decide))

/-- Saving entries of which none may be changed only logs that. -/
theorem save_nothing (h : modifiable entries = [])
    (hl : ∀ handler ∈ s.world.logging.handlers, handler.Elsewhere path) :
    outcome (save path entries) s = .ok () ∧
      (after (save path entries) s).world.files.read path = s.world.files.read path := by
  refine store_nothing ?_ hl
  rw [modifiable_map, h, List.map_nil]

/-- **What saving entries comes to**, in a scene: it returns, settings that are loaded afterwards
follow the entries, and saving them once more leaves the file as it is. -/
structure Restores (defaults : Settings) (path : FilePath) (entries : List (LooseText × Json))
    (s : Scene σ) : Prop where
  saves : outcome (save path entries) s = .ok ()
  loads : ∃ loaded, outcome (load defaults path) (after (save path entries) s) = .ok loaded ∧
    Follows defaults entries loaded
  again : (after (save path entries) (after (save path entries) s)).world.files.read path =
    (after (save path entries) s).world.files.read path

/-- **Loading is the inverse of saving.** Where the file can be written and the log is written
elsewhere, entries of which one may be changed are saved, whatever stood in the file: settings that
are loaded from it follow all the entries. Where none may be changed, what is under the path stays
as it is. -/
theorem load_inverts_save (defaults : Settings) (path : FilePath)
    (entries : List (LooseText × Json)) (hk : (entries.map Prod.fst).Nodup)
    (hv : ∀ e ∈ entries, Savable e.2) (s : Scene σ)
    (hl : ∀ handler ∈ s.world.logging.handlers, handler.Elsewhere path) :
    ((∃ e ∈ entries, ∃ m : Modifiable, e.1 = m.name) → s.world.files.Writable path →
        Restores defaults path entries s) ∧
      ((∀ e ∈ entries, ∀ m : Modifiable, e.1 ≠ m.name) →
        outcome (save path entries) s = .ok () ∧
          (after (save path entries) s).world.files.read path = s.world.files.read path) := by
  constructor
  · rintro ⟨e, he, m, hm⟩ hw
    have hne : modifiable entries ≠ [] :=
      List.ne_nil_of_mem (mem_modifiable_iff.mpr ⟨he, m, hm⟩)
    obtain ⟨returns, content, logging⟩ := save_kept hk hv hne hw hl
    have holds := holds_saved hk hv
    have again := save_kept hk hv hne (Files.writable_of_read content) (logging ▸ hl)
    refine ⟨returns, ?_, again.2.1.trans content.symm⟩
    rcases load_cases defaults content with ⟨m, spoils⟩ | ⟨loaded, loads, follows⟩
    · exact absurd spoils (holds.sound (not_stops_modifiable hv) m)
    · exact ⟨loaded, loads, (follows.follows _ holds).of_modifiable⟩
  · intro none
    refine save_nothing (List.eq_nil_iff_forall_not_mem.mpr fun e he => ?_) hl
    obtain ⟨he, m, hm⟩ := mem_modifiable_iff.mp he
    exact none e he m hm

/-- A file that is no text is replaced, and a log file beside it does not matter. The text with
quotes and a line feed comes back, the one that is no number leaves the default, and the name that
may not be changed is left out. -/
theorem load_inverts_save_of_spoilt :
    let path : FilePath := ⟨"", ["overrides.json"]⟩
    let entries : List (LooseText × Json) :=
      [(("LOG_FILE_PATH" : String), .text ("\"\u00fc\n" : String)),
        (("SERVICE_POLL_ATTEMPTS" : String), .text ("many" : String)),
        (("PIPE_NAME" : String), .text ("other" : String))]
    let s : Scene Unit := ⟨{
      files := ⟨[(path, .file [0xFF])]⟩
      logging := { handlers :=
        [⟨Level.info, .console⟩, ⟨Level.debug, .file ⟨"", ["client.log"]⟩ 5242880 3⟩] } }, ()⟩
    outcome (save path entries) s = .ok () ∧
      ∃ loaded, outcome (load {} path) (after (save path entries) s) = .ok loaded ∧
        loaded.value .logFile = .text "\"\u00fc\n" ∧ loaded.value .pollAttempts = .whole 60 ∧
        loaded.get? "PIPE_NAME" = some (.text "ProcessGuardService") := by
  intro path entries s
  have there : s.world.files.read path = .ok [0xFF] := read_alone _
  have savable : ∀ e ∈ entries, Savable e.2 := by
    simp only [entries, List.forall_mem_cons]
    exact ⟨.text (LooseText.whole_ofString _), .text (LooseText.whole_ofString _),
      .text (LooseText.whole_ofString _), nofun⟩
  have other : ∀ suffix, "client.log" ++ suffix ≠ "overrides.json" := by
    intro suffix e
    have first := congrArg (fun name => name.toList.head?) e
    simp at first
  have elsewhere : ∀ handler ∈ s.world.logging.handlers, handler.Elsewhere path := by
    simp only [s, List.forall_mem_cons]
    exact ⟨Handler.elsewhere_console path rfl,
      Handler.elsewhere_file rfl (.of_names (by decide) (by decide) other), nofun⟩
  have restores := (load_inverts_save {} path entries (by decide) savable s elsewhere).1
    ⟨_, List.mem_cons_self, .logFile, rfl⟩ (Files.writable_of_read there)
  obtain ⟨loaded, loads, follows⟩ := restores.loads
  exact ⟨restores.saves, loaded, loads, follows.changed .logFile, follows.changed .pollAttempts,
    follows.fixed "PIPE_NAME" rfl⟩

end Overrides

end Vigil
