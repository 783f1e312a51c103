import Vigil.Proofs.Settings.Loading

/-!
# How far the file of overrides reaches

What the file can make of settings, whatever it holds: a setting that may be changed takes the last
value that the file gives for exactly its name, converted to its own kind, or stays as it was; all
others stay. Nothing else about the file matters, neither the order of its entries nor those that
name no such setting or cannot be converted.

* `load_eq_ok`: settings that were loaded are those from before, or they follow the file.
* `Follows.congr`: settings that follow entries are told by the entries that can be converted.
* `load_reaches`: settings that were loaded are within the reach of the file, and the same for every
  file that tells the same.
-/

namespace Vigil

/-! ## What settings are told by -/

namespace Settings

/-- A setting that may be changed has a value of its kind. -/
theorem kind?_value (s : Settings) (m : Modifiable) : (s.value m).kind? = some m.kind := by
  cases m <;> rfl

/-- Settings are the same if those that may be changed have the same values, and the others too. -/
theorem ext_value {s t : Settings} (hv : ∀ m, s.value m = t.value m)
    (hg : ∀ name, Modifiable.ofName? name = none → s.get? name = t.get? name) : s = t := by
  have text (name : String) {a b : String} (hn : Modifiable.ofName? name = none)
      (hs : s.get? name = some (.text a)) (ht : t.get? name = some (.text b)) : a = b :=
    Setting.text.inj (Option.some.inj (hs.symm.trans ((hg name hn).trans ht)))
  have whole (name : String) {a b : Int} (hn : Modifiable.ofName? name = none)
      (hs : s.get? name = some (.whole a)) (ht : t.get? name = some (.whole b)) : a = b :=
    Setting.whole.inj (Option.some.inj (hs.symm.trans ((hg name hn).trans ht)))
  have serviceName := text "SERVICE_NAME" rfl rfl rfl
  have serviceDisplay := text "SERVICE_DISPLAY_NAME" rfl rfl rfl
  have pipeName := text "PIPE_NAME" rfl rfl rfl
  have pipeBufferSize := whole "PIPE_BUFFER_SIZE" rfl rfl rfl
  have logFileMaxBytes := whole "LOG_FILE_MAX_BYTES" rfl rfl rfl
  have logFileBackups := whole "LOG_FILE_BACKUP_COUNT" rfl rfl rfl
  cases s
  cases t
  rw [mk.injEq]
  exact ⟨serviceName, serviceDisplay, pipeName, pipeBufferSize,
    Setting.seconds.inj (hv .connectTimeout), Setting.whole.inj (hv .pollAttempts),
    Setting.seconds.inj (hv .pollInterval), Setting.seconds.inj (hv .stopGrace),
    Setting.whole.inj (hv .itemTimeout), Setting.seconds.inj (hv .heartbeatInterval),
    Setting.text.inj (hv .logLevel), Setting.text.inj (hv .logFile), logFileMaxBytes,
    logFileBackups⟩

end Settings

namespace Overrides

open Act

variable {σ : Type} {defaults loaded loaded' : Settings} {path : FilePath} {s : Scene σ}
variable {entries entries' : List (LooseText × Json)}

/-! ## Entries that tell -/

/-- **An entry tells** if it names a setting that may be changed and its value can be converted. -/
def Telling (entry : LooseText × Json) : Prop :=
  ∃ m : Modifiable, entry.1 = m.name ∧ (Setting.granted? m.kind entry.2).isSome

/-- What the entry of a setting is converted to, if there is one and it can be. -/
theorem granted_eq_some_iff (h : (entries.map Prod.fst).Nodup) {m : Modifiable} {x : Setting} :
    (Json.get? m.name entries).bind (Setting.granted? m.kind) = some x ↔
      ∃ value, ((m.name : LooseText), value) ∈ entries ∧
        Setting.granted? m.kind value = some x := by
  simp only [Option.bind_eq_some_iff, Json.get?_eq_some_iff h]

/-- **Settings that follow entries are told by the entries that tell**, in whatever order they
come and whatever comes with them. -/
theorem Follows.congr (h : Follows defaults entries loaded)
    (h' : Follows defaults entries' loaded')
    (hn : (entries.map Prod.fst).Nodup) (hn' : (entries'.map Prod.fst).Nodup)
    (same : ∀ e, Telling e → (e ∈ entries ↔ e ∈ entries')) : loaded' = loaded := by
  refine Settings.ext_value (fun m => ?_) fun name hm => ?_
  · have granted : (Json.get? m.name entries').bind (Setting.granted? m.kind) =
        (Json.get? m.name entries).bind (Setting.granted? m.kind) := by
      refine Option.ext fun x => ?_
      rw [granted_eq_some_iff hn, granted_eq_some_iff hn']
      refine exists_congr fun value => and_congr_left fun hx => ?_
      exact (same (m.name, value) ⟨m, rfl, Option.isSome_of_eq_some hx⟩).symm
    rw [h'.changed, h.changed, granted]
  · exact (h'.fixed name hm).trans (h.fixed name hm).symm

/-! ## Files -/

/-- The text of a file is an object with members, as they are written in it. -/
def Gives (content : Bytes) (members : List (LooseText × Json)) : Prop :=
  ∃ text, Text.decodeUtf8 content = .ok text ∧ Json.Written (Text.unixLines text) members

/-- A file holds the object to which the members that it gives come. -/
theorem holds_object_iff {content : Bytes} {fields : List (LooseText × Json)} :
    Holds content (.object fields) ↔
      ∃ members, Gives content members ∧ fields = Json.fieldsOf members := by
  unfold Holds reading Gives
  cases Text.decodeUtf8 content with
  | error fault => exact iff_of_false nofun fun ⟨_, ⟨_, e, _⟩, _⟩ => nomatch e
  | ok text =>
    show Except.ok (Json.read (Text.unixLines text)) = Except.ok (Except.ok (Json.object fields)) ↔ _
    rw [Except.ok.injEq, Json.read_object_iff]
    refine exists_congr fun members => and_congr_left fun _ => ⟨fun h => ⟨text, rfl, h⟩, ?_⟩
    rintro ⟨text', e, h⟩
    cases e
    exact h

/-- A file that cannot be read changes no settings. -/
theorem load_unread {fault : PathFault} (hr : s.world.files.read path = .error fault)
    (h : outcome (load defaults path) s = .ok loaded) : loaded = defaults := by
  unfold load at h
  simp only [outcome_bind, outcome_world, after_world, outcome_orStumble, after_orStumble, hr] at h
  cases hh : s.world.files.has path with
  | error fault =>
    rw [hh] at h
    cases h
  | ok found =>
    rw [hh] at h
    cases found with
    | false =>
      cases h
      rfl
    | true =>
      simp only [Except.mapError, if_true, outcome_bind] at h
      split at h
      · cases h
        rfl
      · cases h

/-- **Settings that were loaded** are those from before, if the file gives no members, and else
follow what its members come to. -/
theorem load_eq_ok (h : outcome (load defaults path) s = .ok loaded) :
    (∀ content members, s.world.files.read path = .ok content → Gives content members →
      Follows defaults (Json.fieldsOf members) loaded) ∧
      ((∀ content members, s.world.files.read path = .ok content → ¬Gives content members) →
        loaded = defaults) := by
  cases hr : s.world.files.read path with
  | ok content =>
    rcases load_cases defaults hr with ⟨m, spoils⟩ | ⟨loaded', e, loads⟩
    · exact nomatch h.symm.trans (spoils.outcome hr)
    · cases h.symm.trans e
      refine ⟨fun content' members e gives => ?_, fun none => ?_⟩
      · cases e
        exact loads.follows _ (holds_object_iff.mpr ⟨members, gives, rfl⟩)
      · refine loads.kept fun entries holds => ?_
        obtain ⟨members, gives, -⟩ := holds_object_iff.mp holds
        exact none content members rfl gives
  | error fault =>
    exact ⟨nofun, fun _ => load_unread hr h⟩

/-! ## The reach of a file -/

/-- **How far the file reaches**: settings that may not be changed are as they were, and each of the
others keeps its kind; it has the last value that the file gives for exactly its name, converted to
that kind, or the one it had. -/
structure Reaches (defaults : Settings) (files : Files) (path : FilePath) (loaded : Settings) :
    Prop where
  fixed : ∀ name, (∀ m : Modifiable, m.name ≠ name) → loaded.get? name = defaults.get? name
  typed : ∀ m, (loaded.value m).kind? = (defaults.value m).kind?
  taken : ∀ content members, files.read path = .ok content → Gives content members →
    ∀ m : Modifiable, loaded.value m =
      ((Json.last? m.name members).bind (Setting.granted? m.kind)).getD (defaults.value m)
  kept : (∀ content members, files.read path = .ok content → ¬Gives content members) →
    loaded = defaults

/-- The file under a path is an object with an entry that tells. -/
def Tells (files : Files) (path : FilePath) (entry : LooseText × Json) : Prop :=
  Telling entry ∧ ∃ content entries, files.read path = .ok content ∧
    Holds content (.object entries) ∧ entry ∈ entries

theorem tells_iff {content : Bytes} {e : LooseText × Json}
    (hr : s.world.files.read path = .ok content) (hc : Holds content (.object entries)) :
    Tells s.world.files path e ↔ Telling e ∧ e ∈ entries := by
  refine and_congr_right fun _ => ⟨?_, fun hm => ⟨content, entries, hr, hc, hm⟩⟩
  rintro ⟨content', entries', hr', hc', hm⟩
  cases hr.symm.trans hr'
  cases hc.inj hc'
  exact hm

/-- Settings that were loaded follow entries of which those that tell are those of the file. -/
theorem exists_follows (h : outcome (load defaults path) s = .ok loaded) :
    ∃ entries : List (LooseText × Json), (entries.map Prod.fst).Nodup ∧
      Follows defaults entries loaded ∧
      ∀ e, Telling e → (e ∈ entries ↔ Tells s.world.files path e) := by
  obtain ⟨follows, kept⟩ := load_eq_ok h
  by_cases given : ∃ content members, s.world.files.read path = .ok content ∧
      Gives content members
  · obtain ⟨content, members, hr, gives⟩ := given
    have holds := holds_object_iff.mpr ⟨members, gives, rfl⟩
    refine ⟨_, holds.nodup, follows content members hr gives, fun e he => ?_⟩
    rw [tells_iff hr holds, and_iff_right he]
  · have none : ∀ content members, s.world.files.read path = .ok content → ¬Gives content members :=
      fun content members hr gives => given ⟨content, members, hr, gives⟩
    refine ⟨[], List.nodup_nil, kept none ▸ ⟨fun _ => rfl, fun _ _ => rfl⟩, fun e _ => ?_⟩
    refine ⟨nofun, ?_⟩
    rintro ⟨-, content, entries, hr, holds, -⟩
    obtain ⟨members, gives, -⟩ := holds_object_iff.mp holds
    exact absurd gives (none content members hr)

/-- Whatever the file holds, settings that are loaded are within its reach. -/
theorem reaches_of_load (h : outcome (load defaults path) s = .ok loaded) :
    Reaches defaults s.world.files path loaded := by
  obtain ⟨follows, kept⟩ := load_eq_ok h
  refine ⟨fun name hn => ?_, fun m => ?_, fun content members hr gives m => ?_, kept⟩
  · have unnamed : Modifiable.ofName? name = none :=
      Option.eq_none_iff_forall_ne_some.mpr fun m hm =>
        hn m (Modifiable.ofName?_eq_some_iff.mp hm)
    by_cases given : ∃ content members, s.world.files.read path = .ok content ∧
        Gives content members
    · obtain ⟨content, members, hr, gives⟩ := given
      exact (follows content members hr gives).fixed name unnamed
    · rw [kept fun content members hr gives => given ⟨content, members, hr, gives⟩]
  · rw [Settings.kind?_value, Settings.kind?_value]
  · rw [(follows content members hr gives).changed m, Json.get?_fieldsOf]

/-- **Overrides reach only what they may.** Whatever the file holds, settings that are loaded from it
are within its reach. They are the same for every other file that tells the same: the order of the
entries does not matter, nor do entries whose names are not those of settings that may be changed,
nor those whose values cannot be converted. -/
theorem load_reaches {τ : Type} (h : outcome (load defaults path) s = .ok loaded) :
    Reaches defaults s.world.files path loaded ∧
      ∀ (s' : Scene τ) (path' : FilePath) (loaded' : Settings),
        outcome (load defaults path') s' = .ok loaded' →
        (∀ e, Tells s.world.files path e ↔ Tells s'.world.files path' e) → loaded' = loaded := by
  refine ⟨reaches_of_load h, fun s' path' loaded' h' same => ?_⟩
  obtain ⟨entries, nodup, follows, told⟩ := exists_follows h
  obtain ⟨entries', nodup', follows', told'⟩ := exists_follows h'
  refine follows.congr follows' nodup nodup' fun e he => ?_
  rw [told e he, told' e he, same e]

/-- A name that may not be changed, a text that is no number and another order change nothing. -/
theorem load_reaches_of_noise :
    let path : FilePath := ⟨"", ["overrides.json"]⟩
    let s (text : String) : Scene Unit :=
      ⟨{ files := ⟨[(path, .file (Text.encodeUtf8 text.toList))]⟩ }, ()⟩
    let plain := "\x7b\"LOG_LEVEL\": \"DEBUG\", \"SERVICE_POLL_ATTEMPTS\": \"7\"\x7d"
    let noisy := "\x7b\"PIPE_NAME\": \"x\", \"SERVICE_POLL_ATTEMPTS\": \"7\", " ++
      "\"DEFAULT_HEARTBEAT_TIMEOUT_MS\": \"soon\", \"LOG_LEVEL\": \"DEBUG\"\x7d"
    ∃ loaded, outcome (load {} path) (s plain) = .ok loaded ∧
      outcome (load {} path) (s noisy) = .ok loaded ∧
      loaded.value .pollAttempts = .whole 7 ∧ loaded.value .logLevel = .text "DEBUG" ∧
      loaded.get? "PIPE_NAME" = some (.text "ProcessGuardService") := by
  intro path s plain noisy
  have there (text : String) :
      (s text).world.files.read path = .ok (Text.encodeUtf8 text.toList) := read_alone _
  have first : Holds (Text.encodeUtf8 plain.toList) (.object
      [(("LOG_LEVEL" : String), .text ("DEBUG" : String)),
        (("SERVICE_POLL_ATTEMPTS" : String), .text ("7" : String))]) := by
    unfold Holds plain
    cbv
  have second : Holds (Text.encodeUtf8 noisy.toList) (.object
      [(("PIPE_NAME" : String), .text ("x" : String)),
        (("SERVICE_POLL_ATTEMPTS" : String), .text ("7" : String)),
        (("DEFAULT_HEARTBEAT_TIMEOUT_MS" : String), .text ("soon" : String)),
        (("LOG_LEVEL" : String), .text ("DEBUG" : String))]) := by
    unfold Holds noisy
    cbv
  obtain ⟨loaded, e, loads⟩ := (load_follows_iff {} (there plain)).1.mpr <|
    first.sound <| not_stops <| by
      simp only [List.forall_mem_cons]
      exact ⟨not_overfull_text _ _, not_overfull_text _ _, List.forall_mem_nil _⟩
  obtain ⟨loaded', e', -⟩ := (load_follows_iff {} (there noisy)).1.mpr <|
    second.sound <| not_stops <| by
      simp only [List.forall_mem_cons]
      exact ⟨not_overfull_text _ _, not_overfull_text _ _, not_overfull_text _ _,
        not_overfull_text _ _, List.forall_mem_nil _⟩
  have unnamed (value : Json) : ¬Telling (("PIPE_NAME" : String), value) := by
    rintro ⟨m, hm, -⟩
    cases Modifiable.ofName?_render_iff.mpr hm
  have unconvertible : ¬Telling (("DEFAULT_HEARTBEAT_TIMEOUT_MS" : String),
      .text ("soon" : String)) := by
    rintro ⟨m, hm, granted⟩
    cases Modifiable.ofName?_render_iff.mpr hm
    cases granted
  have same : ∀ entry, Tells (s plain).world.files path entry ↔
      Tells (s noisy).world.files path entry := by
    intro entry
    rw [tells_iff (there plain) first, tells_iff (there noisy) second]
    refine and_congr_right fun telling => ?_
    simp only [List.mem_cons, List.not_mem_nil, or_false]
    constructor
    · rintro (rfl | rfl)
      · exact .inr (.inr (.inr rfl))
      · exact .inr (.inl rfl)
    · rintro (rfl | rfl | rfl | rfl)
      · exact absurd telling (unnamed _)
      · exact .inr rfl
      · exact absurd telling unconvertible
      · exact .inl rfl
  obtain ⟨reaches, alike⟩ := load_reaches e
  cases alike (s noisy) path loaded' e' same
  have follows := (loads.follows _ first).changed
  have pipe := reaches.fixed "PIPE_NAME" fun m => by cases m <;> decide
  exact ⟨loaded, e, e', follows .pollAttempts, follows .logLevel, pipe⟩

end Overrides

end Vigil
