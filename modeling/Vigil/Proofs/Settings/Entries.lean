import Vigil.Proofs.Json.Keys
import Vigil.Settings.Conversion

/-!
# Settings and entries

What entries make of settings, without the log: each of them gives its value to the setting of its
name, if there is one that may be changed and the value can be converted to its kind. `Follows`
says so for all entries at once, setting by setting, whatever their order is.

* `convert_eq_error_iff`: the values whose conversion is a mishap are those that are too large.
* `follows_settled`: the settings after entries with different names follow the entries.
-/

namespace Vigil

/-! ## Names -/

/-- A text that shows no replacement character is the string it is shown as. -/
theorem LooseText.eq_of_render {t : LooseText} {s : String} (h : t.render = s)
    (hs : Char.ofNat 0xFFFD ∉ s.toList) : t = s := by
  obtain ⟨points⟩ := t
  have shown : points.map CodePoint.shown = s.toList := by
    rw [← h, render, String.toList_ofList]
  have char : ∀ p ∈ points, CodePoint.char p.shown = p := by
    intro p hp
    cases p with
    | char c => rfl
    | half offset => exact absurd (shown ▸ List.mem_map.mpr ⟨_, hp, rfl⟩) hs
  have same : points.map (CodePoint.char ∘ CodePoint.shown) = points :=
    (List.map_congr_left char).trans (List.map_id points)
  rw [ofString, ← shown, List.map_map, same]

namespace Modifiable

/-- The setting of a name is the one that has the name. -/
theorem ofName?_eq_some_iff {name : String} {m : Modifiable} :
    ofName? name = some m ↔ m.name = name := by
  constructor
  · intro h
    simpa using List.find?_some h
  · rintro rfl
    cases m <;> rfl

/-- A key that is shown as the name of a setting is the name. -/
theorem ofName?_render_iff {key : LooseText} {m : Modifiable} :
    ofName? key.render = some m ↔ key = m.name := by
  rw [ofName?_eq_some_iff]
  constructor
  · intro h
    refine LooseText.eq_of_render h.symm ?_
    cases m <;> decide
  · rintro rfl
    exact (LooseText.render_ofString _).symm

end Modifiable

/-! ## Values -/

/-- A value that is too large for the settings of a kind, and what its conversion raises. -/
inductive TooLarge : SettingKind → Json → Mishap → Prop where
  | infinite {x : Float} : Number.truncate x = .error .infinity →
      TooLarge .whole (.real x) (.notWhole .infinity)
  | huge {n : Int} : Number.ofInt? n = none → TooLarge .seconds (.int n) .integerTooLarge

namespace Setting

/-- **Only values that are too large are mishaps**: infinity as a whole number, and an integer
beyond the doubles as seconds. -/
theorem convert_eq_error_iff {kind : SettingKind} {value : Json} {m : Mishap} :
    convert kind value = .error m ↔ TooLarge kind value m := by
  constructor
  · intro h
    cases kind with
    | whole =>
      simp only [convert, wholeOf] at h
      split at h
      · cases h
      · cases h
      · split at h
        · cases h
        · cases h
        · rename_i hx
          cases h
          exact .infinite hx
      · split at h <;> cases h
      · cases h
    | seconds =>
      simp only [convert, secondsOf] at h
      split at h
      · split at h
        · cases h
        · rename_i hn
          cases h
          exact .huge hn
      · cases h
      · cases h
      · split at h <;> cases h
      · cases h
    | text => cases h
  · intro h
    cases h with
    | infinite hx => simp only [convert, wholeOf, hx]
    | huge hn => simp only [convert, secondsOf, hn]

/-- The setting that a value is converted to, if it can be. -/
def granted? (kind : SettingKind) (value : Json) : Option Setting :=
  match convert kind value with
  | .ok (.ok setting) => some setting
  | _ => none

/-- The kind of a value, if there are settings of that kind that may be changed. -/
def kind? : Setting → Option SettingKind
  | .whole _ => some .whole
  | .seconds _ => some .seconds
  | .text _ => some .text
  | .flag _ | .names _ => none

/-- What a value is converted to has the kind that was asked for. -/
theorem kind?_of_granted {kind : SettingKind} {value : Json} {x : Setting}
    (h : granted? kind value = some x) : x.kind? = some kind := by
  unfold granted? at h
  split at h
  · rename_i setting he
    cases h
    cases kind with
    | whole =>
      simp only [convert, wholeOf] at he
      repeat' split at he
      all_goals cases he <;> rfl
    | seconds =>
      simp only [convert, secondsOf] at he
      repeat' split at he
      all_goals cases he <;> rfl
    | text =>
      cases he
      rfl
  · cases h

end Setting

namespace Settings

theorem value_assign_of_ne {m n : Modifiable} (h : n ≠ m) (s : Settings) (x : Setting) :
    (s.assign m x).value n = s.value n := by
  cases m <;> cases x <;> first | rfl | (cases n <;> first | rfl | exact absurd rfl h)

/-- A value of the kind of a setting becomes its value. -/
theorem value_assign {m : Modifiable} {x : Setting} (h : x.kind? = some m.kind) (s : Settings) :
    (s.assign m x).value m = x := by
  cases m <;> cases x <;> first | rfl | cases h

/-- No setting that may be changed has the name of another one. -/
theorem lookup_changeable {name : String} (h : Modifiable.ofName? name = none) (s : Settings) :
    (Modifiable.all.map fun m => (m.name, s.value m)).lookup name = none := by
  rw [List.lookup_eq_none_iff]
  intro p hp
  obtain ⟨m, hm, rfl⟩ := List.mem_map.mp hp
  have hne : m.name ≠ name := by simpa using List.find?_eq_none.mp h m hm
  simpa using Ne.symm hne

theorem get?_assign {name : String} (h : Modifiable.ofName? name = none) (s : Settings)
    (m : Modifiable) (x : Setting) : (s.assign m x).get? name = s.get? name := by
  unfold get? entries
  rw [List.lookup_append, List.lookup_append, lookup_changeable h, lookup_changeable h]
  cases m <;> cases x <;> rfl

end Settings

/-! ## Entries -/

namespace Overrides

variable {settings : Settings} {entries : List (LooseText × Json)}

/-- The settings after one entry, which is left out if it cannot be converted. -/
def settle (s : Settings) (entry : LooseText × Json) : Settings :=
  match Modifiable.ofName? entry.1.render with
  | none => s
  | some m =>
    match Setting.granted? m.kind entry.2 with
    | some x => s.assign m x
    | none => s

/-- The settings after all entries. -/
def settled (s : Settings) (entries : List (LooseText × Json)) : Settings := entries.foldl settle s

/-- **Settings follow entries** if every setting that may be changed has the value its entry was
converted to, the one it had before if there is no such entry or it cannot be converted, and all
other settings are as they were. -/
structure Follows (before : Settings) (entries : List (LooseText × Json)) (after : Settings) :
    Prop where
  changed : ∀ m : Modifiable, after.value m =
    ((Json.get? m.name entries).bind (Setting.granted? m.kind)).getD (before.value m)
  fixed : ∀ name, Modifiable.ofName? name = none → after.get? name = before.get? name

theorem value_settle (s : Settings) (key : LooseText) (value : Json) (m : Modifiable) :
    (settle s (key, value)).value m =
      if key = m.name then (Setting.granted? m.kind value).getD (s.value m) else s.value m := by
  by_cases h : key = m.name
  · have hn := Modifiable.ofName?_render_iff.mpr h
    rw [if_pos h]
    cases hg : Setting.granted? m.kind value with
    | none => simp only [settle, hn, hg, Option.getD_none]
    | some x =>
      simp only [settle, hn, hg, Option.getD_some]
      exact Settings.value_assign (Setting.kind?_of_granted hg) s
  · rw [if_neg h]
    unfold settle
    split
    · rfl
    · rename_i n hn
      split
      · refine Settings.value_assign_of_ne ?_ s _
        rintro rfl
        exact h (Modifiable.ofName?_render_iff.mp hn)
      · rfl

theorem get?_settle {name : String} (h : Modifiable.ofName? name = none) (s : Settings)
    (entry : LooseText × Json) : (settle s entry).get? name = s.get? name := by
  unfold settle
  split
  · rfl
  · split
    · exact Settings.get?_assign h s _ _
    · rfl

/-- **The settings after entries with different names follow the entries.** -/
theorem follows_settled (s : Settings) (h : (entries.map Prod.fst).Nodup) :
    Follows s entries (settled s entries) := by
  induction entries generalizing s with
  | nil => exact ⟨fun m => rfl, fun name _ => rfl⟩
  | cons entry rest ih =>
    obtain ⟨key, value⟩ := entry
    simp only [List.map_cons, List.nodup_cons] at h
    have later := ih (settle s (key, value)) h.2
    refine ⟨fun m => ?_, fun name hn => (later.fixed name hn).trans (get?_settle hn s _)⟩
    refine (later.changed m).trans ?_
    rw [value_settle, Json.get?]
    by_cases hk : key = m.name
    · have gone : Json.get? m.name rest = none := Json.get?_eq_none (hk ▸ h.1)
      rw [if_pos hk, if_pos hk, gone]
      rfl
    · rw [if_neg hk, if_neg hk]

end Overrides

end Vigil
