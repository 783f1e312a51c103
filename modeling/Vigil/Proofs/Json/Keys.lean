import Vigil.Json.Basic

/-!
# The keys of an object

The fields of an object come from its members one by one: a key that was there before gets the new
value in its place, and any other key stands at the end. So every key stands there once, and members
without a repeated key are the fields themselves.

* `nodup_fieldsOf`: putting members one by one repeats no key.
* `fieldsOf_of_nodup`: members without a repeated key are the fields.
* `get?_eq_some_iff`: the value of a key is that of its field.
-/

namespace Vigil.Json

/-- A key of an object. -/
def HasKey (fields : List (LooseText × Json)) (key : LooseText) : Prop :=
  key ∈ fields.map Prod.fst

theorem hasKey_put {key k : LooseText} {value : Json} {fields : List (LooseText × Json)} :
    HasKey (put key value fields) k ↔ k = key ∨ HasKey fields k := by
  unfold HasKey
  induction fields with
  | nil => simp [put]
  | cons f rest ih =>
    obtain ⟨name, old⟩ := f
    by_cases h : name = key
    · subst h
      simp [put]
    · simp only [put, if_neg h, List.map_cons, List.mem_cons, ih]
      exact or_left_comm

theorem nodup_put {fields : List (LooseText × Json)} (h : (fields.map Prod.fst).Nodup)
    (key : LooseText) (value : Json) : ((put key value fields).map Prod.fst).Nodup := by
  induction fields with
  | nil => simp [put]
  | cons f rest ih =>
    obtain ⟨name, old⟩ := f
    simp only [List.map_cons, List.nodup_cons] at h
    by_cases hn : name = key
    · simp only [put, if_pos hn, List.map_cons, List.nodup_cons]
      exact h
    · simp only [put, if_neg hn, List.map_cons, List.nodup_cons]
      refine ⟨fun hm => ?_, ih h.2⟩
      rcases hasKey_put.mp hm with he | hk
      · exact hn he
      · exact h.1 hk

/-- The fields of an object have different keys. -/
theorem nodup_fieldsOf (members : List (LooseText × Json)) :
    ((fieldsOf members).map Prod.fst).Nodup := by
  have fold : ∀ done : List (LooseText × Json), (done.map Prod.fst).Nodup →
      ((members.foldl (fun fields m => put m.1 m.2 fields) done).map Prod.fst).Nodup := by
    induction members with
    | nil => exact fun done h => h
    | cons m rest ih => exact fun done h => ih _ (nodup_put h m.1 m.2)
  exact fold [] List.nodup_nil

theorem put_of_not_mem {key : LooseText} {fields : List (LooseText × Json)}
    (h : key ∉ fields.map Prod.fst) (value : Json) :
    put key value fields = fields ++ [(key, value)] := by
  induction fields with
  | nil => rfl
  | cons f rest ih =>
    rw [List.map_cons, List.mem_cons, not_or] at h
    rw [put, if_neg (Ne.symm h.1), ih h.2]
    rfl

/-- Members without a repeated key are the fields. -/
theorem fieldsOf_of_nodup {members : List (LooseText × Json)}
    (h : (members.map Prod.fst).Nodup) : fieldsOf members = members := by
  have fold : ∀ (done rest : List (LooseText × Json)),
      ((done ++ rest).map Prod.fst).Nodup →
      rest.foldl (fun fields m => put m.1 m.2 fields) done = done ++ rest := by
    intro done rest
    induction rest generalizing done with
    | nil => simp
    | cons m rest ih =>
      intro hd
      have fresh : m.1 ∉ done.map Prod.fst := by
        rw [List.map_append, List.map_cons] at hd
        exact fun hm => (List.nodup_append.mp hd).2.2 _ hm _ List.mem_cons_self rfl
      rw [List.foldl_cons, put_of_not_mem fresh, ih _ (by simpa using hd), List.append_assoc]
      rfl
  exact fold [] members h

/-- The value of a key that no field has. -/
theorem get?_eq_none {fields : List (LooseText × Json)} {key : LooseText}
    (h : ¬HasKey fields key) : get? key fields = none := by
  induction fields with
  | nil => rfl
  | cons f rest ih =>
    unfold HasKey at h ih
    rw [List.map_cons, List.mem_cons, not_or] at h
    rw [get?, if_neg (Ne.symm h.1)]
    exact ih h.2

/-- Where no key is repeated, the value of a key is that of its field. -/
theorem get?_eq_some_iff {fields : List (LooseText × Json)} (h : (fields.map Prod.fst).Nodup)
    {key : LooseText} {value : Json} : get? key fields = some value ↔ (key, value) ∈ fields := by
  induction fields with
  | nil => exact ⟨nofun, nofun⟩
  | cons f rest ih =>
    obtain ⟨name, old⟩ := f
    rw [List.map_cons, List.nodup_cons] at h
    by_cases hn : name = key
    · subst hn
      have gone : (name, value) ∉ rest := fun hm => h.1 (List.mem_map.mpr ⟨_, hm, rfl⟩)
      simp [get?, gone, eq_comm]
    · simp [get?, hn, Ne.symm hn, ih h.2]

end Vigil.Json
