import Vigil.Json.Reader
import Vigil.Proofs.Json.Keys

/-!
# The members of an object as they are written

An object that was read has every key once, but its text may give a key several values.
`Written s members` says that a text is an object with these members, in the order in which they
stand there and with their repetitions.

* `get?_fieldsOf`: the value of a key is the last one that a member gives it.
* `read_object_iff`: a text is read as an object if and only if it is written with members that
  come to the fields of the object.
* `nodup_of_read`: a document that is an object has every key once.
-/

namespace Vigil.Json

variable {limit : Option Nat} {fuel depth : Nat} {s rest : List Char}

/-! ## The last value of a key -/

/-- The value that the last member with a key gives it. -/
def last? (key : LooseText) (members : List (LooseText × Json)) : Option Json :=
  (members.reverse.find? fun m => m.1 = key).map (·.2)

theorem last?_cons (key : LooseText) (m : LooseText × Json) (members : List (LooseText × Json)) :
    last? key (m :: members) = (last? key members).or (if m.1 = key then some m.2 else none) := by
  unfold last?
  rw [List.reverse_cons, List.find?_append, List.find?_singleton]
  cases members.reverse.find? fun m => m.1 = key with
  | some found => rfl
  | none => by_cases h : m.1 = key <;> simp [h]

/-- **The value of a key is the last one that a member gives it.** -/
theorem get?_fieldsOf (key : LooseText) (members : List (LooseText × Json)) :
    get? key (fieldsOf members) = last? key members := by
  have fold : ∀ done : List (LooseText × Json),
      get? key (members.foldl (fun fields m => put m.1 m.2 fields) done) =
        (last? key members).or (get? key done) := by
    induction members with
    | nil => exact fun done => rfl
    | cons m members ih =>
      intro done
      rw [List.foldl_cons, ih, get?_put, last?_cons, Option.or_assoc]
      by_cases h : m.1 = key
      · simp [h]
      · simp [h, Ne.symm h]
  exact (fold []).trans (Option.or_none)

/-! ## Members -/

/-- A text starts with a member: a key, a colon and a value, and what stands behind the value. -/
def StartsMember (limit : Option Nat) (fuel depth : Nat) (s : List Char) (m : LooseText × Json)
    (behind : List Char) : Prop :=
  ∃ tail colon value, s = '"' :: tail ∧ readString s.length s.length [] tail = .ok (m.1, colon) ∧
    skip colon = ':' :: value ∧ readValue limit fuel depth (skip value) = .ok (m.2, behind)

/-- A text starts with members up to the end of their object, and what stands behind that. -/
inductive StartsMembers (limit : Option Nat) (depth : Nat) :
    (fuel : Nat) → List Char → List (LooseText × Json) → List Char → Prop
  | last {fuel s m behind rest} : StartsMember limit fuel depth s m behind →
      skip behind = '}' :: rest → StartsMembers limit depth (fuel + 1) s [m] rest
  | more {fuel s m behind next members rest} : StartsMember limit fuel depth s m behind →
      skip behind = ',' :: next → StartsMembers limit depth fuel (skip next) members rest →
      StartsMembers limit depth (fuel + 1) s (m :: members) rest

/-- Members start with the quote of a key. -/
theorem StartsMembers.head {members : List (LooseText × Json)}
    (h : StartsMembers limit depth fuel s members rest) : ∃ tail, s = '"' :: tail := by
  cases h with
  | last hm =>
    obtain ⟨tail, -, -, e, -⟩ := hm
    exact ⟨tail, e⟩
  | more hm =>
    obtain ⟨tail, -, -, e, -⟩ := hm
    exact ⟨tail, e⟩

/-- Behind the last member stands the end of the object. -/
theorem readMembers_last {done : List (LooseText × Json)} {m : LooseText × Json}
    {behind : List Char} (h : StartsMember limit fuel depth s m behind)
    (e : skip behind = '}' :: rest) :
    readMembers limit (fuel + 1) depth done s =
      .ok (.object (fieldsOf (m :: done).reverse), rest) := by
  obtain ⟨tail, colon, value, rfl, hkey, hcolon, hvalue⟩ := h
  rw [readMembers]
  simp only [hkey, hcolon, hvalue, e]

/-- Behind any other member stand a comma and the next one. -/
theorem readMembers_more {done : List (LooseText × Json)} {m : LooseText × Json}
    {behind next : List Char} (h : StartsMember limit fuel depth s m behind)
    (e : skip behind = ',' :: next) :
    readMembers limit (fuel + 1) depth done s =
      readMembers limit fuel depth (m :: done) (skip next) := by
  obtain ⟨tail, colon, value, rfl, hkey, hcolon, hvalue⟩ := h
  rw [readMembers]
  simp only [hkey, hcolon, hvalue, e]

/-- What is read as members starts with one, and goes on with the end or with more. -/
theorem readMembers_cases {done : List (LooseText × Json)} {value : Json}
    (h : readMembers limit (fuel + 1) depth done s = .ok (value, rest)) :
    ∃ m behind, StartsMember limit fuel depth s m behind ∧
      (skip behind = '}' :: rest ∧ value = .object (fieldsOf (m :: done).reverse) ∨
        ∃ next, skip behind = ',' :: next ∧
          readMembers limit fuel depth (m :: done) (skip next) = .ok (value, rest)) := by
  simp only [readMembers] at h
  split at h
  · rename_i tail
    split at h
    · cases h
    · rename_i key colon hkey
      split at h
      · rename_i inner hcolon
        split at h
        · cases h
        · rename_i v behind hvalue
          have member : StartsMember limit fuel depth ('"' :: tail) (key, v) behind :=
            ⟨tail, colon, inner, rfl, hkey, hcolon, hvalue⟩
          split at h
          · rename_i e
            cases h
            exact ⟨(key, v), behind, member, .inl ⟨e, rfl⟩⟩
          · rename_i e
            exact ⟨(key, v), behind, member, .inr ⟨_, e, h⟩⟩
          · cases h
      · cases h
  · cases h

/-- **Members are read as an object of their fields.** -/
theorem readMembers_eq_ok_iff {done : List (LooseText × Json)} {value : Json} :
    readMembers limit fuel depth done s = .ok (value, rest) ↔
      ∃ members, StartsMembers limit depth fuel s members rest ∧
        value = .object (fieldsOf (done.reverse ++ members)) := by
  constructor
  · intro h
    induction fuel generalizing done s with
    | zero => cases h
    | succ fuel ih =>
      obtain ⟨m, behind, hm, ⟨e, rfl⟩ | ⟨next, e, hr⟩⟩ := readMembers_cases h
      · exact ⟨[m], .last hm e, by rw [List.reverse_cons]⟩
      · obtain ⟨members, hs, rfl⟩ := ih hr
        exact ⟨m :: members, .more hm e hs, by rw [List.reverse_cons, List.append_assoc]; rfl⟩
  · rintro ⟨members, hs, rfl⟩
    induction hs generalizing done with
    | last hm e => rw [readMembers_last hm e, List.reverse_cons]
    | more hm e _ ih =>
      rw [readMembers_more hm e, ih, List.reverse_cons, List.append_assoc]
      rfl

/-! ## Objects -/

/-- **A text is an object with members**, as they are written in it. -/
inductive Written (s : List Char) : List (LooseText × Json) → Prop
  | empty {inner rest} : skip s = '{' :: inner → skip inner = '}' :: rest → skip rest = [] →
      Written s []
  | members {inner members rest} : skip s = '{' :: inner →
      StartsMembers Limits.standard.digits 989 (2 * s.length + 1) (skip inner) members rest →
      skip rest = [] → Written s members

/-- A word or a number is no object. -/
theorem readScalar_ne_object {fields : List (LooseText × Json)} :
    readScalar limit s ≠ .ok (.object fields, rest) := by
  intro h
  unfold readScalar at h
  split at h
  · rename_i found he
    cases h
    obtain ⟨w, hw, hf⟩ := List.exists_of_findSome?_eq_some he
    obtain ⟨rest', -, heq⟩ := Option.map_eq_some_iff.mp hf
    have word : w.2 = .object fields := congrArg Prod.fst heq
    revert word
    simp only [words, List.mem_cons, List.not_mem_nil, or_false] at hw
    rcases hw with rfl | rfl | rfl | rfl | rfl | rfl <;> exact nofun
  · simp only [readNumber] at h
    split at h
    · cases h
    · split at h
      · split at h <;> cases h
      · cases h

/-- Items are read as no object. -/
theorem readItems_ne_object {done : List Json} {fields : List (LooseText × Json)} :
    readItems limit fuel depth done s ≠ .ok (.object fields, rest) := by
  induction fuel generalizing done s with
  | zero => exact nofun
  | succ fuel ih =>
    intro h
    simp only [readItems] at h
    split at h
    · cases h
    · split at h
      · cases h
      · exact ih h
      · cases h

/-- A value is read as an object where it opens one and goes on with its end or with members. -/
theorem readValue_object_iff {fields : List (LooseText × Json)} :
    readValue limit (fuel + 1) (depth + 1) s = .ok (.object fields, rest) ↔
      ∃ inner, s = '{' :: inner ∧
        ((skip inner = '}' :: rest ∧ fields = []) ∨
          ∃ members, StartsMembers limit depth fuel (skip inner) members rest ∧
            fields = fieldsOf members) := by
  constructor
  · intro h
    simp only [readValue] at h
    split at h
    · cases h
    · rename_i c inner
      split at h
      · split at h <;> cases h
      · split at h
        · rename_i hc
          refine ⟨inner, by rw [hc], ?_⟩
          split at h
          · rename_i e
            cases h
            exact .inl ⟨e, rfl⟩
          · obtain ⟨members, hs, e⟩ := readMembers_eq_ok_iff.mp h
            exact .inr ⟨members, hs, Json.object.inj e⟩
        · split at h
          · split at h
            · cases h
            · exact absurd h readItems_ne_object
          · exact absurd h readScalar_ne_object
  · rintro ⟨inner, rfl, ⟨e, rfl⟩ | ⟨members, hs, rfl⟩⟩
    · simp only [readValue, Char.reduceEq, if_false, if_true, e]
    · obtain ⟨tail, e⟩ := hs.head
      have read : readMembers limit fuel depth [] (skip inner) =
          .ok (.object (fieldsOf members), rest) := readMembers_eq_ok_iff.mpr ⟨members, hs, rfl⟩
      simp only [readValue, Char.reduceEq, if_false, if_true, e] at read ⊢
      exact read

/-- No byte order mark stands in front of an object. -/
theorem head?_ne_mark {inner : List Char} (h : skip s = '{' :: inner) :
    s.head? ≠ some (Char.ofNat 0xFEFF) := by
  intro e
  obtain ⟨tail, rfl⟩ := List.head?_eq_some_iff.mp e
  rw [skip, List.dropWhile_cons_of_neg (by decide)] at h
  exact absurd (List.cons.inj h).1 (by decide)

/-- A document is an object if its value is one and nothing stands behind it. -/
theorem read_eq_object_iff {fields : List (LooseText × Json)} :
    read s = .ok (.object fields) ↔ s.head? ≠ some (Char.ofNat 0xFEFF) ∧ ∃ rest,
      readValue Limits.standard.digits (2 * s.length + 2) 990 (skip s) =
        .ok (.object fields, rest) ∧ skip rest = [] := by
  unfold read readWith readAll
  rw [show Limits.standard.depth = 990 from rfl]
  split
  · rename_i mark
    exact iff_of_false nofun fun h => h.1 mark
  · rename_i mark
    cases hv : readValue Limits.standard.digits (2 * s.length + 2) 990 (skip s) with
    | error stop => exact iff_of_false nofun fun ⟨_, _, h, _⟩ => nomatch h
    | ok found =>
      obtain ⟨value, rest⟩ := found
      dsimp only
      constructor
      · intro h
        cases hr : skip rest with
        | nil =>
          rw [hr] at h
          cases h
          exact ⟨mark, rest, rfl, hr⟩
        | cons c tail =>
          rw [hr] at h
          cases h
      · rintro ⟨-, rest', e, hr⟩
        cases e
        rw [hr]

/-- **A text is read as an object if and only if it is written with members** that come to its
fields. -/
theorem read_object_iff {fields : List (LooseText × Json)} :
    read s = .ok (.object fields) ↔ ∃ members, Written s members ∧ fields = fieldsOf members := by
  rw [read_eq_object_iff]
  constructor
  · rintro ⟨-, rest, hv, hr⟩
    obtain ⟨inner, hi, ⟨e, rfl⟩ | ⟨members, hs, rfl⟩⟩ := readValue_object_iff.mp hv
    · exact ⟨[], .empty hi e hr, rfl⟩
    · exact ⟨members, .members hi hs hr, rfl⟩
  · rintro ⟨members, hw, rfl⟩
    cases hw with
    | empty hi e hr =>
      exact ⟨head?_ne_mark hi, _, readValue_object_iff.mpr ⟨_, hi, .inl ⟨e, rfl⟩⟩, hr⟩
    | members hi hs hr =>
      exact ⟨head?_ne_mark hi, _, readValue_object_iff.mpr ⟨_, hi, .inr ⟨_, hs, rfl⟩⟩, hr⟩

/-- **A document that is an object has every key once.** -/
theorem nodup_of_read {fields : List (LooseText × Json)} (h : read s = .ok (.object fields)) :
    (fields.map Prod.fst).Nodup := by
  obtain ⟨members, -, rfl⟩ := read_object_iff.mp h
  exact nodup_fieldsOf members

end Vigil.Json
