import Mathlib.Data.Finset.Insert
import Vigil.Proofs.Protocol.Skipped

/-!
# Fields that a record leaves out

What an item has in a field that nothing is said of is written twice: in what a new item has, and in
what its record is read by. The two agree in all fields but one: a new item is enabled, and a record
that does not say so is read as an item that is not.

* `Item.build`: the item that is built of the fields that are given.
* `Field.Looks`: a reader of one field, told by the value of its key.
* `Item.ofJson_leaveOut_iff`: what a record comes to that leaves out fields, and when that is the
  item that is built of the others.
* `Item.ofJson_of_unsaid`: a record that leaves out one field and is read as another item.
-/

namespace Vigil

open Json

/-! ## Optional fields -/

/-- A field that the record of an item may leave out. -/
inductive OptionalField where
  | args
  | minimize
  | noWindow
  | enabled
  | heartbeatTimeout
  deriving Repr, DecidableEq

/-- The key of a field. -/
def OptionalField.key : OptionalField → String
  | .args => "args"
  | .minimize => "minimize"
  | .noWindow => "no_window"
  | .enabled => "enabled"
  | .heartbeatTimeout => "heartbeat_timeout_ms"

theorem OptionalField.key_inj {field other : OptionalField} (h : field.key = other.key) :
    field = other := by
  revert h
  cases field <;> cases other <;> decide

namespace Item

/-- What is given of the optional fields of a new item. -/
structure Given where
  args : Option LooseText := none
  minimize : Option Bool := none
  noWindow : Option Bool := none
  enabled : Option Bool := none
  heartbeatTimeout : Option Int := none

/-- The item that is built of the fields that are given: what is not given has the value that a new
item has. -/
def build (id exePath name : LooseText) (given : Given) : Item :=
  let bare : Item := { id, exePath, name }
  { bare with
    args := given.args.getD bare.args
    minimize := given.minimize.getD bare.minimize
    noWindow := given.noWindow.getD bare.noWindow
    enabled := given.enabled.getD bare.enabled
    heartbeatTimeout := given.heartbeatTimeout.getD bare.heartbeatTimeout }

/-- The optional fields of an item, but for some that are left out. -/
def givenBut (left : Finset OptionalField) (item : Item) : Given where
  args := if .args ∈ left then none else some item.args
  minimize := if .minimize ∈ left then none else some item.minimize
  noWindow := if .noWindow ∈ left then none else some item.noWindow
  enabled := if .enabled ∈ left then none else some item.enabled
  heartbeatTimeout := if .heartbeatTimeout ∈ left then none else some item.heartbeatTimeout

end Item

/-! ## Leaving out -/

section

variable {α : Type} {left : Finset OptionalField} {field : OptionalField} {key : String}
  {record : List (LooseText × Json)}

/-- A record without the members under the keys of some fields. -/
def leaveOut (left : Finset OptionalField) (record : List (LooseText × Json)) :
    List (LooseText × Json) :=
  record.filter fun m => ∀ field ∈ left, m.1 ≠ field.key

/-- A document without these members, if it is an object. -/
def Json.leaveOut (left : Finset OptionalField) : Json → Json
  | .object record => .object (Vigil.leaveOut left record)
  | value => value

/-- What is left out is not there, and all else is as it was. -/
theorem get?_leaveOut (key : LooseText) :
    get? key (leaveOut left record) =
      if ∀ field ∈ left, key ≠ field.key then get? key record else none := by
  unfold leaveOut
  induction record with
  | nil => simp [get?]
  | cons m rest ih =>
    rw [List.filter_cons]
    by_cases same : m.1 = key
    · subst same
      split
      · rename_i stays
        rw [if_pos (by simpa using stays)]
        simp [get?]
      · rename_i goes
        rw [ih, if_neg (by simpa using goes), if_neg (by simpa using goes)]
    · have passed : get? key (m :: rest) = get? key rest := by simp [get?, same]
      rw [passed, ← ih]
      split
      · simp [get?, same]
      · rfl

namespace Field

/-- The reader of a field looks at the value of its key alone, and gives this where there is
none. -/
structure Looks (key : String) (default : α)
    (read : List (LooseText × Json) → Except FieldFault α) : Prop where
  missing : ∀ record, get? key record = none → read record = .ok default
  congr : ∀ record other, get? key record = get? key other → read record = read other

theorem text_looks (key : String) (default : LooseText) (nullable : Bool) :
    Looks key default (text · key default nullable) where
  missing _ h := by simp only [text, h]
  congr _ _ h := by simp only [text, h]

theorem flag_looks (key : String) (default : Bool) : Looks key default (flag · key default) where
  missing _ h := by simp only [flag, h]
  congr _ _ h := by simp only [flag, h]

theorem number_looks (key : String) (default : Int) (nullable : Bool) :
    Looks key default (number · key default nullable) where
  missing _ h := by simp only [number, h]
  congr _ _ h := by simp only [number, h]

variable {default value : α} {read : List (LooseText × Json) → Except FieldFault α}

/-- A field that must be there is read as before. -/
theorem Looks.kept (h : Looks key default read) (required : ∀ field ∈ left, key ≠ field.key) :
    read (leaveOut left record) = read record := by
  refine h.congr _ _ ?_
  rw [get?_leaveOut, if_pos]
  exact fun field hf same => required field hf (LooseText.ofString_inj.mp same)

/-- An optional field is read as before unless it is left out, and then has its default. -/
theorem Looks.optional (field : OptionalField) (h : Looks field.key default read)
    (was : read record = .ok value) :
    read (leaveOut left record) =
      .ok ((if field ∈ left then none else some value).getD default) := by
  split
  · rename_i out
    refine h.missing _ ?_
    rw [get?_leaveOut, if_neg]
    exact fun stays => stays field out rfl
  · rename_i stays
    refine (h.kept fun other ho same => stays ?_).trans was
    exact OptionalField.key_inj same ▸ ho

end Field

end

/-! ## Items -/

namespace Item

variable {left : Finset OptionalField} {record : List (LooseText × Json)} {item : Item}

/-- An item that is read from a record: each of its fields is what the reader of the field says. -/
structure ReadFrom (record : List (LooseText × Json)) (item : Item) : Prop where
  id : Field.text record "id" = .ok item.id
  exePath : Field.text record "exe_path" = .ok item.exePath
  name : Field.text record "name" = .ok item.name
  args : Field.text record "args" "" true = .ok item.args
  minimize : Field.flag record "minimize" = .ok item.minimize
  noWindow : Field.flag record "no_window" = .ok item.noWindow
  enabled : Field.flag record "enabled" = .ok item.enabled
  heartbeatTimeout : Field.number record "heartbeat_timeout_ms" defaultHeartbeatTimeout =
    .ok item.heartbeatTimeout
  whole : item.timeoutFault = none

theorem ofFields_eq_ok_iff : ofFields record = .ok item ↔ item.ReadFrom record := by
  constructor
  · intro h
    obtain ⟨_, id, h⟩ := exists_of_bind h
    obtain ⟨_, exePath, h⟩ := exists_of_bind h
    obtain ⟨_, name, h⟩ := exists_of_bind h
    obtain ⟨_, args, h⟩ := exists_of_bind h
    obtain ⟨_, minimize, h⟩ := exists_of_bind h
    obtain ⟨_, noWindow, h⟩ := exists_of_bind h
    obtain ⟨_, enabled, h⟩ := exists_of_bind h
    obtain ⟨_, heartbeatTimeout, h⟩ := exists_of_bind h
    cases h
    exact ⟨id, exePath, name, args, minimize, noWindow, enabled, heartbeatTimeout, rfl⟩
  · rintro ⟨id, exePath, name, args, minimize, noWindow, enabled, heartbeatTimeout, whole⟩
    rw [ofFields, id, exePath, name, args, minimize, noWindow, enabled, heartbeatTimeout]
    cases item
    cases whole
    rfl

theorem ofJson_eq_ok_iff {value : Json} :
    ofJson value = .ok item ↔ ∃ record, value = .object record ∧ item.ReadFrom record := by
  cases value with
  | object record =>
    rw [ofJson]
    cases e : ofFields record with
    | ok found => simp [Except.mapError, ← ofFields_eq_ok_iff, e]
    | error fault => simp [Except.mapError, ← ofFields_eq_ok_iff, e]
  | _ => simp [ofJson]

/-- The item that a record is read as that leaves out fields: the one that is built of the others,
but that it is enabled only if the record says so. -/
def readBut (left : Finset OptionalField) (item : Item) : Item :=
  { build item.id item.exePath item.name (item.givenBut left) with
    enabled := (item.givenBut left).enabled.getD false }

theorem ReadFrom.leaveOut (h : item.ReadFrom record) (left : Finset OptionalField) :
    (item.readBut left).ReadFrom (Vigil.leaveOut left record) := by
  have required {key : String} (hk : key ∈ ["id", "exe_path", "name"]) :
      ∀ field ∈ left, key ≠ field.key := by
    intro field _ same
    subst same
    revert hk
    cases field <;> decide
  constructor
  case id => exact ((Field.text_looks _ _ _).kept (required (by decide))).trans h.id
  case exePath => exact ((Field.text_looks _ _ _).kept (required (by decide))).trans h.exePath
  case name => exact ((Field.text_looks _ _ _).kept (required (by decide))).trans h.name
  case args => exact (Field.text_looks _ _ _).optional .args h.args
  case minimize => exact (Field.flag_looks _ _).optional .minimize h.minimize
  case noWindow => exact (Field.flag_looks _ _).optional .noWindow h.noWindow
  case enabled => exact (Field.flag_looks _ _).optional .enabled h.enabled
  case heartbeatTimeout =>
    exact (Field.number_looks _ _ _).optional .heartbeatTimeout h.heartbeatTimeout
  case whole => rfl

/-- An item that is built without saying whether it is enabled is, and one that is read is not. -/
theorem readBut_eq_build_iff :
    item.readBut left = build item.id item.exePath item.name (item.givenBut left) ↔
      .enabled ∉ left := by
  constructor
  · intro same out
    have enabled := congrArg Item.enabled same
    simp [readBut, build, givenBut, out] at enabled
  · intro stays
    simp [readBut, build, givenBut, stays]

/-- **What a record leaves out is what a new item has, but for one field.** A record that is read as
an item is read, whatever optional fields are left out of it, as the item that is built of its other
fields alone, except that the item is not enabled where the record does not say that it is; so it is
that very item exactly if this field is not among those that are left out. -/
theorem ofJson_leaveOut_iff {value : Json} (left : Finset OptionalField)
    (read : ofJson value = .ok item) :
    ofJson (value.leaveOut left) = .ok (item.readBut left) ∧
      (ofJson (value.leaveOut left) =
          .ok (build item.id item.exePath item.name (item.givenBut left)) ↔
        .enabled ∉ left) := by
  obtain ⟨fields, rfl, found⟩ := ofJson_eq_ok_iff.mp read
  have out : ofJson ((Json.object fields).leaveOut left) = .ok (item.readBut left) :=
    ofJson_eq_ok_iff.mpr ⟨_, rfl, found.leaveOut left⟩
  refine ⟨out, ?_⟩
  rw [out, Except.ok.injEq]
  exact readBut_eq_build_iff

/-- Arguments that are null and a timeout are left out: the others are kept. -/
theorem ofJson_leaveOut_iff_of_timeout :
    let record : Json := .object [("id", .text ("a" : String)), ("args", .null),
      ("minimize", .bool true), ("enabled", .bool true), ("heartbeat_timeout_ms", .int 5)]
    ofJson record = .ok { id := ("a" : String), exePath := "", name := "", minimize := true
                          heartbeatTimeout := 5 } ∧
      ofJson (record.leaveOut {.args, .heartbeatTimeout}) =
        .ok { id := ("a" : String), exePath := "", name := "", minimize := true } := by
  intro record
  have read : ofJson record = .ok { id := ("a" : String), exePath := "", name := ""
                                    minimize := true, heartbeatTimeout := 5 } := rfl
  have out := (ofJson_leaveOut_iff {.args, .heartbeatTimeout} read).2.mpr (by decide)
  simp only [build, givenBut, Finset.mem_insert, Finset.mem_singleton, reduceCtorEq, or_true,
    true_or, or_self, if_true, if_false, Option.getD_none, Option.getD_some] at out
  exact ⟨read, out⟩

/-- A record that does not say whether the item is enabled is read as an item that is not, and a new
item of the same fields is. -/
theorem ofJson_of_unsaid :
    let record : Json := .object [("id", .text ("a" : String)), ("enabled", .bool true)]
    ∃ item, ofJson record = .ok item ∧
      ofJson (record.leaveOut {.enabled}) = .ok { item with enabled := false } ∧
      build item.id item.exePath item.name (item.givenBut {.enabled}) =
        { item with enabled := true } := by
  exact ⟨{ id := ("a" : String), exePath := "", name := "" }, rfl, rfl, rfl⟩

end Item

end Vigil
