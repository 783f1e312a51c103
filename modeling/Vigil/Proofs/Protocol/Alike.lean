import Mathlib
import Vigil.Proofs.Json.Members
import Vigil.Protocol.Response

/-!
# What of a reply is read

Of a reply only some keys are read: the flag and the message, and of the data of a success what the
request asks of them. A field is read by its kind, and beyond that only if it is a flag, a number or
a text; an entry that is no record is read by its kind alone. Replies that are alike in what is read
are decoded alike, down to the first fault of every entry and to what is logged.

* `Json.AlikeOn`: objects that are alike under some keys.
* `Request.Alike`: members of replies that are alike for a request.
* `Item.ofJson_congr`, `ProcessStatus.ofJson_congr`: entries that are alike come to the same.
* `Request.decode_congr`: replies that are alike are decoded alike.
-/

namespace Vigil

/-! ## Values that are read alike -/

namespace Json

/-- Values that are alike for the reader of a field: it does not look into arrays and objects. -/
inductive Alike : Json → Json → Prop
  | same (value : Json) : Alike value value
  | arrays (items others : List Json) : Alike (.array items) (.array others)
  | objects (fields others : List (LooseText × Json)) : Alike (.object fields) (.object others)

/-- Objects that are alike under some keys. That a key is not there counts as a value. -/
def AlikeOn (keys : List String) (fields others : List (LooseText × Json)) : Prop :=
  ∀ key ∈ keys, Option.Rel Alike (get? key fields) (get? key others)

/-- Entries of which these keys are read: records that are alike under the keys, or values of one
other kind. -/
inductive EntriesAlike (keys : List String) : Json → Json → Prop
  | records {fields others} (h : AlikeOn keys fields others) :
      EntriesAlike keys (.object fields) (.object others)
  | others {value other} (h : value.kind = other.kind) (none : value.kind ≠ .object) :
      EntriesAlike keys value other

/-- Arrays of entries that are alike one by one, or values of one other kind. -/
inductive ArraysAlike (keys : List String) : Json → Json → Prop
  | arrays {entries others} (h : List.Forall₂ (EntriesAlike keys) entries others) :
      ArraysAlike keys (.array entries) (.array others)
  | others {value other} (h : value.kind = other.kind) (none : value.kind ≠ .array) :
      ArraysAlike keys value other

end Json

open Json

/-- The keys of the record of an item. -/
def Item.keys : List String :=
  ["id", "exe_path", "name", "args", "minimize", "no_window", "enabled", "heartbeat_timeout_ms"]

/-- The keys of the record of a process. -/
def ProcessStatus.keys : List String :=
  ["id", "name", "exe_path", "enabled", "process_id", "last_heartbeat_ms", "heartbeat_timeout_ms",
    "restart_count", "is_alive", "is_heartbeat_ok"]

/-- Statuses that are alike: in what they say of the service, and in their entries. -/
inductive StatusesAlike : Json → Json → Prop
  | reports {fields others} (h : AlikeOn ["service_running", "total_items"] fields others)
      (entries : ArraysAlike ProcessStatus.keys ((get? "items" fields).getD .null)
        ((get? "items" others).getD .null)) : StatusesAlike (.object fields) (.object others)
  | others {value other} (h : value.kind = other.kind) (none : value.kind ≠ .object) :
      StatusesAlike value other

namespace Request

/-- The data of two replies are alike for a request. All data are for one that asks for none. -/
def DataAlike : Request → Json → Json → Prop
  | .list => ArraysAlike Item.keys
  | .status => StatusesAlike
  | _ => fun _ _ => True

/-- **Replies that are alike for a request**, by the values that their keys have: in the flag and
the message, and in the data if they are a success. -/
structure Alike (r : Request) (view other : LooseText → Option Json) : Prop where
  success : Option.Rel Json.Alike (view "success") (other "success")
  message : Option.Rel Json.Alike (view "message") (other "message")
  data : view "success" = some (.bool true) →
    r.DataAlike ((view "data").getD .null) ((other "data").getD .null)

end Request

/-! ## Fields -/

section Fields

variable {keys : List String} {fields others : List (LooseText × Json)} {key : String}

theorem Field.text_alike (h : AlikeOn keys fields others) (hk : key ∈ keys) (default : LooseText)
    (nullable : Bool) :
    Field.text fields key default nullable = Field.text others key default nullable := by
  have alike := h key hk
  unfold Field.text
  generalize get? (key : LooseText) fields = value at alike ⊢
  generalize get? (key : LooseText) others = other at alike ⊢
  cases alike with
  | none => rfl
  | some alike => cases alike <;> rfl

theorem Field.flag_alike (h : AlikeOn keys fields others) (hk : key ∈ keys) (default : Bool) :
    Field.flag fields key default = Field.flag others key default := by
  have alike := h key hk
  unfold Field.flag
  generalize get? (key : LooseText) fields = value at alike ⊢
  generalize get? (key : LooseText) others = other at alike ⊢
  cases alike with
  | none => rfl
  | some alike => cases alike <;> rfl

theorem Field.number_alike (h : AlikeOn keys fields others) (hk : key ∈ keys) (default : Int)
    (nullable : Bool) :
    Field.number fields key default nullable = Field.number others key default nullable := by
  have alike := h key hk
  unfold Field.number
  generalize get? (key : LooseText) fields = value at alike ⊢
  generalize get? (key : LooseText) others = other at alike ⊢
  cases alike with
  | none => rfl
  | some alike => cases alike <;> rfl

end Fields

/-! ## Entries -/

section Entries

variable {fields others : List (LooseText × Json)} {value other : Json}

theorem Item.ofFields_congr (h : AlikeOn Item.keys fields others) :
    Item.ofFields fields = Item.ofFields others := by
  unfold Item.ofFields
  simp (disch := decide) only [Field.text_alike h, Field.flag_alike h, Field.number_alike h]

theorem ProcessStatus.ofFields_congr (h : AlikeOn ProcessStatus.keys fields others) :
    ProcessStatus.ofFields fields = ProcessStatus.ofFields others := by
  unfold ProcessStatus.ofFields
  simp (disch := decide) only [Field.text_alike h, Field.flag_alike h, Field.number_alike h]

/-- What is no record is told by its kind. -/
theorem Item.ofJson_of_kind (h : value.kind ≠ .object) :
    Item.ofJson value = .error (.notObject .item value.kind) := by
  cases value with
  | object fields => exact absurd rfl h
  | _ => rfl

theorem ProcessStatus.ofJson_of_kind (h : value.kind ≠ .object) :
    ProcessStatus.ofJson value = .error (.notObject .status value.kind) := by
  cases value with
  | object fields => exact absurd rfl h
  | _ => rfl

/-- **Items that are alike come to the same**, down to the fault that is found first. -/
theorem Item.ofJson_congr (h : EntriesAlike Item.keys value other) :
    Item.ofJson value = Item.ofJson other := by
  cases h with
  | records h => rw [Item.ofJson, Item.ofJson, Item.ofFields_congr h]
  | others h none => rw [Item.ofJson_of_kind none, Item.ofJson_of_kind (h ▸ none), h]

/-- **Statuses of processes that are alike come to the same**, down to the fault that is found
first. -/
theorem ProcessStatus.ofJson_congr (h : EntriesAlike ProcessStatus.keys value other) :
    ProcessStatus.ofJson value = ProcessStatus.ofJson other := by
  cases h with
  | records h => rw [ProcessStatus.ofJson, ProcessStatus.ofJson, ProcessStatus.ofFields_congr h]
  | others h none =>
    rw [ProcessStatus.ofJson_of_kind none, ProcessStatus.ofJson_of_kind (h ▸ none), h]

/-- Entries that are read alike one by one come to the same outcomes. -/
theorem outcomes_congr {α : Type} {read : Json → Except EntryFault α} {keys : List String}
    (same : ∀ {value other}, EntriesAlike keys value other → read value = read other)
    {entries others : List Json} (h : List.Forall₂ (EntriesAlike keys) entries others) :
    outcomes read entries = outcomes read others := by
  unfold outcomes
  induction h with
  | nil => rfl
  | cons first _ rest => rw [List.map_cons, List.map_cons, same first, rest]

end Entries

/-! ## Data -/

section Data

variable {value other : Json}

/-- What is no array is told by its kind. -/
theorem decodeList_of_kind (h : value.kind ≠ .array) :
    decodeList value =
      if value.kind = .null then .ok (.items [], []) else .error (.listNotArray value.kind) := by
  cases value with
  | array entries => exact absurd rfl h
  | _ => rfl

/-- What is no object is told by its kind. -/
theorem decodeStatus_of_kind (h : value.kind ≠ .object) :
    decodeStatus value =
      if value.kind = .null then .ok (.status {}, [])
      else .error (.statusNotObject value.kind) := by
  cases value with
  | object fields => exact absurd rfl h
  | _ => rfl

theorem decodeList_congr (h : ArraysAlike Item.keys value other) :
    decodeList value = decodeList other := by
  cases h with
  | arrays h => rw [decodeList, decodeList, outcomes_congr Item.ofJson_congr h]
  | others h none => rw [decodeList_of_kind none, decodeList_of_kind (h ▸ none), h]

/-- The entries of a status are those of an array, and no entries are as good as null. -/
theorem statusEntries_of_array {fields : List (LooseText × Json)} {entries : List Json}
    (h : (get? "items" fields).getD .null = .array entries) :
    statusEntries fields = .ok entries := by
  unfold statusEntries
  cases e : get? "items" fields with
  | none => rw [e] at h; cases h
  | some value =>
    rw [e] at h
    cases (show value = .array entries from h)
    rfl

theorem statusEntries_of_kind {fields : List (LooseText × Json)}
    (h : ((get? "items" fields).getD .null).kind ≠ .array) :
    statusEntries fields =
      if ((get? "items" fields).getD .null).kind = .null then .ok []
      else .error (.entriesNotArray ((get? "items" fields).getD .null).kind) := by
  unfold statusEntries
  cases e : get? "items" fields with
  | none => rfl
  | some value =>
    rw [e] at h
    cases value with
    | array entries => exact absurd rfl h
    | _ => rfl

/-- Statuses that are alike have entries that come to the same, or the same fault. -/
theorem statusEntries_congr {fields others : List (LooseText × Json)}
    (h : ArraysAlike ProcessStatus.keys ((get? "items" fields).getD .null)
      ((get? "items" others).getD .null)) :
    (statusEntries fields).map (outcomes ProcessStatus.ofJson) =
      (statusEntries others).map (outcomes ProcessStatus.ofJson) := by
  generalize hv : (get? "items" fields).getD .null = value at h
  generalize ho : (get? "items" others).getD .null = other at h
  cases h with
  | arrays h =>
    rw [statusEntries_of_array hv, statusEntries_of_array ho]
    exact congrArg Except.ok (outcomes_congr ProcessStatus.ofJson_congr h)
  | others h none =>
    subst hv ho
    rw [statusEntries_of_kind none, statusEntries_of_kind (h ▸ none), h]

/-- A status is told by what it says of the service, and by what its entries come to. -/
theorem decodeStatus_eq (fields : List (LooseText × Json)) :
    decodeStatus (.object fields) = (do
      let found ← (statusEntries fields).map (outcomes ProcessStatus.ofJson)
      let serviceRunning ← (Field.flag fields "service_running").mapError .field
      let totalItems ← (Field.number fields "total_items").mapError .field
      pure (.status { serviceRunning, totalItems, items := kept found }, skips .status found)) := by
  rw [decodeStatus]
  cases statusEntries fields <;> rfl

theorem decodeStatus_congr (h : StatusesAlike value other) :
    decodeStatus value = decodeStatus other := by
  cases h with
  | reports h entries =>
    rw [decodeStatus_eq, decodeStatus_eq, statusEntries_congr entries]
    simp (disch := decide) only [Field.flag_alike h, Field.number_alike h]
  | others h none => rw [decodeStatus_of_kind none, decodeStatus_of_kind (h ▸ none), h]

/-- What is logged of a list is told by what its entries come to. -/
theorem listNotes_congr (h : ArraysAlike Item.keys value other) :
    Request.list.dataNotes value = Request.list.dataNotes other := by
  have nothing {v : Json} (hv : v.kind ≠ .array) : Request.list.dataNotes v = [] := by
    cases v with
    | array entries => exact absurd rfl hv
    | _ => rfl
  cases h with
  | arrays h => rw [Request.dataNotes, Request.dataNotes, outcomes_congr Item.ofJson_congr h]
  | others h none => rw [nothing none, nothing (h ▸ none)]

/-- What is logged of a status is told by what its entries come to. -/
theorem statusNotes_congr (h : StatusesAlike value other) :
    Request.status.dataNotes value = Request.status.dataNotes other := by
  have nothing {v : Json} (hv : v.kind ≠ .object) : Request.status.dataNotes v = [] := by
    cases v with
    | object fields => exact absurd rfl hv
    | _ => rfl
  have told (fields : List (LooseText × Json)) : Request.status.dataNotes (.object fields) =
      match (statusEntries fields).map (outcomes ProcessStatus.ofJson) with
      | .ok found => skipNotes "process status" found
      | .error _ => [] := by
    rw [Request.dataNotes]
    cases statusEntries fields <;> rfl
  cases h with
  | reports h entries => rw [told, told, statusEntries_congr entries]
  | others h none => rw [nothing none, nothing (h ▸ none)]

namespace Request

theorem decodeData_congr {r : Request} (h : r.DataAlike value other) :
    r.decodeData value = r.decodeData other := by
  cases r with
  | list => exact decodeList_congr h
  | status => exact decodeStatus_congr h
  | bare | add _ | update _ | remove _ | stop _ | start _ | heartbeat _ _ => rfl

theorem dataNotes_congr {r : Request} (h : r.DataAlike value other) :
    r.dataNotes value = r.dataNotes other := by
  cases r with
  | list => exact listNotes_congr h
  | status => exact statusNotes_congr h
  | bare | add _ | update _ | remove _ | stop _ | start _ | heartbeat _ _ => rfl

end Request

end Data

/-! ## Replies -/

/-- The text of a reply is an object with members, as they are written in it. -/
def Spells (raw : Bytes) (members : List (LooseText × Json)) : Prop :=
  ∃ text, Text.decodeUtf8 raw = .ok text ∧ Json.Written text members

/-- What is read is an object if and only if the text is one, with the fields to which its members
come. -/
theorem readDocument_object_iff {raw : Bytes} {fields : List (LooseText × Json)} :
    readDocument raw = .ok (.object fields) ↔
      ∃ members, Spells raw members ∧ fields = fieldsOf members := by
  unfold readDocument Spells
  cases Text.decodeUtf8 raw with
  | error fault => exact iff_of_false nofun fun ⟨_, ⟨_, e, _⟩, _⟩ => nomatch e
  | ok text =>
    have parsed : (Json.read text).mapError ProtocolFault.notDocument = .ok (.object fields) ↔
        Json.read text = .ok (.object fields) := by
      cases Json.read text with
      | ok value => simp [Except.mapError]
      | error fault => exact iff_of_false nofun nofun
    refine parsed.trans (Json.read_object_iff.trans ?_)
    refine exists_congr fun members => and_congr_left fun _ => ⟨fun h => ⟨text, rfl, h⟩, ?_⟩
    rintro ⟨text', e, h⟩
    cases e
    exact h

namespace Request

variable {r : Request} {fields others : List (LooseText × Json)}

theorem replyMessage_congr (h : Option.Rel Json.Alike (get? "message" fields)
    (get? "message" others)) : replyMessage fields = replyMessage others := by
  unfold replyMessage
  generalize get? "message" fields = value at h ⊢
  generalize get? "message" others = other at h ⊢
  cases h with
  | none => rfl
  | some alike => cases alike <;> rfl

theorem decodeFields_congr (h : r.Alike (get? · fields) (get? · others)) :
    r.decodeFields fields = r.decodeFields others := by
  obtain ⟨success, message, data⟩ := h
  unfold decodeFields
  rw [replyMessage_congr message]
  generalize get? "success" fields = value at success data ⊢
  generalize get? "success" others = other at success ⊢
  cases success with
  | none => rfl
  | some alike =>
    cases alike with
    | same =>
      rename_i value
      cases value with
      | bool b =>
        -- the data are looked at in a success only
        cases b with
        | true => simp only [decodeData_congr (data rfl)]
        | false => rfl
      | _ => rfl
    | _ => rfl

/-- What is logged of a reply is told by the same of its fields. -/
theorem notes_congr {raw raw' : Bytes} (document : readDocument raw = .ok (.object fields))
    (document' : readDocument raw' = .ok (.object others))
    (h : r.Alike (get? · fields) (get? · others)) : r.notes raw = r.notes raw' := by
  obtain ⟨success, message, data⟩ := h
  unfold notes
  simp only [document, document', replyMessage_congr message]
  generalize get? "success" fields = value at success data ⊢
  generalize get? "success" others = other at success ⊢
  cases success with
  | none => rfl
  | some alike =>
    cases alike with
    | same =>
      rename_i value
      cases value with
      | bool b =>
        cases b with
        | true => rw [dataNotes_congr (data rfl)]
        | false => rfl
      | _ => rfl
    | _ => rfl

/-- **Of a reply only the fields of the protocol are read.** For every request, two texts of objects
whose members come to values that are alike give the same response or the same fault, and the same
is logged. So neither the order of keys matters, nor do keys that the protocol does not know, the
members of a key before its last one, the data of an acknowledgement and those of a rejection. -/
theorem decode_congr {raw raw' : Bytes} {members members' : List (LooseText × Json)}
    (h : Spells raw members) (h' : Spells raw' members')
    (alike : r.Alike (last? · members) (last? · members')) :
    r.decode raw = r.decode raw' ∧ r.notes raw = r.notes raw' := by
  have document := readDocument_object_iff.mpr ⟨members, h, rfl⟩
  have document' := readDocument_object_iff.mpr ⟨members', h', rfl⟩
  have fields : r.Alike (get? · (fieldsOf members)) (get? · (fieldsOf members')) := by
    simpa only [get?_fieldsOf] using alike
  refine ⟨?_, notes_congr document document' fields⟩
  rw [decode, decode, document, document']
  exact decodeFields_congr fields

/-- Another order, unknown keys, a repeated key and another number in the place of an item change
nothing. -/
theorem decode_congr_of_noise :
    let plain := Text.encodeUtf8
      "\x7b\"success\": true, \"data\": [\x7b\"id\": \"a\"\x7d, 7]\x7d".toList
    let noisy := Text.encodeUtf8 ("\x7b\"x\": null, \"data\": 0, " ++
      "\"data\": [\x7b\"id\": 7, \"y\": 2, \"id\": \"a\"\x7d, 8], \"success\": true\x7d").toList
    list.decode plain = list.decode noisy ∧ list.notes plain = list.notes noisy := by
  intro plain noisy
  let fields : List (LooseText × Json) := [("success", .bool true),
    ("data", .array [.object [("id", .text "a")], .int 7])]
  let others : List (LooseText × Json) := [("x", .null),
    ("data", .array [.object [("id", .text "a"), ("y", .int 2)], .int 8]), ("success", .bool true)]
  have document : readDocument plain = .ok (.object fields) := by
    unfold plain fields
    cbv
  have document' : readDocument noisy = .ok (.object others) := by
    unfold noisy others
    cbv
  obtain ⟨members, spelled, e⟩ := readDocument_object_iff.mp document
  obtain ⟨members', spelled', e'⟩ := readDocument_object_iff.mp document'
  have absent : ∀ key ∈ Item.keys.tail, get? key [("id", .text "a")] = none ∧
      get? key [("id", .text "a"), ("y", .int 2)] = none := by
    simp only [← Option.isNone_iff_eq_none]
    decide
  have record : EntriesAlike Item.keys (.object [("id", .text "a")])
      (.object [("id", .text "a"), ("y", .int 2)]) := by
    refine .records (List.forall_mem_cons.mpr ⟨.some (.same _), fun key hk => ?_⟩)
    rw [(absent key hk).1, (absent key hk).2]
    exact .none
  have alike : list.Alike (get? · fields) (get? · others) :=
    { success := .some (.same _)
      message := .none
      data := fun _ => .arrays (.cons record (.cons (.others rfl (by decide)) .nil)) }
  refine decode_congr spelled spelled' ?_
  simpa only [← get?_fieldsOf, ← e, ← e'] using alike

end Request

end Vigil
