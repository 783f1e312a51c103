import Vigil.Proofs.Protocol.Encoding
import Vigil.Proofs.Protocol.Tolerant

/-!
# Items come back from the wire

The record that a request puts on the wire for an item is read back as the item, with the arguments
that the record may leave out. So a supervisor that answers a list with the records it was sent
gives the client the items it was sent.

* `Item.ofJson_fields`: the record of an item is read as the item.
* `Request.decode_of_records`: what a list of such records comes to, in whatever reply it stands.
* `Request.items_come_back`: items that are added, and listed by what the requests held, are the
  items that were added.
-/

namespace Vigil

open Json

/-! ## One record -/

namespace Item

/-- The arguments are read back, from a record that has them and from one that leaves them out. -/
theorem text_args (i : Item) : Field.text i.fields "args" "" true = .ok i.args := by
  unfold fields argsField
  split
  · rename_i h
    have empty : i.args = LooseText.ofString "" := by
      cases hp : i.args with
      | mk points =>
        rw [hp] at h
        exact congrArg LooseText.mk (List.isEmpty_iff.mp h)
    rw [empty]
    rfl
  · rfl

/-- **The record of an item is read as the item**, if its timeout is a whole number. -/
theorem ofFields_fields {i : Item} (h : i.timeoutFault = none) : ofFields i.fields = .ok i := by
  have id : Field.text i.fields "id" = .ok i.id := rfl
  have exePath : Field.text i.fields "exe_path" = .ok i.exePath := rfl
  have name : Field.text i.fields "name" = .ok i.name := rfl
  have minimize : Field.flag i.fields "minimize" = .ok i.minimize := rfl
  have noWindow : Field.flag i.fields "no_window" = .ok i.noWindow := rfl
  have enabled : Field.flag i.fields "enabled" = .ok i.enabled := rfl
  have timeout : Field.number i.fields "heartbeat_timeout_ms" defaultHeartbeatTimeout =
      .ok i.heartbeatTimeout := rfl
  rw [ofFields, id, exePath, name, i.text_args, minimize, noWindow, enabled, timeout]
  cases i
  cases h
  rfl

theorem ofJson_fields {i : Item} (h : i.timeoutFault = none) :
    ofJson (.object i.fields) = .ok i := by
  rw [ofJson, ofFields_fields h]
  rfl

end Item

/-! ## A list of records -/

/-- Of entries that are all read, all are kept in their order. -/
theorem kept_map_ok {α : Type} (records : List α) : kept (records.map .ok) = records := by
  rw [kept, List.filterMap_map]
  exact List.filterMap_some

/-- Of entries that are all read, none is skipped. -/
theorem skips_map_ok {α : Type} (what : EntryKind) (records : List α) :
    skips what (records.map .ok) = [] := by
  rw [skips, faults, List.filterMap_map]
  exact congrArg _ (List.filterMap_eq_nil_iff.mpr fun _ _ => rfl)

/-- Records of items are all kept, in their order, and none is skipped. -/
theorem decodeList_records {items : List Item} (h : ∀ i ∈ items, i.timeoutFault = none) :
    decodeList (.array (items.map fun i => .object i.fields)) = .ok (.items items, []) := by
  have read : outcomes Item.ofJson (items.map fun i => .object i.fields) = items.map .ok := by
    rw [outcomes, List.map_map]
    exact List.map_congr_left fun i hi => Item.ofJson_fields (h i hi)
  simp only [decodeList, read, kept_map_ok, skips_map_ok]

namespace Request

/-- What a reply with records of items comes to, whatever else stands in it. -/
theorem decode_of_records {items : List Item} (h : ∀ i ∈ items, i.timeoutFault = none)
    {raw : Bytes} {fields : List (LooseText × Json)} {message : Option LooseText}
    (hraw : readDocument raw = .ok (.object fields))
    (hsuccess : get? "success" fields = some (.bool true))
    (hdata : get? "data" fields = some (.array (items.map fun i => .object i.fields)))
    (hmessage : replyMessage fields = .ok message) :
    Request.list.decode raw = .ok { success := true, message, content := .items items } :=
  decode_of_data hraw hsuccess hmessage hdata (decodeList_records h)

/-! ## Texts on the wire -/

/-- The text of a request to add an item, around the text of the item's record. -/
def addText (config : List Char) : List Char :=
  '{' :: quote "type" ++ ':' :: quote "add" ++ ',' :: quote "config" ++ ':' :: config ++ ['}']

/-- The text of a reply that lists records, around their texts. -/
def listText (configs : List (List Char)) : List Char :=
  '{' :: quote "success" ++ ':' :: "true".toList ++ ',' :: quote "data" ++
    ':' :: '[' :: [','].intercalate configs ++ [']', '}']

theorem compact_add (i : Item) : compact (add i).payload = addText (compact (.object i.fields)) := by
  simp [payload, tag, body, compact, compactFields, scalar, addText]

theorem compactItems_eq_intercalate (items : List Json) :
    compactItems items = [','].intercalate (items.map compact) := by
  induction items with
  | nil => rfl
  | cons v items ih =>
    cases items with
    | nil => simp [compactItems, List.intercalate]
    | cons w items =>
      rw [compactItems_cons_cons, ih]
      simp [List.intercalate]

/-- The document of a reply that lists records. -/
def listing (documents : List Json) : Json :=
  .object [("success", .bool true), ("data", .array documents)]

theorem compact_listing (documents : List Json) :
    compact (listing documents) = listText (documents.map compact) := by
  simp [listing, compact, compactFields, scalar, listText, compactItems_eq_intercalate]

/-- A reply of success with plain data is plain. -/
theorem plain_reply {data : Json} {d : Nat} (h : Plain d data) :
    Plain (d + 1) (.object [("success", .bool true), ("data", data)]) := by
  have keys : (["success", "data"] : List LooseText).Nodup := by decide
  refine .object (fun f hf => ?_) keys fun f hf => ?_
  · rcases List.mem_cons.mp hf with rfl | hf
    · exact LooseText.whole_ofString _
    · exact List.mem_singleton.mp hf ▸ LooseText.whole_ofString _
  · rcases List.mem_cons.mp hf with rfl | hf
    · exact .bool true
    · exact List.mem_singleton.mp hf ▸ h

/-- **Items come back from the wire.** What requests to add items put on the wire for them, listed
by a supervisor, is decoded as these items, in order and with nothing skipped: in the reply that
holds their texts and nothing else, and in every reply whose data are what their texts say. -/
theorem items_come_back {items : List Item} (h : ∀ i ∈ items, i.Whole ∧ (add i).Sendable) :
    ∃ config : Item → List Char,
      (∀ i ∈ items, (add i).encode = .ok (Text.encodeUtf8 (addText (config i)))) ∧
      list.decode (Text.encodeUtf8 (listText (items.map config))) =
        .ok { success := true, content := .items items } ∧
      ∀ {raw : Bytes} {fields : List (LooseText × Json)} {data : List Json}
        {message : Option LooseText}, readDocument raw = .ok (.object fields) →
        get? "success" fields = some (.bool true) → get? "data" fields = some (.array data) →
        items.map (fun i => read (config i)) = data.map .ok →
        replyMessage fields = .ok message →
        list.decode raw = .ok { success := true, message, content := .items items } := by
  have faultless : ∀ i ∈ items, i.timeoutFault = none := fun i hi => (h i hi).2.whole
  have plain (d : Nat) : ∀ i ∈ items, Plain (d + 1) (.object i.fields) := fun i hi =>
    i.plain_fields (h i hi).1 ((h i hi).2.short _ rfl) d
  refine ⟨fun i => compact (.object i.fields), fun i hi => ?_, ?_, ?_⟩
  · rw [(h i hi).2.encode, compact_add]
  · have listed : Plain Limits.standard.depth
        (listing (items.map fun i => .object i.fields)) := by
      refine plain_reply (d := 989) (.array fun v hv => ?_)
      obtain ⟨i, hi, rfl⟩ := List.mem_map.mp hv
      exact plain 987 i hi
    have reply := readDocument_compact listed
    rw [compact_listing, List.map_map] at reply
    exact decode_of_records faultless reply rfl rfl rfl
  · intro raw fields data message hraw hsuccess hdata hread hmessage
    have values : (items.map fun i => Json.object i.fields) = data := by
      refine (List.map_inj_right fun _ _ => Except.ok.inj).mp (Eq.trans ?_ hread)
      rw [List.map_map]
      exact List.map_congr_left fun i hi => (read_compact (plain 989 i hi)).symm
    rw [← values] at hdata
    exact decode_of_records faultless hraw hsuccess hdata hmessage

/-- Two items that are added and listed: one whose name is empty and whose arguments need escapes,
and one that has no arguments. -/
theorem items_come_back_of_two :
    let quoted : Item :=
      { id := "a", exePath := "C:\\é.exe", name := "", args := "\"😀\"\n"
        enabled := false, heartbeatTimeout := -5 }
    let bare : Item := { id := "b", exePath := "/bin/b", name := "B" }
    (∀ i ∈ [quoted, bare], i.Whole ∧ (add i).Sendable) ∧
      ∃ config : Item → List Char,
        list.decode (Text.encodeUtf8 (listText ([quoted, bare].map config))) =
          .ok { success := true, content := .items [quoted, bare] } := by
  intro quoted bare
  have whole : ∀ s : String, (LooseText.ofString s).Whole := LooseText.whole_ofString
  have sendable : ∀ i ∈ [quoted, bare], i.Whole ∧ (add i).Sendable := by
    intro i hi
    simp only [List.mem_cons, List.not_mem_nil, or_false] at hi
    have short (n : Int) (hn : n.natAbs < Nat.pow 2 10) : Number.tooLongToWrite n = false :=
      Number.not_tooLongToWrite hn (by decide)
    rcases hi with rfl | rfl
    · refine ⟨⟨whole _, whole _, whole _, whole _⟩, rfl, fun n hn => ?_⟩
      obtain rfl : -5 = n := Option.some.inj hn
      exact short _ (by decide)
    · refine ⟨⟨whole _, whole _, whole _, whole _⟩, rfl, fun n hn => ?_⟩
      obtain rfl : defaultHeartbeatTimeout = n := Option.some.inj hn
      exact short _ (by decide)
  obtain ⟨config, -, reply, -⟩ := items_come_back sendable
  exact ⟨sendable, config, reply⟩

end Request

end Vigil
