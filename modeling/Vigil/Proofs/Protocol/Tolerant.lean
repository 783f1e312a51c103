import Vigil.Protocol.Response

/-!
# Entries that cannot be read

A reply to a list or to a status brings entries. Each of them gives one record, or one error if it
cannot be read, whatever stands beside it: `Tolerant` says so of the records and the errors that
entries come to, by what one entry comes to and by what two arrays come to that are joined.

* `tolerant_outcomes`: what the entries of a reply come to is of this kind.
* `Request.decode_list`, `Request.decode_status`: the replies that bring entries.
-/

namespace Vigil

open Json

/-- How entries are read: the records and the errors that arrays of them come to. -/
structure Tolerant {α : Type} (read : Json → Except EntryFault α) (what : EntryKind)
    (records : List Json → List α) (skipped : List Json → List ProtocolFault) : Prop where
  /-- An entry that can be read gives its record and no error. -/
  record : ∀ {entry a}, read entry = .ok a → records [entry] = [a] ∧ skipped [entry] = []
  /-- Any other entry gives its error and no record. -/
  skip : ∀ {entry fault}, read entry = .error fault →
    records [entry] = [] ∧ skipped [entry] = [.skipped what fault]
  records_append : ∀ entries others, records (entries ++ others) = records entries ++ records others
  skipped_append : ∀ entries others, skipped (entries ++ others) = skipped entries ++ skipped others
  count : ∀ entries, (records entries).length + (skipped entries).length = entries.length
  last_eq_none_iff : ∀ entries,
    (skipped entries).getLast? = none ↔ ∀ entry ∈ entries, ∃ a, read entry = .ok a

section Entries

variable {α : Type} {read : Json → Except EntryFault α} {what : EntryKind} {entry : Json}

/-- The records of the entries that can be read. -/
def recordsOf (read : Json → Except EntryFault α) (entries : List Json) : List α :=
  kept (outcomes read entries)

/-- The errors of the entries that cannot be read. -/
def skippedOf (read : Json → Except EntryFault α) (what : EntryKind) (entries : List Json) :
    List ProtocolFault :=
  skips what (outcomes read entries)

theorem recordsOf_cons_ok {a : α} (h : read entry = .ok a) (entries : List Json) :
    recordsOf read (entry :: entries) = a :: recordsOf read entries := by
  simp [recordsOf, kept, outcomes, h, Except.toOption]

theorem recordsOf_cons_error {fault : EntryFault} (h : read entry = .error fault)
    (entries : List Json) : recordsOf read (entry :: entries) = recordsOf read entries := by
  simp [recordsOf, kept, outcomes, h, Except.toOption]

theorem skippedOf_cons_ok {a : α} (h : read entry = .ok a) (entries : List Json) :
    skippedOf read what (entry :: entries) = skippedOf read what entries := by
  simp [skippedOf, skips, faults, outcomes, h]

theorem skippedOf_cons_error {fault : EntryFault} (h : read entry = .error fault)
    (entries : List Json) :
    skippedOf read what (entry :: entries) =
      .skipped what fault :: skippedOf read what entries := by
  simp [skippedOf, skips, faults, outcomes, h]

theorem recordsOf_append (entries others : List Json) :
    recordsOf read (entries ++ others) = recordsOf read entries ++ recordsOf read others := by
  simp [recordsOf, kept, outcomes]

theorem skippedOf_append (entries others : List Json) :
    skippedOf read what (entries ++ others) =
      skippedOf read what entries ++ skippedOf read what others := by
  simp [skippedOf, skips, faults, outcomes]

/-- Every entry counts once, as a record or as an error. -/
theorem length_recordsOf_add (entries : List Json) :
    (recordsOf read entries).length + (skippedOf read what entries).length = entries.length := by
  induction entries with
  | nil => rfl
  | cons entry entries ih =>
    cases h : read entry with
    | ok a =>
      rw [recordsOf_cons_ok h, skippedOf_cons_ok h, List.length_cons, List.length_cons, ← ih]
      omega
    | error fault =>
      rw [recordsOf_cons_error h, skippedOf_cons_error h, List.length_cons, List.length_cons, ← ih]
      omega

/-- Nothing is skipped if and only if every entry can be read. -/
theorem skippedOf_eq_nil_iff (entries : List Json) :
    skippedOf read what entries = [] ↔ ∀ entry ∈ entries, ∃ a, read entry = .ok a := by
  induction entries with
  | nil => exact ⟨fun _ => List.forall_mem_nil _, fun _ => rfl⟩
  | cons entry entries ih =>
    rw [List.forall_mem_cons, ← ih]
    cases h : read entry with
    | ok a =>
      rw [skippedOf_cons_ok h]
      exact ⟨fun hs => ⟨⟨a, rfl⟩, hs⟩, And.right⟩
    | error fault =>
      rw [skippedOf_cons_error h]
      exact ⟨nofun, nofun⟩

/-- **What the entries of a reply come to loses nothing and makes nothing up.** -/
theorem tolerant_outcomes : Tolerant read what (recordsOf read) (skippedOf read what) where
  record h := ⟨recordsOf_cons_ok h [], skippedOf_cons_ok h []⟩
  skip h := ⟨recordsOf_cons_error h [], skippedOf_cons_error h []⟩
  records_append := recordsOf_append
  skipped_append := skippedOf_append
  count := length_recordsOf_add
  last_eq_none_iff entries := List.getLast?_eq_none_iff.trans (skippedOf_eq_nil_iff entries)

end Entries

/-! ## Replies -/

/-- The bytes are a reply of success, with these fields. -/
structure Succeeds (raw : Bytes) (fields : List (LooseText × Json)) : Prop where
  document : readDocument raw = .ok (.object fields)
  success : get? "success" fields = some (.bool true)
  message : ∃ message, replyMessage fields = .ok message

/-- Reading a flag looks at its own key alone. -/
theorem Field.flag_congr {fields others : List (LooseText × Json)} {key : String}
    (h : get? key fields = get? key others) (default : Bool) :
    Field.flag fields key default = Field.flag others key default := by
  rw [Field.flag, Field.flag, h]

/-- Reading a whole number looks at its own key alone. -/
theorem Field.number_congr {fields others : List (LooseText × Json)} {key : String}
    (h : get? key fields = get? key others) (default : Int) (nullable : Bool) :
    Field.number fields key default nullable = Field.number others key default nullable := by
  rw [Field.number, Field.number, h]

namespace Request

/-- A reply of success is decoded by its data. -/
theorem decode_of_data {r : Request} {raw : Bytes} {fields : List (LooseText × Json)} {data : Json}
    {message : Option LooseText} {content : Content} {skipped : List ProtocolFault}
    (hraw : readDocument raw = .ok (.object fields))
    (hsuccess : get? "success" fields = some (.bool true))
    (hmessage : replyMessage fields = .ok message) (hdata : get? "data" fields = some data)
    (decoded : r.decodeData data = .ok (content, skipped)) :
    r.decode raw = .ok { success := true, message, content, skipped } := by
  rw [decode, hraw]
  show decodeFields _ fields = _
  simp only [decodeFields, hsuccess, hmessage, hdata, Option.getD_some, bind, Except.bind, decoded]
  rfl

theorem decode_list {raw : Bytes} {fields : List (LooseText × Json)} {entries : List Json}
    (h : Succeeds raw fields) (hdata : get? "data" fields = some (.array entries)) :
    ∃ message, list.decode raw = .ok
      { success := true, message, content := .items (recordsOf Item.ofJson entries)
        skipped := skippedOf Item.ofJson .item entries } := by
  obtain ⟨message, hmessage⟩ := h.message
  exact ⟨message, decode_of_data h.document h.success hmessage hdata rfl⟩

/-- What a status says besides its entries is read from what stands beside them. -/
theorem decode_status {raw : Bytes} {fields data : List (LooseText × Json)} {entries : List Json}
    (h : Succeeds raw fields) (hdata : get? "data" fields = some (.object data))
    (hentries : get? "items" data = some (.array entries)) {running : Bool} {total : Int}
    (hrunning : Field.flag data "service_running" = .ok running)
    (htotal : Field.number data "total_items" = .ok total) :
    ∃ message, status.decode raw = .ok
      { success := true, message
        content := .status
          { serviceRunning := running, totalItems := total
            items := recordsOf ProcessStatus.ofJson entries }
        skipped := skippedOf ProcessStatus.ofJson .status entries } := by
  obtain ⟨message, hmessage⟩ := h.message
  refine ⟨message, decode_of_data h.document h.success hmessage hdata ?_⟩
  have items : statusEntries data = .ok entries := by rw [statusEntries, hentries]
  show decodeStatus (.object data) = _
  simp only [decodeStatus, items, hrunning, htotal]
  rfl

end Request

end Vigil
