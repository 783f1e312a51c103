import Vigil.Proofs.Json.RoundTrip
import Vigil.Proofs.Number.Truncate
import Vigil.Proofs.Protocol.Sendable
import Vigil.Proofs.Text.Ascii
import Vigil.Protocol.Response

/-!
# The bytes of a request

The bytes of a request are visible ASCII and spaces, and no blank stands outside a string literal.
The document that is read from them is the payload of the request. So the bytes tell the request:
its type, its ids, its time and all of its item.

* `Request.encode_faithful`: all of this, for every request whose texts have no halves of pairs and
  whose integer can be written.
-/

namespace Vigil

open Json

/-- No text of an item has a half of a pair. -/
structure Item.Whole (i : Item) : Prop where
  id : i.id.Whole
  exePath : i.exePath.Whole
  name : i.name.Whole
  args : i.args.Whole

/-- No text of a request has a half of a pair. -/
def Request.Whole : Request → Prop
  | .add config | .update config => config.Whole
  | _ => True

namespace Item

theorem plain_fixedFields {i : Item} (hw : i.Whole)
    (hn : Number.tooLongToWrite i.heartbeatTimeout = false) (d : Nat) :
    ∀ f ∈ i.fixedFields, f.1.Whole ∧ Plain d f.2 := by
  have key (s : String) : (LooseText.ofString s).Whole := LooseText.whole_ofString s
  simp only [fixedFields, List.forall_mem_cons, List.not_mem_nil, false_implies, implies_true,
    and_true, key, true_and]
  exact ⟨.text hw.id, .text hw.exePath, .text hw.name, .bool _, .bool _, .bool _, .int hn⟩

theorem plain_argsField {i : Item} (hw : i.Whole) (d : Nat) :
    ∀ f ∈ i.argsField, f.1.Whole ∧ Plain d f.2 := by
  intro f hf
  unfold argsField at hf
  split at hf
  · cases hf
  · obtain rfl := List.mem_singleton.mp hf
    exact ⟨LooseText.whole_ofString _, .text hw.args⟩

/-- The keys of the fields that every record has. -/
def fixedKeys : List LooseText :=
  ["id", "exe_path", "name", "minimize", "no_window", "enabled", "heartbeat_timeout_ms"]

theorem nodup_fields (i : Item) : (i.fields.map Prod.fst).Nodup := by
  have fixed : i.fixedFields.map Prod.fst = fixedKeys := rfl
  have args : i.argsField.map Prod.fst = [] ∨
      i.argsField.map Prod.fst = [LooseText.ofString "args"] := by
    unfold argsField
    split
    · exact .inl rfl
    · exact .inr rfl
  rw [fields, List.map_append, fixed]
  rcases args with h | h <;> rw [h] <;> decide

/-- The record of an item is plain. -/
theorem plain_fields {i : Item} (hw : i.Whole)
    (hn : Number.tooLongToWrite i.heartbeatTimeout = false) (d : Nat) :
    Plain (d + 1) (.object i.fields) := by
  have plain : ∀ f ∈ i.fields, f.1.Whole ∧ Plain d f.2 := fun f hf =>
    (List.mem_append.mp hf).elim (plain_fixedFields hw hn d f) (plain_argsField hw d f)
  exact .object (fun f hf => (plain f hf).1) i.nodup_fields fun f hf => (plain f hf).2

/-- The record of an item tells its arguments, also if it leaves them out. -/
theorem argsField_inj {i j : Item} (h : i.argsField = j.argsField) : i.args = j.args := by
  have empty {k : Item} (hk : k.args.isEmpty = true) : k.args = ⟨[]⟩ := by
    cases hp : k.args with
    | mk points =>
      rw [hp] at hk
      exact congrArg LooseText.mk (List.isEmpty_iff.mp hk)
  unfold argsField at h
  split at h
  · rename_i hi
    split at h
    · rename_i hj
      rw [empty hi, empty hj]
    · cases h
  · split at h
    · cases h
    · simpa using h

/-- **The record of an item tells the item**, if its timeout is a whole number. -/
theorem fields_inj {i j : Item} (h : i.fields = j.fields)
    (hi : i.timeoutFault = none) (hj : j.timeoutFault = none) : i = j := by
  obtain ⟨fixed, args⟩ := List.append_inj h rfl
  have hargs := argsField_inj args
  cases i
  cases j
  simp only [fixedFields, List.cons.injEq, Prod.mk.injEq, Json.text.injEq, Json.bool.injEq,
    Json.int.injEq, true_and, and_true] at fixed
  simp_all

end Item

/-- A plain document is read from its bytes. -/
theorem readDocument_compact {v : Json} (h : Plain Limits.standard.depth v) :
    readDocument (Text.encodeUtf8 (compact v)) = .ok v := by
  rw [readDocument, Text.decodeUtf8_encodeUtf8 h.visible.ascii]
  show (read (compact v)).mapError _ = _
  rw [read_compact h]
  rfl

namespace Request

/-- The payload of a request is plain if the rest of it is and brings no second type. -/
theorem plain_of_body {r : Request} {d : Nat}
    (hd : (("type" : LooseText) :: r.body.map Prod.fst).Nodup)
    (hb : ∀ f ∈ r.body, f.1.Whole ∧ Plain (d + 1) f.2) : Plain (d + 2) r.payload := by
  refine .object (fun f hf => ?_) hd fun f hf => ?_
  · rcases List.mem_cons.mp hf with rfl | hf
    · exact LooseText.whole_ofString _
    · exact (hb f hf).1
  · rcases List.mem_cons.mp hf with rfl | hf
    · exact .text (LooseText.whole_ofString _)
    · exact (hb f hf).2

/-- The payload of a request is plain. -/
theorem plain_payload {r : Request} (hw : r.Whole) (hs : r.Sendable) (d : Nat) :
    Plain (d + 2) r.payload := by
  have key (s : String) : (LooseText.ofString s).Whole := LooseText.whole_ofString s
  have one {s : String} {v : Json} (hv : Plain (d + 1) v) :
      ∀ f ∈ [(LooseText.ofString s, v)], f.1.Whole ∧ Plain (d + 1) f.2 := fun f hf =>
    List.mem_singleton.mp hf ▸ ⟨key s, hv⟩
  have config : (["type", "config"] : List LooseText).Nodup := by decide
  have id : (["type", "id"] : List LooseText).Nodup := by decide
  have heartbeat : (["type", "item_id", "timestamp"] : List LooseText).Nodup := by decide
  cases r with
  | bare | list | status => exact plain_of_body (by decide) nofun
  | add i | update i => exact plain_of_body config (one (i.plain_fields hw (hs.short _ rfl) d))
  | remove s | stop s | start s => exact plain_of_body id (one (.text (key s)))
  | heartbeat itemId timestamp =>
    refine plain_of_body heartbeat fun f hf => ?_
    rcases List.mem_cons.mp hf with rfl | hf
    · exact ⟨key _, .text (key _)⟩
    · exact one (.int (hs.short _ rfl)) f hf

/-- **The payload of a request tells the request**, if the timeout of its item is a whole number. -/
theorem payload_inj {r r' : Request} (h : r.payload = r'.payload) (hr : r.fault? = none)
    (hr' : r'.fault? = none) : r = r' := by
  obtain ⟨htype, hbody⟩ := List.cons.inj (Json.object.inj h)
  have htag : r.tag = r'.tag := by simpa using htype
  cases r <;> cases r' <;> simp only [tag, String.reduceEq] at htag
  case add.add i j | update.update i j =>
    have fields : i.fields = j.fields := by simpa [body] using hbody
    rw [Item.fields_inj fields hr hr']
  case bare.bare | list.list | status.status => rfl
  all_goals simpa [body] using hbody

/-- The document that is read from the bytes of a request is its payload. -/
theorem readDocument_encode {r : Request} (hw : r.Whole) (hs : r.Sendable) {bytes : Bytes}
    (h : r.encode = .ok bytes) : readDocument bytes = .ok r.payload := by
  have plain : Plain Limits.standard.depth r.payload := plain_payload hw hs 988
  obtain rfl := Except.ok.inj (hs.encode.symm.trans h)
  exact readDocument_compact plain

/-- **The bytes of a request tell it, and nothing but it.** They are visible ASCII and spaces, no
blank stands outside a string literal, the document read from them is the payload, and no other
request has the same bytes. -/
theorem encode_faithful {r : Request} (hw : r.Whole) (hs : r.Sendable) :
    ∃ bytes, r.encode = .ok bytes ∧
      (∀ b ∈ bytes, 0x20 ≤ b ∧ b ≤ 0x7E) ∧
      (∀ c ∈ Scan.unquoted .outside (bytes.map fun b => Char.ofNat b.toNat),
        isSpace c = false) ∧
      readDocument bytes = .ok r.payload ∧
      ∀ r' : Request, r'.Whole → r'.encode = .ok bytes → r' = r := by
  have plain : Plain Limits.standard.depth r.payload := plain_payload hw hs 988
  have ascii := plain.visible.ascii
  refine ⟨_, hs.encode, fun b hb => ?_, ?_, readDocument_encode hw hs hs.encode,
    fun r' hw' h => ?_⟩
  · rw [Text.encodeUtf8_of_ascii ascii] at hb
    obtain ⟨c, hc, rfl⟩ := List.mem_map.mp hb
    rw [UInt8.le_iff_toNat_le, UInt8.le_iff_toNat_le, Text.toNat_ofNat_of_ascii (ascii c hc)]
    exact plain.visible c hc
  · rw [Text.map_encodeUtf8_of_ascii ascii]
    exact plain.tight.solid
  · have hs' := (exists_encode_iff r').mp ⟨_, h⟩
    have same := (readDocument_encode hw' hs' h).symm.trans (readDocument_encode hw hs hs.encode)
    exact payload_inj (Except.ok.inj same) hs'.whole hs.whole

/-- An item whose texts need escapes of all kinds. -/
theorem encode_faithful_of_add :
    let r : Request := .add { id := "\"\\", exePath := "\n\u007f", name := "é😀" }
    r.Whole ∧ r.Sendable ∧ ∃ bytes, r.encode = .ok bytes ∧ readDocument bytes = .ok r.payload := by
  intro r
  have whole : r.Whole := ⟨LooseText.whole_ofString _, LooseText.whole_ofString _,
    LooseText.whole_ofString _, LooseText.whole_ofString _⟩
  have sendable : r.Sendable := by
    refine ⟨rfl, fun n hn => ?_⟩
    obtain rfl : defaultHeartbeatTimeout = n := Option.some.inj hn
    exact Number.not_tooLongToWrite (show _ < Nat.pow 2 10 by decide) (by decide)
  obtain ⟨bytes, h, -, -, read, -⟩ := encode_faithful whole sendable
  exact ⟨whole, sendable, bytes, h, read⟩

end Request

end Vigil
