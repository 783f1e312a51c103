import Vigil.Proofs.Protocol.Alike
import Vigil.Proofs.Protocol.Closed
import Vigil.Proofs.Text.Unbroken

/-!
# The errors of skipped entries

What a response lists as skipped is what entries came to that could not be read. A fault of an entry
names a key that the protocol knows and a kind of value, and nothing that the supervisor wrote; so
its wording is one line, whatever the reply holds.

* `Item.ofFields_blames`, `ProcessStatus.ofFields_blames`: the fault of a record names one of its
  keys.
* `Request.unbroken_of_skipped`: the error of a skipped entry is worded on one line.
-/

namespace Vigil

open Text

variable {α β : Type} {keys : List String} {record : List (LooseText × Json)}

/-! ## Faults of fields -/

/-- The key that a fault names. -/
def FieldFault.key : FieldFault → String
  | .wrongKind key _ _ => key
  | .notFinite key _ => key

/-- The fault is about one of these keys, and is worded on one line if they are. -/
structure FieldFault.About (keys : List String) (fault : FieldFault) : Prop where
  key : fault.key ∈ keys
  unbroken : Unbroken fault.key → Unbroken fault.message

/-- The faults of a computation are about these keys. -/
def Blames (keys : List String) (x : Except FieldFault α) : Prop :=
  ∀ fault, x = .error fault → fault.About keys

theorem Blames.ok (a : α) : Blames keys (.ok a) := nofun

theorem Blames.bind {x : Except FieldFault α} {f : α → Except FieldFault β} (hx : Blames keys x)
    (hf : ∀ a, Blames keys (f a)) : Blames keys (x >>= f) := by
  cases x with
  | ok a => exact hf a
  | error fault =>
    rintro _ ⟨⟩
    exact hx fault rfl

theorem FieldFault.About.wrongKind {key : String} (hk : key ∈ keys) (wanted : Wanted)
    (got : Json.Kind) : (FieldFault.wrongKind key wanted got).About keys := by
  refine ⟨hk, fun h => ?_⟩
  have label : Unbroken wanted.label := by cases wanted <;> decide
  have kind : Unbroken got.label := by cases got <;> decide
  simp only [FieldFault.message, unbroken_append]
  exact ⟨⟨⟨⟨⟨by decide, h⟩, by decide⟩, label⟩, by decide⟩, kind⟩

namespace Field

variable {key : String}

theorem text_blames (hk : key ∈ keys) (default : LooseText) (nullable : Bool) :
    Blames keys (text record key default nullable) := by
  unfold text
  split
  · exact .ok _
  · exact .ok _
  · split
    · exact .ok _
    · rintro _ ⟨⟩
      exact .wrongKind hk _ _
  · rintro _ ⟨⟩
    exact .wrongKind hk _ _

theorem flag_blames (hk : key ∈ keys) (default : Bool) :
    Blames keys (flag record key default) := by
  unfold flag
  split
  · exact .ok _
  · exact .ok _
  · rintro _ ⟨⟩
    exact .wrongKind hk _ _

theorem number_blames (hk : key ∈ keys) (default : Int) (nullable : Bool) :
    Blames keys (number record key default nullable) := by
  unfold number
  split
  · exact .ok _
  · exact .ok _
  · rename_i x _
    cases hx : Number.truncate x with
    | ok n => exact .ok _
    | error reason =>
      rintro _ ⟨⟩
      refine ⟨hk, fun h => ?_⟩
      simp only [FieldFault.message, unbroken_append]
      exact ⟨⟨⟨by decide, h⟩, by decide⟩, unbroken_notFinite hx⟩
  · split
    · exact .ok _
    · rintro _ ⟨⟩
      exact .wrongKind hk _ _
  · rintro _ ⟨⟩
    exact .wrongKind hk _ _

end Field

/-! ## Faults of entries -/

/-- **The fault of an item names one of its keys.** -/
theorem Item.ofFields_blames : Blames Item.keys (ofFields record) :=
  .bind (Field.text_blames (by decide) _ _) fun _ =>
  .bind (Field.text_blames (by decide) _ _) fun _ =>
  .bind (Field.text_blames (by decide) _ _) fun _ =>
  .bind (Field.text_blames (by decide) _ _) fun _ =>
  .bind (Field.flag_blames (by decide) _) fun _ =>
  .bind (Field.flag_blames (by decide) _) fun _ =>
  .bind (Field.flag_blames (by decide) _) fun _ =>
  .bind (Field.number_blames (by decide) _ _) fun _ => .ok _

/-- **The fault of a process names one of its keys.** -/
theorem ProcessStatus.ofFields_blames : Blames ProcessStatus.keys (ofFields record) :=
  .bind (Field.text_blames (by decide) _ _) fun _ =>
  .bind (Field.text_blames (by decide) _ _) fun _ =>
  .bind (Field.text_blames (by decide) _ _) fun _ =>
  .bind (Field.flag_blames (by decide) _) fun _ =>
  .bind (Field.number_blames (by decide) _ _) fun _ =>
  .bind (Field.number_blames (by decide) _ _) fun _ =>
  .bind (Field.number_blames (by decide) _ _) fun _ =>
  .bind (Field.number_blames (by decide) _ _) fun _ =>
  .bind (Field.flag_blames (by decide) _) fun _ =>
  .bind (Field.flag_blames (by decide) _) fun _ => .ok _

/-- What is said of a record with keys on one line is said on one line. -/
theorem Blames.unbroken {x : Except FieldFault α} (h : Blames keys x)
    (hk : ∀ key ∈ keys, Unbroken key) {fault : EntryFault}
    (e : x.mapError .field = .error fault) : Unbroken fault.message := by
  cases x with
  | ok a => cases e
  | error found =>
    cases e
    exact (h found rfl).unbroken (hk _ (h found rfl).key)

theorem unbroken_notObject (what : EntryKind) (got : Json.Kind) :
    Unbroken (EntryFault.notObject what got).message := by
  have label : Unbroken what.label := by cases what <;> decide
  have kind : Unbroken got.label := by cases got <;> decide
  simp only [EntryFault.message, unbroken_append]
  exact ⟨⟨label, by decide⟩, kind⟩

theorem Item.unbroken_of_ofJson {value : Json} {fault : EntryFault}
    (h : ofJson value = .error fault) : Unbroken fault.message := by
  cases value with
  | object record => exact ofFields_blames.unbroken (by decide) h
  | null | bool _ | int _ | real _ | text _ | array _ =>
    cases h
    exact unbroken_notObject _ _

theorem ProcessStatus.unbroken_of_ofJson {value : Json} {fault : EntryFault}
    (h : ofJson value = .error fault) : Unbroken fault.message := by
  cases value with
  | object record => exact ofFields_blames.unbroken (by decide) h
  | null | bool _ | int _ | real _ | text _ | array _ =>
    cases h
    exact unbroken_notObject _ _

/-! ## Faults of a response -/

/-- What is computed after something else is computed of what that gives. -/
theorem exists_of_bind {ε : Type} {x : Except ε α} {f : α → Except ε β} {b : β}
    (h : (x >>= f) = .ok b) : ∃ a, x = .ok a ∧ f a = .ok b := by
  cases x with
  | ok a => exact ⟨a, rfl, h⟩
  | error e => cases h

theorem unbroken_of_mem_skips {read : Json → Except EntryFault α} {what : EntryKind}
    (told : ∀ {entry fault}, read entry = .error fault → Unbroken fault.message)
    {entries : List Json} {fault : ProtocolFault} (h : fault ∈ skips what (outcomes read entries)) :
    Unbroken fault.message := by
  obtain ⟨found, hf, rfl⟩ := List.mem_map.mp h
  obtain ⟨result, hr, named⟩ := List.mem_filterMap.mp hf
  obtain ⟨entry, -, rfl⟩ := List.mem_map.mp hr
  have label : Unbroken what.skipLabel := by cases what <;> decide
  cases e : read entry with
  | ok a =>
    rw [e] at named
    cases named
  | error other =>
    rw [e] at named
    obtain rfl : other = found := Option.some.inj named
    have worded : (ProtocolFault.skipped what other).message =
        what.skipLabel ++ ": " ++ other.message := rfl
    rw [worded, unbroken_append, unbroken_append]
    exact ⟨⟨label, by decide⟩, told e⟩

namespace Request

/-- What a response lists as skipped comes with its data. -/
theorem skipped_of_decodeFields {r : Request} {fields : List (LooseText × Json)}
    {response : Response} (h : r.decodeFields fields = .ok response) :
    response.skipped = [] ∨
      ∃ data content, r.decodeData data = .ok (content, response.skipped) := by
  unfold decodeFields at h
  split at h
  · rename_i success _
    obtain ⟨message, -, h⟩ := exists_of_bind h
    cases success with
    | false =>
      cases h
      exact .inl rfl
    | true =>
      obtain ⟨found, hd, h⟩ := exists_of_bind h
      cases h
      exact .inr ⟨_, _, hd⟩
  · cases h

theorem unbroken_of_decodeData {r : Request} {data : Json} {content : Content}
    {skipped : List ProtocolFault} (h : r.decodeData data = .ok (content, skipped)) :
    ∀ fault ∈ skipped, Unbroken fault.message := by
  cases r with
  | list =>
    cases data with
    | array entries =>
      cases h
      exact fun fault => unbroken_of_mem_skips Item.unbroken_of_ofJson
    | null =>
      cases h
      exact List.forall_mem_nil _
    | bool _ | int _ | real _ | text _ | object _ => cases h
  | status =>
    cases data with
    | object fields =>
      rw [decodeData, decodeStatus] at h
      obtain ⟨entries, -, h⟩ := exists_of_bind h
      obtain ⟨running, -, h⟩ := exists_of_bind h
      obtain ⟨total, -, h⟩ := exists_of_bind h
      cases h
      exact fun fault => unbroken_of_mem_skips ProcessStatus.unbroken_of_ofJson
    | null =>
      cases h
      exact List.forall_mem_nil _
    | bool _ | int _ | real _ | text _ | array _ => cases h
  | bare | add _ | update _ | remove _ | stop _ | start _ | heartbeat _ _ =>
    cases h
    exact List.forall_mem_nil _

/-- **The error of a skipped entry is worded on one line.** -/
theorem unbroken_of_skipped {r : Request} {raw : Bytes} {response : Response}
    (h : r.decode raw = .ok response) : ∀ fault ∈ response.skipped, Unbroken fault.message := by
  obtain ⟨fields, -, decoded⟩ := (decode_eq_ok_iff r raw response).mp h
  rcases skipped_of_decodeFields decoded with e | ⟨data, content, hd⟩
  · rw [e]
    exact List.forall_mem_nil _
  · exact unbroken_of_decodeData hd

end Request

end Vigil
