import Vigil.Protocol.Request

/-!
# Which requests have bytes

Each request holds at most one integer: the time of a heartbeat, or the heartbeat timeout of an
item. It has bytes if this integer exists and can be written.
-/

namespace Vigil

/-- The integer a request holds. -/
def Request.integer? : Request → Option Int
  | .add config | .update config => some config.heartbeatTimeout
  | .heartbeat _ timestamp => some timestamp
  | _ => none

/-- The integer of a request, if it holds one, exists and can be written. -/
structure Request.Sendable (r : Request) : Prop where
  whole : r.fault? = none
  short : ∀ n, r.integer? = some n → Number.tooLongToWrite n = false

/-- The timeout of an item exists and can be written. -/
def Item.isSendable (i : Item) : Bool :=
  i.timeoutFault.isNone && !Number.tooLongToWrite i.heartbeatTimeout

theorem Item.writable_fields (i : Item) :
    Json.writableFields i.fields = !Number.tooLongToWrite i.heartbeatTimeout := by
  unfold Item.fields Item.fixedFields Item.argsField
  split <;> simp [Json.writableFields, Json.writable]

namespace Request

theorem writable_payload (r : Request) :
    Json.writable r.payload ↔ ∀ n, r.integer? = some n → Number.tooLongToWrite n = false := by
  cases r <;> simp [payload, body, integer?, Json.writable, Json.writableFields,
    Item.writable_fields]

/-- A request without an integer has bytes. -/
theorem Sendable.of_none {r : Request} (hf : r.fault? = none) (hi : r.integer? = none) :
    r.Sendable where
  whole := hf
  short n hn := by
    rw [hi] at hn
    cases hn

theorem Sendable.encode {r : Request} (h : r.Sendable) :
    r.encode = .ok (Text.encodeUtf8 (Json.compact r.payload)) := by
  unfold Request.encode
  rw [h.whole]
  dsimp only
  rw [Json.compact?, if_pos ((writable_payload r).mpr h.short)]

/-- **A request has bytes if and only if its integer can be written.** -/
theorem exists_encode_iff (r : Request) : (∃ bytes, r.encode = .ok bytes) ↔ r.Sendable := by
  constructor
  · rintro ⟨bytes, h⟩
    unfold encode at h
    split at h
    · cases h
    · rename_i hf
      refine ⟨hf, (writable_payload r).mp ?_⟩
      unfold Json.compact? at h
      by_cases hw : Json.writable r.payload = true
      · exact hw
      · simp [hw] at h
  · intro h
    exact ⟨_, h.encode⟩

theorem encode_of_not_sendable {r : Request} (h : ¬r.Sendable) : ∃ m, r.encode = .error m := by
  cases e : r.encode with
  | ok bytes => exact absurd ((exists_encode_iff r).mp ⟨bytes, e⟩) h
  | error m => exact ⟨m, rfl⟩

/-- A request whose one integer is the timeout of an item has bytes if the item can be sent. -/
theorem sendable_iff_of_item {r : Request} {i : Item} (hf : r.fault? = i.timeoutFault)
    (hn : r.integer? = some i.heartbeatTimeout) : r.Sendable ↔ i.isSendable = true := by
  rw [Item.isSendable, Bool.and_eq_true, Option.isNone_iff_eq_none, Bool.not_eq_true']
  constructor
  · intro h
    exact ⟨hf ▸ h.whole, h.short _ hn⟩
  · rintro ⟨whole, short⟩
    refine ⟨hf.trans whole, fun n h => ?_⟩
    obtain rfl : i.heartbeatTimeout = n := Option.some.inj (hn.symm.trans h)
    exact short

theorem sendable_update_iff (i : Item) : (update i).Sendable ↔ i.isSendable = true :=
  sendable_iff_of_item rfl rfl

theorem sendable_add_iff (i : Item) : (add i).Sendable ↔ i.isSendable = true :=
  sendable_iff_of_item rfl rfl

end Request

end Vigil
