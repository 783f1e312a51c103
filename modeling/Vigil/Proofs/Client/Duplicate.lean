import Vigil.Proofs.Channel.Calls
import Vigil.Proofs.Client.Ease
import Vigil.Proofs.Client.Indifferent
import Vigil.Proofs.Client.Reply

/-!
# The guard against duplicates

A client that is asked to add an item lists the items first. The request to add is sent if the list
came back whole and no entry in it watches the same executable, and in no other case.

* `Client.begins_request`: a request that has bytes begins one exchange, whatever comes of it.
* `Client.addItem_guarded`: when the request to add is sent, and what is returned if it is not.
-/

namespace Vigil

open Act

/-! ## What is sent -/

/-- What an exchange is begun with. -/
def Event.payload? : Event → Option Bytes
  | .exchange payload => some payload
  | _ => none

/-- What the exchanges of a journal were begun with. -/
def payloads (t : List Event) : List Bytes := t.filterMap Event.payload?

theorem Event.payload?_of_isPipe {e : Event} (h : e.isPipe = true) : e.payload? = none := by
  cases e <;> first | rfl | cases h

theorem Event.payload?_of_isService {e : Event} (h : e.isService = true) : e.payload? = none := by
  cases e <;> first | rfl | cases h

/-- Begins no exchange. -/
def unsent {σ : Type} : Frame (Scene σ) := adding fun e => e.payload? = none

namespace Client

variable {s : Scene (Watch Client)} {item : Item}

/-- The callbacks begin no exchange. -/
theorem indifferent_unsent : Indifferent unsent :=
  indifferent_adding (fun _ => rfl) (fun _ _ => rfl) (fun _ => Event.payload?_of_isPipe)
    fun _ => Event.payload?_of_isService

/-- Begins one exchange, with these bytes, before anything else. -/
def Begins {α : Type} (payload : Bytes) (x : Deed α) : Prop :=
  ∀ s, ∃ t, (after x s).world.events = s.world.events ++ .exchange payload :: t ∧
    ∀ e ∈ t, e.payload? = none

/-- What begins no exchange may come after. -/
theorem Begins.bind {α β : Type} {payload : Bytes} {x : Deed α} {f : α → Deed β}
    (hx : Begins payload x) (hf : ∀ a, Respects unsent (f a)) : Begins payload (x >>= f) := by
  intro s
  obtain ⟨t, ht, quiet⟩ := hx s
  rw [after_bind]
  split
  · rename_i a _
    obtain ⟨u, hu, quiet'⟩ := hf a (after x s)
    refine ⟨t ++ u, ?_, fun e he => (List.mem_append.mp he).elim (quiet e) (quiet' e)⟩
    rw [hu, ht, List.append_assoc, List.cons_append]
  · exact ⟨t, ht, quiet⟩

/-- An exchange is begun with the bytes of the request. -/
theorem begins_exchange {r : Request} {payload : Bytes} (h : r.encode = .ok payload) :
    Begins payload (exchange r) := by
  intro s
  obtain ⟨t, ht, pipe⟩ :=
    Session.events_exchange payload s.own.host.connectTimeout (sessionOf s)
  refine ⟨t, ?_, fun e he => Event.payload?_of_isPipe (pipe e he)⟩
  rw [(exchange_eq h s).2, after_onSession]
  exact ht

/-- **A request that has bytes begins one exchange**, whatever comes of it. -/
theorem begins_request {r : Request} {payload : Bytes} (h : r.encode = .ok payload)
    (operation : Operation) : Begins payload (request r operation) := by
  have attempted : Begins payload (attempt (exchange r)) := fun s => by
    rw [after_attempt]
    exact begins_exchange h s
  exact attempted.bind
    (respects_settle Adding.log (indifferent_unsent.setConnected · false) r operation)

end Client

/-! ## When an item may be added -/

/-- The bytes are those of a request to add an item. -/
def Adds (payload : Bytes) : Prop := ∃ item : Item, (Request.add item).encode = .ok payload

/-- Nothing keeps the item from being added: it lacks nothing, and the reply to the list brings
entries that could all be read, none of them with the path of the item, whatever its case. -/
structure Item.Cleared (item : Item) (s : Scene (Watch Client)) : Prop where
  id : item.id.isEmpty = false
  exePath : item.exePath.isEmpty = false
  name : item.name.isEmpty = false
  listed : ∃ raw response, outcome (Client.exchange .list) s = .ok raw ∧
    Request.list.decode raw = .ok response ∧ response.success = true ∧ response.skipped = [] ∧
    ∀ other ∈ response.content.entries, item.exePath.lower ≠ other.exePath.lower

theorem Item.flaw?_eq_none_iff (item : Item) :
    item.flaw? = none ↔
      item.id.isEmpty = false ∧ item.exePath.isEmpty = false ∧ item.name.isEmpty = false := by
  unfold Item.flaw?
  split
  · simp_all
  · split
    · simp_all
    · split <;> simp_all

/-- Whether an item may be added is read off the item and the result of the list. -/
theorem Item.cleared_iff (item : Item) (s : Scene (Watch Client)) :
    item.Cleared s ↔ item.flaw? = none ∧ ∃ content,
      outcome Client.listItems s = .ok (.success content none) ∧
      content.entries.any item.sameExecutable = false := by
  have apart (entries : List Item) : entries.any item.sameExecutable = false ↔
      ∀ other ∈ entries, item.exePath.lower ≠ other.exePath.lower := by
    simp [Item.sameExecutable]
  constructor
  · intro h
    obtain ⟨raw, response, got, decoded, success, whole, others⟩ := h.listed
    refine ⟨item.flaw?_eq_none_iff.mpr ⟨h.id, h.exePath, h.name⟩, response.content, ?_,
      (apart _).mpr others⟩
    have last : response.lastSkipped = none := by rw [Response.lastSkipped, whole]; rfl
    rw [Client.listItems, Client.outcome_request _ got, Request.verdict, decoded]
    dsimp only
    rw [if_pos success, last]
  · rintro ⟨hf, content, listed, others⟩
    obtain ⟨id, exePath, name⟩ := item.flaw?_eq_none_iff.mp hf
    refine ⟨id, exePath, name, ?_⟩
    cases got : outcome (Client.exchange .list) s with
    | error raised =>
      obtain ⟨e, failed⟩ := Client.outcome_request_of_error .listItems got
      cases failed.symm.trans listed
    | ok raw =>
      have verdict := (Client.outcome_request .listItems got).symm.trans listed
      rw [Request.verdict] at verdict
      cases decoded : Request.list.decode raw with
      | error fault => rw [decoded] at verdict; cases verdict
      | ok response =>
        rw [decoded] at verdict
        dsimp only at verdict
        split at verdict
        · rename_i success
          obtain ⟨rfl, last⟩ := Result.success.inj (Except.ok.inj verdict)
          exact ⟨raw, response, rfl, decoded, success, List.getLast?_eq_none_iff.mp last,
            (apart _).mp others⟩
        · cases verdict

namespace Client

/-- A request to list is no request to add. -/
theorem not_adds_list {payload : Bytes} (h : Request.list.encode = .ok payload) :
    ¬Adds payload := by
  rintro ⟨item, hadd⟩
  have list : Request.list.Sendable := .of_none rfl rfl
  have add := (Request.exists_encode_iff (.add item)).mp ⟨payload, hadd⟩
  have same := (add.encode.symm.trans (hadd.trans h.symm)).trans list.encode
  rw [Request.compact_add] at same
  -- The types differ in their first letter.
  have letter : (Text.encodeUtf8 (Request.addText (Json.compact (.object item.fields))))[9]? =
      (Text.encodeUtf8 (Json.compact Request.list.payload))[9]? :=
    congrArg (fun bytes => bytes[9]?) (Except.ok.inj same)
  have first : (Text.encodeUtf8 (Request.addText (Json.compact (.object item.fields))))[9]? =
    some 97 := rfl
  have second : (Text.encodeUtf8 (Json.compact Request.list.payload))[9]? = some 108 := rfl
  exact absurd (first.symm.trans (letter.trans second)) (by decide)

/-! ## How an addition goes -/

theorem addItem_of_flaw {refusal : Refusal} (h : item.flaw? = some refusal) :
    addItem item = pure (refuse refusal) := by
  unfold addItem
  rw [h]

/-- An item that lacks nothing and may not be added is refused after the list. -/
theorem addItem_of_refused (hf : item.flaw? = none) (h : ¬item.Cleared s) :
    after (addItem item) s = after listItems s ∧
      ∃ e, outcome (addItem item) s = .ok (.failure e) := by
  obtain ⟨result, listed, -⟩ := request_returns .list .listItems s
  have listed : outcome listItems s = .ok result := listed
  unfold addItem
  simp only [hf, after_bind, outcome_bind, listed]
  cases result with
  | failure e => exact ⟨rfl, e, rfl⟩
  | success content skipped =>
    cases skipped with
    | some fault => exact ⟨rfl, _, rfl⟩
    | none =>
      have watched : content.entries.any item.sameExecutable = true := by
        refine Bool.of_not_eq_false fun others => h ?_
        exact (item.cleared_iff s).mpr ⟨hf, content, listed, others⟩
      simp only [watched, if_true]
      exact ⟨rfl, _, rfl⟩

/-- An item that may be added is requested after the list. -/
theorem addItem_of_cleared (h : item.Cleared s) :
    (after (addItem item) s).world.events =
      (after (request (.add item) .addItem) (after listItems s)).world.events := by
  obtain ⟨hf, content, listed, others⟩ := (item.cleared_iff s).mp h
  obtain ⟨result, added, -⟩ := request_returns (.add item) .addItem (after listItems s)
  unfold addItem
  simp only [hf, after_bind, listed, others, Bool.false_eq_true, if_false, added]
  cases result with
  | failure e => rfl
  | success content skipped => exact World.events_log _ _ _ _ _

/-- The request to add the item was sent once, after the list was done with. -/
def SentAfterList (item : Item) (s : Scene (Watch Client)) (t : List Event) : Prop :=
  ∃ list add u v, t = u ++ v ∧
    (after listItems s).world.events = s.world.events ++ u ∧ Shut (after listItems s) ∧
    Request.list.encode = .ok list ∧ payloads u = [list] ∧ ¬Adds list ∧
    (Request.add item).encode = .ok add ∧ payloads v = [add]

theorem payloads_of_begins {payload : Bytes} {t : List Event}
    (h : ∀ e ∈ t, e.payload? = none) : payloads (.exchange payload :: t) = [payload] := by
  have none : t.filterMap Event.payload? = [] := List.filterMap_eq_nil_iff.mpr h
  exact congrArg (payload :: ·) none

theorem sentAfterList_of_cleared (hi : item.isSendable = true) (h : item.Cleared s) :
    ∃ t, (after (addItem item) s).world.events = s.world.events ++ t ∧
      SentAfterList item s t := by
  have list : Request.list.Sendable := .of_none rfl rfl
  have add : (Request.add item).Sendable := (Request.sendable_add_iff item).mpr hi
  obtain ⟨u, hu, before⟩ := begins_request list.encode .listItems s
  obtain ⟨v, hv, later⟩ := begins_request add.encode .addItem (after listItems s)
  refine ⟨_, ?_, _, _, _, _, rfl, hu, (request_shut list .listItems).after trivial, list.encode,
    payloads_of_begins before, not_adds_list list.encode, add.encode, payloads_of_begins later⟩
  have listed : (after listItems s).world.events = _ := hu
  rw [addItem_of_cleared h, hv, listed, List.append_assoc]

/-- What is sent after the list adds the item. -/
theorem SentAfterList.adds {t : List Event} (h : SentAfterList item s t) :
    ∃ payload ∈ payloads t, Adds payload := by
  obtain ⟨list, add, u, v, rfl, -, -, -, hu, -, encoded, hv⟩ := h
  have split : payloads (u ++ v) = payloads u ++ payloads v := List.filterMap_append
  refine ⟨add, ?_, item, encoded⟩
  rw [split, hv]
  exact List.mem_append_right _ (List.mem_singleton_self add)

/-- An item that may not be added is refused, and nothing is sent but the list. -/
theorem refused_of_not_cleared (h : ¬item.Cleared s) :
    ∃ t, (after (addItem item) s).world.events = s.world.events ++ t ∧
      (¬∃ payload ∈ payloads t, Adds payload) ∧ (item.flaw? ≠ none → t = []) ∧
      ∃ e, outcome (addItem item) s = .ok (.failure e) := by
  cases hf : item.flaw? with
  | some refusal =>
    rw [addItem_of_flaw hf]
    exact ⟨[], (List.append_nil _).symm, nofun, fun _ => rfl, _, rfl⟩
  | none =>
    obtain ⟨same, failed⟩ := addItem_of_refused hf h
    have list : Request.list.Sendable := .of_none rfl rfl
    obtain ⟨t, ht, quiet⟩ := begins_request list.encode .listItems s
    rw [same]
    refine ⟨_, ht, ?_, fun lacks => absurd rfl lacks, failed⟩
    rw [payloads_of_begins quiet]
    rintro ⟨payload, hp, adds⟩
    exact not_adds_list list.encode (List.mem_singleton.mp hp ▸ adds)

/-- **The guard against duplicates.** In whatever scene an item is to be added whose timeout can be
written: a request to add is sent if and only if the item is cleared; it is then sent once, with
this item, and after the list was done with. If the item lacks something nothing happens at all, and
whenever it is not cleared the result is a failure. -/
theorem addItem_guarded {item : Item} (h : item.isSendable = true) (s : Scene (Watch Client)) :
    ∃ t, (after (perform (.addItem item)) s).world.events = s.world.events ++ t ∧
      ((∃ payload ∈ payloads t, Adds payload) ↔ item.Cleared s) ∧
      (item.Cleared s → SentAfterList item s t) ∧
      (item.id.isEmpty ∨ item.exePath.isEmpty ∨ item.name.isEmpty → t = []) ∧
      (¬item.Cleared s →
        ∃ e, outcome (perform (.addItem item)) s = .ok (.request (.failure e))) := by
  have flawed (lacks : item.id.isEmpty ∨ item.exePath.isEmpty ∨ item.name.isEmpty) :
      item.flaw? ≠ none := fun hf => by
    obtain ⟨id, exePath, name⟩ := item.flaw?_eq_none_iff.mp hf
    simp [id, exePath, name] at lacks
  rw [perform, after_map, outcome_map]
  by_cases cleared : item.Cleared s
  · obtain ⟨t, ht, sent⟩ := sentAfterList_of_cleared h cleared
    refine ⟨t, ht, ⟨fun _ => cleared, fun _ => sent.adds⟩, fun _ => sent, fun lacks => ?_,
      fun refused => absurd cleared refused⟩
    exact absurd ((item.cleared_iff s).mp cleared).1 (flawed lacks)
  · obtain ⟨t, ht, unsent, nothing, e, failed⟩ := refused_of_not_cleared cleared
    refine ⟨t, ht, ⟨fun adds => absurd adds unsent, fun h => absurd h cleared⟩,
      fun h => absurd h cleared, fun lacks => nothing (flawed lacks), fun _ => ⟨e, ?_⟩⟩
    rw [failed]
    rfl

/-- A supervisor that watches nothing yet: it replies `{"success":true,"data":[]}`. -/
theorem addItem_guarded_of_nothing_listed :
    let item : Item := { id := "a", exePath := "b", name := "c" }
    let raw : Bytes :=
      [123, 34, 115, 117, 99, 99, 101, 115, 115, 34, 58, 116, 114, 117, 101, 44, 34, 100, 97, 116,
        97, 34, 58, 91, 93, 125]
    let s : Scene (Watch Client) :=
      ⟨{ pipe := [⟨.ok { reply := raw }, none⟩] }, { host := create {} {} }⟩
    item.isSendable = true ∧ item.Cleared s ∧
      ∃ t, (after (perform (.addItem item)) s).world.events = s.world.events ++ t ∧
        SentAfterList item s t := by
  intro item raw s
  have short : Number.tooLongToWrite item.heartbeatTimeout = false :=
    Number.not_tooLongToWrite (show _ < Nat.pow 2 10 by decide) (by decide)
  have sendable : item.isSendable = true := by
    rw [Item.isSendable, short]
    rfl
  have got : outcome (exchange .list) s = .ok raw := by rfl
  have decoded : Request.list.decode raw = .ok { success := true, content := .items [] } := by rfl
  have cleared : item.Cleared s := ⟨rfl, rfl, rfl, raw, _, got, decoded, rfl, rfl,
    List.forall_mem_nil _⟩
  obtain ⟨t, ht, -, sent, -, -⟩ := addItem_guarded sendable s
  exact ⟨sendable, cleared, t, ht, sent cleared⟩

end Client

end Vigil
