import Vigil.Proofs.Client.Results
import Vigil.Proofs.Protocol.Listing

/-!
# What a client makes of a reply

Once the bytes of a reply are there, what a request returns is read off them alone, whatever the
callbacks do meanwhile; and a request without a reply returns a failure.

* `Client.outcome_request`: the result of a request that got a reply.
* `Client.entries_tolerated`: what a list and a status come to, entry by entry.
-/

namespace Vigil

open Act Json

/-- What the bytes of a reply say to a client that made the request. -/
def Request.verdict (r : Request) (raw : Bytes) : Result Content :=
  match r.decode raw with
  | .error fault => .failure (.protocol fault)
  | .ok response =>
    if response.success then .success response.content response.lastSkipped
    else .failure (.refused (.bySupervisor (response.message.getD unknownError)))

namespace Client

variable {r : Request} {s : Scene (Watch Client)}

theorem interpret_verdict (operation : Operation) (raw : Bytes) :
    Returns (· = r.verdict raw) (interpret r operation raw) := by
  refine .bind (.forM fun _ => .alter _) fun _ _ => ?_
  unfold Request.verdict
  cases r.decode raw with
  | error fault => exact .bind (log_returns _ _ _) fun _ _ => .pure rfl
  | ok response =>
    dsimp only
    split <;> exact .pure rfl

/-- **What a request returns is read off the reply alone.** -/
theorem outcome_request (operation : Operation) {raw : Bytes}
    (h : outcome (exchange r) s = .ok raw) :
    outcome (request r operation) s = .ok (r.verdict raw) := by
  obtain ⟨u, set, -⟩ := setConnected_returns true false (after (exchange r) s)
  rw [request, outcome_bind, outcome_attempt, after_attempt, h]
  dsimp only
  rw [outcome_bind, set]
  obtain ⟨result, e, rfl⟩ := interpret_verdict (r := r) operation raw (after (setConnected true)
    (after (exchange r) s))
  exact e

/-- A request without a reply returns a failure. -/
theorem outcome_request_of_error (operation : Operation) {raised : Raised}
    (h : outcome (exchange r) s = .error raised) :
    ∃ e, outcome (request r operation) s = .ok (.failure e) := by
  have fails {x : Deed (Result Content)} (hx : Returns (fun result => ∃ e, result = .failure e) x)
      (t : Scene (Watch Client)) : ∃ e, outcome x t = .ok (.failure e) := by
    obtain ⟨_, returns, e, rfl⟩ := hx t
    exact ⟨e, returns⟩
  rw [request, outcome_bind, outcome_attempt, after_attempt, h]
  dsimp only
  split
  · cases ‹_ = _›
  · exact fails (.bind (log_returns _ _ _) fun _ _ => .bind (setConnected_returns _ _) fun _ _ =>
      .pure ⟨_, rfl⟩) _
  · exact fails (.bind (setConnected_returns _ _) fun _ _ => .bind (log_returns _ _ _) fun _ _ =>
      .pure ⟨_, rfl⟩) _
  · exact fails (.bind (setConnected_returns _ _) fun _ _ => .bind (log_returns _ _ _) fun _ _ =>
      .pure ⟨_, rfl⟩) _

/-! ## Replies that bring entries -/

/-- The reply to a request brings this content and the errors of what was skipped: it is decoded
so, and the client that makes the request by a call and gets the reply returns the content, with
the last error. -/
structure Brings (r : Request) (call : ClientCall) (raw : Bytes) (content : Content)
    (skipped : List ProtocolFault) : Prop where
  decoded : ∃ message, r.decode raw = .ok { success := true, message, content, skipped }
  returned : ∀ s, outcome (exchange r) s = .ok raw →
    outcome (perform call) s = .ok (.request (.success content skipped.getLast?))

/-- What a reply is decoded to is what it brings to a call that makes the request alone. -/
theorem Brings.of_decode {call : ClientCall} {operation : Operation} {raw : Bytes}
    {content : Content} {skipped : List ProtocolFault}
    (makes : perform call = .request <$> request r operation)
    (h : ∃ message, r.decode raw = .ok { success := true, message, content, skipped }) :
    Brings r call raw content skipped where
  decoded := h
  returned s got := by
    obtain ⟨message, decoded⟩ := h
    rw [makes, outcome_map, outcome_request operation got, Request.verdict, decoded]
    rfl

/-- **Entries that cannot be read are lost one by one, and nothing else is.** The records and the
errors that a list brings are what its entries come to one by one, and so are those that a status
brings; what a status says besides is read from what stands beside its entries. A client returns
the records, with the last error. -/
theorem entries_tolerated :
    (∃ records skipped, Tolerant Item.ofJson .item records skipped ∧
      ∀ {raw fields entries}, Succeeds raw fields →
        Json.get? "data" fields = some (.array entries) →
        Brings .list .listItems raw (.items (records entries)) (skipped entries)) ∧
    ∃ records skipped, Tolerant ProcessStatus.ofJson .status records skipped ∧
      ∀ {raw fields data entries beside running total}, Succeeds raw fields →
        Json.get? "data" fields = some (.object data) →
        Json.get? "items" data = some (.array entries) →
        (∀ key : LooseText, key ≠ "items" → Json.get? key data = Json.get? key beside) →
        Field.flag beside "service_running" = .ok running →
        Field.number beside "total_items" = .ok total →
        Brings .status .serviceStatus raw
          (.status { serviceRunning := running, totalItems := total, items := records entries })
          (skipped entries) := by
  refine ⟨⟨_, _, tolerant_outcomes, fun h hdata => ?_⟩, _, _, tolerant_outcomes, ?_⟩
  · exact .of_decode rfl (Request.decode_list h hdata)
  · intro raw fields data entries beside running total h hdata hentries same hrunning htotal
    rw [← Field.flag_congr (same _ (by decide))] at hrunning
    rw [← Field.number_congr (same _ (by decide))] at htotal
    exact .of_decode rfl (Request.decode_status h hdata hentries hrunning htotal)

/-- A list and a status, each with an entry that is no record and one that says no more than its
id. -/
theorem entries_tolerated_of_mixed :
    let entries : List Json := [.int 7, .object [("id", .text "a")]]
    let beside : List (LooseText × Json) := [("total_items", .int 5)]
    let data : List (LooseText × Json) := ("items", .array entries) :: beside
    let reply (v : Json) : List (LooseText × Json) := [("success", .bool true), ("data", v)]
    let raw (v : Json) : Bytes := Text.encodeUtf8 (compact (.object (reply v)))
    (Succeeds (raw (.array entries)) (reply (.array entries)) ∧
      Succeeds (raw (.object data)) (reply (.object data)) ∧
      (∀ key : LooseText, key ≠ "items" → get? key data = get? key beside) ∧
      Field.flag beside "service_running" = .ok false ∧
      Field.number beside "total_items" = .ok 5) ∧
    Brings .list .listItems (raw (.array entries))
      (.items [{ id := "a", exePath := "", name := "", enabled := false }])
      [.skipped .item (.notObject .item .int)] ∧
    Brings .status .serviceStatus (raw (.object data))
      (.status { serviceRunning := false, totalItems := 5, items := [{ id := "a" }] })
      [.skipped .status (.notObject .status .int)] := by
  intro entries beside data reply raw
  have whole : ∀ s : String, (LooseText.ofString s).Whole := LooseText.whole_ofString
  have short {d : Nat} {n : Int} (h : n.natAbs < Nat.pow 2 10) : Plain d (.int n) :=
    .int (Number.not_tooLongToWrite h (by decide))
  have record (d : Nat) : Plain (d + 1) (.object [("id", .text "a")]) :=
    .object (List.forall_mem_singleton.mpr (whole _)) (by decide)
      (List.forall_mem_singleton.mpr (.text (whole _)))
  have array (d : Nat) : Plain (d + 2) (.array entries) :=
    .array (List.forall_mem_cons.mpr
      ⟨short (by decide), List.forall_mem_singleton.mpr (record d)⟩)
  have object (d : Nat) : Plain (d + 3) (.object data) :=
    .object (List.forall_mem_cons.mpr ⟨whole _, List.forall_mem_singleton.mpr (whole _)⟩)
      (by decide) (List.forall_mem_cons.mpr
        ⟨array d, List.forall_mem_singleton.mpr (short (by decide))⟩)
  have succeeds {d : Nat} (hd : d + 1 = Limits.standard.depth) {v : Json} (h : Plain d v) :
      Succeeds (raw v) (reply v) :=
    ⟨readDocument_compact (hd ▸ Request.plain_reply h), rfl, none, rfl⟩
  have same (key : LooseText) (h : key ≠ "items") : get? key data = get? key beside :=
    if_neg h.symm
  have listed := succeeds (d := 989) rfl (array 987)
  have reported := succeeds (d := 989) rfl (object 986)
  refine ⟨⟨listed, reported, same, rfl, rfl⟩, ?_, ?_⟩
  · obtain ⟨records, skipped, tolerant, brings⟩ := entries_tolerated.1
    have nothing : records [.int 7] = [] ∧ skipped [.int 7] = _ := tolerant.skip rfl
    have something : records [.object [("id", .text "a")]] = _ ∧
      skipped [.object [("id", .text "a")]] = _ := tolerant.record rfl
    have brought := brings listed rfl
    rw [show entries = [.int 7] ++ [.object [("id", .text "a")]] from rfl,
      tolerant.records_append, tolerant.skipped_append, nothing.1, nothing.2, something.1,
      something.2] at brought
    exact brought
  · obtain ⟨records, skipped, tolerant, brings⟩ := entries_tolerated.2
    have nothing : records [.int 7] = [] ∧ skipped [.int 7] = _ := tolerant.skip rfl
    have something : records [.object [("id", .text "a")]] = _ ∧
      skipped [.object [("id", .text "a")]] = _ := tolerant.record rfl
    have brought := brings reported rfl rfl same rfl rfl
    rw [show entries = [.int 7] ++ [.object [("id", .text "a")]] from rfl,
      tolerant.records_append, tolerant.skipped_append, nothing.1, nothing.2, something.1,
      something.2] at brought
    exact brought

end Client

end Vigil
