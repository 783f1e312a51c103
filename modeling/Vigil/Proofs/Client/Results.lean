import Vigil.Client.Call
import Vigil.Proofs.Channel.Mishap
import Vigil.Proofs.Fault.Message
import Vigil.Proofs.Protocol.Closed
import Vigil.Proofs.Service.Faults

/-!
# Operations that return a result

A result is proper if it is a success or if its error has a message. Every request returns a proper
result, whatever the pipe and the callbacks do, and so does every operation that makes no more than
requests and commands of the controller.

* `Client.request_returns`, `Client.serviceCall_returns`: the two ways an operation is guarded.
-/

namespace Vigil

open Act

/-- A success, or a failure whose error has a message. -/
def Result.Proper {α : Type} : Result α → Prop
  | .success .. => True
  | .failure e => e.message ≠ ""

/-- A success, or a failure of the service. -/
def Result.OfService {α : Type} : Result α → Prop
  | .success .. => True
  | .failure e => ∃ fault, e = .service fault

theorem Result.OfService.proper {α : Type} {result : Result α} (h : result.OfService) :
    result.Proper := by
  cases result with
  | success value skipped => trivial
  | failure e =>
    obtain ⟨fault, rfl⟩ := h
    exact Error.message_ne_empty nofun

namespace Client

variable {α : Type}

/-! ## Callbacks -/

/-- The action returns. -/
abbrev Ends (x : Deed α) : Prop := Returns (fun _ => True) x

theorem current_returns : Ends current := fun _ => ⟨_, rfl, trivial⟩

theorem alter_returns (f : Client → Client) : Ends (alter f) := .update _

theorem log_returns (level : Int) (message : LooseText) (traced : Bool := false) :
    Ends (log level message traced) := fun _ => ⟨(), rfl, trivial⟩

theorem note_returns (e : Event) : Ends (note e) := .alter _

/-- A callback that fails is of no consequence. -/
theorem respond_returns (leave : Deed Unit) (id : Option String) (actions : List CallbackAction)
    (complaint : String) : Ends (respond leave id actions complaint) := by
  refine .bind (.attempt _) fun response _ => ?_
  split
  · exact log_returns _ _ _
  · exact .pure trivial

theorem callBack_returns (leave : Deed Unit) (connected : Bool) :
    Ends (callBack leave connected) := by
  refine .bind current_returns fun c _ => ?_
  split
  · exact .bind (note_returns _) fun _ _ => .bind (alter_returns _) fun _ _ =>
      respond_returns _ _ _ _
  · exact .pure trivial

theorem notify_returns (connected : Bool) : Ends (notify connected) := by
  refine .bind current_returns fun c _ => ?_
  dsimp only
  cases (c.connectionCallback.getD []).length with
  | zero => exact callBack_returns _ _
  | succ depth => exact callBack_returns _ _

theorem setConnected_returns (connected always : Bool) : Ends (setConnected connected always) := by
  refine .bind current_returns fun c _ => .bind (alter_returns _) fun _ _ => ?_
  split
  · exact notify_returns _
  · exact .pure trivial

theorem reportFailure_returns (id : String) : Ends (reportFailure id) := by
  refine .bind current_returns fun c _ => ?_
  split
  · exact .bind (note_returns _) fun _ _ => .bind (alter_returns _) fun _ _ =>
      respond_returns _ _ _ _
  · exact .pure trivial

/-! ## Requests -/

/-- The action returns a proper result. -/
abbrev Answers (x : Deed (Result α)) : Prop := Returns Result.Proper x

theorem refuse_proper {refusal : Refusal} (h : refusal ≠ .bySupervisor "") :
    (refuse refusal : Result α).Proper := Refusal.message_ne_empty h

theorem interpret_returns (r : Request) (operation : Operation) (raw : Bytes) :
    Answers (interpret r operation raw) := by
  refine .bind (.forM fun _ => .alter _) fun _ _ => ?_
  split
  · rename_i fault _
    exact .bind (log_returns _ _ _) fun _ _ => .pure (Error.message_ne_empty nofun)
  · rename_i response h
    split
    · exact .pure trivial
    · rename_i hs
      obtain ⟨text, ht, hne⟩ := (Request.rejection_of_decode h (Bool.eq_false_iff.mpr hs)).message
      rw [ht]
      exact .pure hne

/-- What the session does, the client does with its session. -/
theorem onSession_raises {R : Raised → Prop} {x : Act Session α} (h : Raises R x) :
    Raises R (onSession x) := by
  intro s e he
  rw [outcome_onSession] at he
  exact h _ e he

theorem exchange_raises (r : Request) : Raises Session.OfChannel (exchange r) :=
  .bind (.orStumble fun _ _ => trivial) fun _ => .bind (.map _ .own) fun _ =>
    onSession_raises (Session.exchange_raises _ _)

/-- **A request returns a proper result**, whatever comes of its exchange. -/
theorem request_returns (r : Request) (operation : Operation) : Answers (request r operation) := by
  refine .bind (exchange_raises r).attempt fun outcome h => ?_
  split
  · exact .bind (setConnected_returns _ _) fun _ _ => interpret_returns _ _ _
  · rename_i fault
    exact .bind (log_returns _ _ _) fun _ _ => .bind (setConnected_returns _ _) fun _ _ =>
      .pure (Error.message_ne_empty nofun)
  · rename_i e _
    refine .bind (setConnected_returns _ _) fun _ _ => .bind (log_returns _ _ _) fun _ _ =>
      .pure (Error.message_ne_empty ?_)
    rintro rfl
    exact h _ rfl
  · exact .bind (setConnected_returns _ _) fun _ _ => .bind (log_returns _ _ _) fun _ _ =>
      .pure (Refusal.message_ne_empty nofun)

/-! ## The operations on items -/

theorem flaw_ne_empty {item : Item} {refusal : Refusal} (h : item.flaw? = some refusal) :
    refusal ≠ .bySupervisor "" := by
  rintro rfl
  unfold Item.flaw? at h
  split at h
  · cases h
  · split at h
    · cases h
    · split at h <;> cases h

/-- A success is told in the log. -/
theorem tell_returns {result : Result α} (h : result.Proper) (message : LooseText) :
    Answers (do
      if result.ok then log Level.info message
      pure result) := by
  split
  · exact .bind (log_returns _ _ _) fun _ _ => .pure h
  · exact .pure h

theorem addItem_returns (item : Item) : Answers (addItem item) := by
  unfold addItem
  split
  · exact .pure (refuse_proper (flaw_ne_empty ‹_›))
  · refine .bind (request_returns _ _) fun listed h => ?_
    split
    · exact .pure h
    · exact .pure (refuse_proper nofun)
    · split
      · exact .pure (refuse_proper nofun)
      · exact .bind (request_returns _ _) fun result h => tell_returns h _

theorem updateItem_returns (item : Item) : Answers (updateItem item) := by
  unfold updateItem
  split
  · exact .pure (refuse_proper (flaw_ne_empty ‹_›))
  · exact request_returns _ _

theorem removeItem_returns (id : String) : Answers (removeItem id) := by
  unfold removeItem
  split
  · exact .pure (refuse_proper nofun)
  · exact .bind (request_returns _ _) fun result h => tell_returns h _

theorem startItem_returns (id : String) : Answers (startItem id) := by
  unfold startItem
  split
  · exact .pure (refuse_proper nofun)
  · exact request_returns _ _

theorem stopItem_returns (id : String) : Answers (stopItem id) := by
  unfold stopItem
  split
  · exact .pure (refuse_proper nofun)
  · exact request_returns _ _

theorem withSelf_returns {x : String → Deed (Result Content)} (h : ∀ id, Answers (x id)) :
    Answers (withSelf x) := by
  refine .bind current_returns fun c _ => ?_
  dsimp only
  split
  · exact .pure (refuse_proper nofun)
  · exact h _

/-! ## The operations that read the clock -/

theorem heartbeatError_ne_empty {e : Error} (h : e.message ≠ "") :
    (heartbeatError e).message ≠ "" := by
  cases e with
  | refused refusal => exact Refusal.message_ne_empty nofun
  | _ => exact h

/-- If the clock gives a time, a heartbeat returns a proper result. -/
theorem sendHeartbeat_returns (id : String) {s : Scene (Watch Client)} {millis : Int}
    (h : s.world.epochMillis = .ok millis) :
    ∃ result, outcome (sendHeartbeat id) s = .ok result ∧ result.Proper := by
  rw [sendHeartbeat, outcome_bind, (outcome_epochMillis_eq_ok_iff s millis).mpr h]
  refine Returns.bind (request_returns _ _) (fun result h => ?_) _
  split
  · exact .pure trivial
  · exact .bind (log_returns _ _ _) fun _ _ => .bind (reportFailure_returns id) fun _ _ =>
      .pure (heartbeatError_ne_empty h)

/-- The path of the executable is told at the same time. -/
theorem executable_returns (s : Scene (Watch Client)) :
    ∃ path, outcome executable s = .ok path ∧
      (after executable s).world.epochMillis = s.world.epochMillis := by
  unfold executable
  simp only [outcome_bind, after_bind, outcome_world, after_world]
  cases s.world.exe with
  | ok path => exact ⟨path, rfl, rfl⟩
  | error reason =>
    refine ⟨"", rfl, ?_⟩
    simp [World.epochMillis]

theorem newSelfId_returns (id : Option String) {s : Scene (Watch Client)} {millis : Int}
    (h : s.world.epochMillis = .ok millis) : ∃ name, outcome (newSelfId id) s = .ok name := by
  have ofTime : ∃ name, outcome (do return s!"self-{← Act.epochMillis}" : Deed String) s =
      .ok name :=
    ⟨_, by rw [outcome_bind, (outcome_epochMillis_eq_ok_iff s millis).mpr h]; rfl⟩
  unfold newSelfId
  split
  · split
    · exact ofTime
    · exact ⟨_, rfl⟩
  · exact ofTime

/-- If the clock gives a time, registering the process returns a proper result. -/
theorem addSelf_returns (id : Option String) (timeout : Int) {s : Scene (Watch Client)}
    {millis : Int} (h : s.world.epochMillis = .ok millis) :
    ∃ result, outcome (addSelf id timeout) s = .ok result ∧ result.Proper := by
  obtain ⟨path, hp, ht⟩ := executable_returns s
  obtain ⟨name, hn⟩ := newSelfId_returns id (ht.trans h)
  rw [addSelf, outcome_bind, hp]
  dsimp only
  rw [outcome_bind, hn]
  refine Returns.bind (addItem_returns _) (fun result h => ?_) _
  split
  · exact .bind (alter_returns _) fun _ _ => .bind (log_returns _ _ _) fun _ _ => .pure h
  · exact .pure h

/-! ## Commands of the controller -/

/-- The action returns a success or a failure of the service. -/
abbrev Serves (x : Deed (Result α)) : Prop := Returns Result.OfService x

/-- **A command of the controller returns a result** if its errors are of the service. -/
theorem serviceCall_returns {M : Mishap → Prop} (operation : Operation) {x : Act Controller α}
    (hx : Raises (OfService M) x) : Serves (serviceCall operation x) := by
  have raises : Raises (OfService M) (onController x) := fun s e he => by
    rw [outcome_onController] at he
    exact hx _ e he
  refine .bind raises.attempt fun outcome h => ?_
  split
  · exact .pure trivial
  · obtain ⟨fault, rfl⟩ := h _ rfl
    exact .bind (log_returns _ _ _) fun _ _ => .pure ⟨_, rfl⟩
  · exact .bind (log_returns _ _ _) fun _ _ => .pure ⟨_, rfl⟩

theorem installService_returns (path : String) : Serves (installService path) :=
  serviceCall_returns _ (Controller.install_raises (M := fun _ => True) path)

theorem startService_returns : Serves startService := serviceCall_returns _ Controller.start_raises

end Client

end Vigil
