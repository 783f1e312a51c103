import Vigil.Channel.Session
import Vigil.Proofs.Act
import Vigil.Proofs.Channel.Usage

/-!
# A session connects per call

Every operation of a session takes the stage of the grammar from one to another, whatever the
pipe answers: `close` from any to none, `connect` to a fresh connection or to none, `send` from a
fresh connection or from none to none. Between two calls a session holds nothing or a fresh
connection, so that every run of calls leaves a journal of the grammar.

* `Session.send_held`, `Session.exchange_held`: no connection is held after a transfer.
* `Session.connect_per_call`: connect per call, over every run of calls.
-/

namespace Vigil

variable {start : World} {stage : Stage}

/-! ## The stage of the pipe -/

/-- Since `start` the journal grew by a journal of the grammar, which has come to a stage. -/
def World.Reached (start : World) (stage : Stage) (w : World) : Prop :=
  ∃ t, w.events = start.events ++ t ∧ Usage start.lines t w.lines stage

namespace World.Reached

variable {w : World}

theorem refl (w : World) : Reached w .idle w := ⟨[], by simp, .nothing⟩

/-- An event that a rule adds takes the stage to the one of the rule. -/
theorem note {e : Event} {stage' : Stage} (h : Reached start stage w)
    (rule : ∀ {t}, Usage start.lines t w.lines stage →
      Usage start.lines (t ++ [e]) w.lines stage') :
    Reached start stage' (w.note e) := by
  obtain ⟨t, he, hu⟩ := h
  exact ⟨t ++ [e], by simp [he], rule hu⟩

theorem log (h : Reached start stage w) (source : Source) (level : Int) (message : LooseText)
    (traced : Bool) : Reached start stage (w.log source level message traced) := by
  obtain ⟨t, he, hu⟩ := h
  exact ⟨t, by simp [he], by simpa using hu⟩

theorem amid (h : Reached start stage w) (o : Surroundings) :
    Reached start stage (w.amid o) := h

theorem sleep (h : Reached start stage w) (seconds : Float) :
    Reached start stage (w.sleep seconds) :=
  h.note (e := .sleep seconds) fun hu => hu.aside rfl rfl

theorem waited (h : Reached start stage w) (path : String) (millis : Nat) (answer : Waiting) :
    Reached start stage (w.waited path millis answer) :=
  note (w := { w with waits := w.waits.tail }) h (e := .wait path millis) fun hu =>
    hu.aside rfl rfl

/-- An attempt to open the pipe leads to a fresh connection, or to none again. -/
theorem opened (h : Reached start .idle w) (path : String) (o : Opening) (rest : List Opening) :
    Reached start (if o.result.isOk then .fresh w.lines else .idle) (w.opened path o rest) := by
  obtain ⟨t, he, hu⟩ := h
  have grown : ∀ {w' : World} (e : Event), w'.events = w.events →
      (w'.note e).events = start.events ++ (t ++ [e]) := fun e hw => by
    rw [World.events_note, hw, he, List.append_assoc]
  unfold World.opened
  cases o.result with
  | ok line => exact ⟨_, grown _ rfl, hu.opened⟩
  | error m => exact ⟨_, grown _ rfl, hu.missed⟩

end World.Reached

/-! ## The pipe -/

namespace Pipe

variable {σ : Type}

/-- Waiting does nothing with a connection. -/
theorem wait_reached (path : String) (seconds : Float) :
    Act.Triple (fun s : Scene σ => start.Reached stage s.world) (wait path seconds)
      (fun _ s => start.Reached stage s.world) (fun s => start.Reached stage s.world) := by
  refine .bind .world fun w => ?_
  split
  · exact .alter fun s hs => hs.1.sleep _
  · refine .bind (.orStumble (Q := fun _ s => start.Reached stage s.world)
      (fun _ _ hs => hs.1) fun _ hs => hs.1) fun millis => ?_
    refine .bind .world fun w => ?_
    refine .bind (Q := fun _ s => start.Reached stage s.world) ?_ fun _ => ?_
    · exact .alter fun s hs => hs.1.waited path millis _
    · split
      · exact .stumble fun _ hs => hs
      · split
        · exact .alter fun s hs => hs.log ..
        · exact .pure fun _ hs => hs

theorem tryOpen_reached (path : String) (o : Opening) (rest : List Opening) :
    Act.Triple (fun s : Scene σ => start.Reached .idle s.world) (tryOpen path o rest)
      (fun r s => match r with
        | .ok c => start.Reached (.fresh c.number) s.world
        | .error _ => start.Reached .idle s.world)
      (fun s => start.Reached .idle s.world) := by
  refine .bind .world fun w => .bind (Q := fun _ s =>
    start.Reached (if o.result.isOk then .fresh w.lines else .idle) s.world) ?_ fun _ => ?_
  · refine .alter ?_
    rintro s ⟨hs, rfl⟩
    exact hs.opened path o rest
  · cases o.result with
    | ok line => exact .pure fun _ hs => hs
    | error m => exact .pure fun _ hs => hs

/-- Reaching the pipe opens at most one connection, the one that it gives. -/
theorem reach_reached (path : String) (timeout deadline : Float) (openings : List Opening) :
    Act.Triple (fun s : Scene σ => start.Reached .idle s.world)
      (reach path timeout deadline openings)
      (fun c s => start.Reached (.fresh c.number) s.world)
      (fun s => start.Reached .idle s.world) := by
  induction openings with
  | nil =>
    refine .bind (Q := fun _ s => start.Reached .idle s.world) ?_ fun _ => .fail fun _ hs => hs
    exact .alter fun s hs => hs.opened path .absent []
  | cons o rest ih =>
    refine .bind (tryOpen_reached path o rest) fun r => ?_
    cases r with
    | ok c => exact .pure fun _ hs => hs
    | error fault =>
      cases fault with
      | busy =>
        refine .bind .world fun w => ?_
        dsimp only
        split
        · exact .fail fun _ hs => hs.1
        · exact .bind (.of_pre (wait_reached path _) fun _ hs => hs.1) fun _ => ih
      | missing => exact .fail fun _ hs => hs
      | system fault => exact .fail fun _ hs => hs
      | other mishap => exact .stumble fun _ hs => hs

end Pipe

/-! ## The session -/

namespace Session

/-- The session holds the connection that the stage names. -/
structure Held (start : World) (stage : Stage) (s : Scene Session) : Prop where
  reached : start.Reached stage s.world
  number : s.own.connection.map (·.number) = stage.line?

/-- Closing leads from every stage to none, also if it fails. -/
theorem close_held :
    Act.Triple (Held start stage) close (fun _ => Held start .idle) (Held start .idle) := by
  refine .bind .own fun own => ?_
  split
  · rename_i hc
    refine .pure ?_
    rintro s ⟨hs, rfl⟩
    have hidle : stage = .idle := by
      have := hs.number
      rw [hc] at this
      cases stage <;> simp_all [Stage.line?]
    exact hidle ▸ hs
  · rename_i c hc
    refine .bind (Q := fun _ s => start.Reached stage s.world ∧ stage.line? = some c.number ∧
      s.own.connection = none) ?_ fun _ => ?_
    · refine .update ?_
      rintro s ⟨hs, rfl⟩
      exact ⟨hs.reached, by rw [← hs.number, hc]; rfl, rfl⟩
    refine .bind (Q := fun _ => Held start .idle) ?_ fun _ => ?_
    · refine .alter ?_
      rintro s ⟨hr, hl, hn⟩
      exact ⟨hr.note fun hu => hu.closed hl, by simp [hn, Stage.line?]⟩
    · split
      · exact .pure fun _ hs => hs
      · exact .alter fun s hs => ⟨hs.reached.log .., hs.number⟩
      · exact .stumble fun _ hs => hs

/-- Between two calls a session holds nothing, or a connection that carries nothing yet. -/
def Ready (start : World) (s : Scene Session) : Prop :=
  Held start .idle s ∨ ∃ n, Held start (.fresh n) s

/-- Connecting leads to a fresh connection, or to none if it fails. -/
theorem connect_held (timeout : Float) :
    Act.Triple (Ready start) (connect timeout)
      (fun _ s => ∃ n, Held start (.fresh n) s) (Held start .idle) := by
  refine .bind (Q := fun _ => Held start .idle) ?_ fun _ =>
    .bind .world fun w => .bind .own fun own => ?_
  · refine .of_after ?_
    rintro s (hs | ⟨n, hs⟩) <;> exact close_held.after hs
  refine .bind (Q := fun c s => start.Reached (.fresh c.number) s.world) ?_ fun c => ?_
  · refine .intro (fun s c hs hc => ?_) fun s raised hs he => ?_
    · exact (Pipe.reach_reached ..).of_ok hs.1.1.reached hc
    · refine ⟨(Pipe.reach_reached ..).of_error hs.1.1.reached he, ?_⟩
      rw [Pipe.after_reach_own]
      exact hs.1.1.number
  · refine .bind (Q := fun _ s => Held start (.fresh c.number) s) ?_ fun _ => ?_
    · exact .update fun s hs => ⟨hs, rfl⟩
    · exact .alter fun s hs => ⟨c.number, hs.reached.log .., hs.number⟩

/-- A write puts the whole payload on a fresh connection, or the connection is done with. -/
theorem write_held (c : Connection) (payload : Bytes) :
    Act.Triple (Held start (.fresh c.number)) (write c payload)
      (fun _ => Held start (.sent c.number)) (Held start (.spent c.number)) := by
  unfold write
  dsimp only
  split
  · refine .bind (Q := fun _ => Held start (.spent c.number)) ?_ fun _ => .throw fun _ hs => hs
    exact .alter fun s hs => ⟨hs.reached.note fun hu => hu.failed, hs.number⟩
  · by_cases hshort : c.line.short = 0
    · refine .bind (Q := fun _ => Held start (.sent c.number)) ?_ fun _ => ?_
      · refine .alter fun s hs => ⟨hs.reached.note fun hu => ?_, hs.number⟩
        rw [hshort, Int.sub_zero]
        exact hu.sent
      · rw [if_neg (not_not.mpr hshort)]
        exact .pure fun _ hs => hs
    · refine .bind (Q := fun _ => Held start (.spent c.number)) ?_ fun _ => ?_
      · exact .alter fun s hs => ⟨hs.reached.note fun hu => hu.failed, hs.number⟩
      · rw [if_pos hshort]
        exact .fail fun _ hs => hs

/-- A read comes after a whole payload, and the connection is done with after it. -/
theorem read_held (c : Connection) (limit : Int) :
    Act.Triple (Held start (.sent c.number)) (read c limit)
      (fun _ => Held start (.spent c.number)) (Held start (.spent c.number)) := by
  unfold read
  dsimp only
  split
  all_goals refine .bind (Q := fun _ => Held start (.spent c.number)) ?_ fun _ => ?_
  · exact .alter fun s hs => ⟨hs.reached.note fun hu => hu.read, hs.number⟩
  · exact .throw fun _ hs => hs
  · exact .alter fun s hs => ⟨hs.reached.note fun hu => hu.read, hs.number⟩
  · exact .pure fun _ hs => hs

/-- **No connection is held after a send**, whatever came of it. -/
theorem send_held (payload : Bytes) :
    Act.Triple (Ready start) (send payload) (fun _ => Held start .idle) (Held start .idle) := by
  refine .bind .own fun own => ?_
  split
  · rename_i hc
    refine .fail ?_
    rintro s ⟨hs | ⟨n, hs⟩, rfl⟩
    · exact hs
    · simpa [hc, Stage.line?] using hs.number
  · rename_i c hc
    refine .bind (Q := fun _ => Held start .idle) ?_ fun reply => ?_
    · refine .of_pre (P := Held start (.fresh c.number)) (.ensure
        (.bind (write_held c payload) fun _ => read_held c _)
        (fun _ => close_held) close_held) ?_
      rintro s ⟨hs | ⟨n, hs⟩, rfl⟩
      · simpa [hc, Stage.line?] using hs.number
      · obtain rfl : c.number = n := by simpa [hc, Stage.line?] using hs.number
        exact hs
    · split
      · exact .fail fun _ hs => hs
      · split
        · exact .fail fun _ hs => hs
        · exact .pure fun _ hs => hs

/-- **No connection is held after an exchange**, whatever came of it. -/
theorem exchange_held (payload : Bytes) (timeout : Float) :
    Act.Triple (Ready start) (exchange payload timeout) (fun _ => Held start .idle)
      (Held start .idle) := by
  refine .bind (Q := fun _ => Ready start) ?_ fun _ => .bind .own fun own => ?_
  · refine .alter ?_
    rintro s (hs | ⟨n, hs⟩)
    · exact .inl ⟨hs.reached.note fun hu => hu.aside rfl rfl, hs.number⟩
    · exact .inr ⟨n, hs.reached.note fun hu => hu.aside rfl rfl, hs.number⟩
  · dsimp only
    split
    · exact (send_held payload).of_pre fun _ hs => hs.1
    · refine .bind ((connect_held timeout).of_pre fun _ hs => hs.1) fun _ => ?_
      exact (send_held payload).of_pre fun _ hs => .inr hs

/-! ## Runs of calls -/

/-- Whether a call opens a connection that outlives it. -/
def Call.keeps : Call → Bool
  | .connect _ => true
  | _ => false

/-- Every call finds a session ready and leaves it ready. -/
theorem perform_ready (c : Call) :
    Act.Triple (Ready start) (perform c)
      (fun _ s => Ready start s ∧ (c.keeps = false → Held start .idle s))
      (fun s => Ready start s ∧ (c.keeps = false → Held start .idle s)) := by
  have idle : ∀ s, Held start .idle s → Ready start s ∧ (c.keeps = false → Held start .idle s) :=
    fun s hs => ⟨.inl hs, fun _ => hs⟩
  cases c with
  | connect timeout =>
    refine .bind (.mono (connect_held timeout) (fun _ hs => hs) (fun _ s hs => ?_) idle) fun _ =>
      .pure (Q := fun _ s => _) fun _ hs => hs
    exact ⟨.inr hs, nofun⟩
  | send payload => exact .map (.mono (send_held payload) (fun _ hs => hs) (fun _ => idle) idle)
  | exchange payload timeout =>
    exact .map (.mono (exchange_held payload timeout) (fun _ hs => hs) (fun _ => idle) idle)
  | disconnect =>
    refine .bind ?_ fun _ => .pure fun _ hs => hs
    refine .of_after ?_
    rintro s (hs | ⟨n, hs⟩) <;> exact idle _ (close_held.after hs)

/-- Every run of calls finds and leaves a session ready. -/
theorem run_ready {w : World} {path : String} {size : Int} {calls : List Call} {s : Scene Session}
    (run : Act.Run perform ⟨w, { path, bufferSize := size }⟩ calls s) :
    Ready w s ∧ ∀ c, calls.getLast? = some c → c.keeps = false → Held w .idle s := by
  induction run with
  | start => exact ⟨.inl ⟨.refl w, rfl⟩, nofun⟩
  | call run c ih =>
    have h := (perform_ready c).after ih.1
    refine ⟨h.1, fun d hd => ?_⟩
    obtain rfl : c = d := by simpa using hd
    exact h.2
  | outside run o ih =>
    refine ⟨?_, fun c hc hk => ?_⟩
    · rcases ih.1 with hs | ⟨n, hs⟩
      · exact .inl ⟨hs.reached.amid o, hs.number⟩
      · exact .inr ⟨n, hs.reached.amid o, hs.number⟩
    · exact ⟨(ih.2 c hc hk).reached.amid o, (ih.2 c hc hk).number⟩

/-- A session is open if and only if a connection is. -/
theorem Held.isOpen_iff {s : Scene Session} {t : List Event} {next : Nat}
    (h : Held start stage s) (hu : Usage first t next stage) :
    s.own.isOpen = true ↔ unclosed t ≠ [] := by
  rw [hu.known.unclosed_eq, ← h.number, isOpen]
  cases s.own.connection <;> simp

/-- **Connect per call.** Whatever is called, in any order, whatever the pipe answers: the session
uses its connections one at a time, each for one request; it is open if and only if a connection
is; and after a send, an exchange or a disconnect none is. -/
theorem connect_per_call {w : World} {path : String} {size : Int} {calls : List Call}
    {s : Scene Session} (run : Act.Run perform ⟨w, { path, bufferSize := size }⟩ calls s) :
    ∃ t, s.world.events = w.events ++ t ∧ ConnectPerCall t ∧
      (s.own.isOpen = true ↔ unclosed t ≠ []) ∧
      ∀ c, calls.getLast? = some c → c.keeps = false → unclosed t = [] := by
  obtain ⟨ready, last⟩ := run_ready run
  obtain ⟨stage, hs⟩ : ∃ stage, Held w stage s := by
    rcases ready with hs | ⟨n, hs⟩
    · exact ⟨.idle, hs⟩
    · exact ⟨.fresh n, hs⟩
  obtain ⟨t, he, hu⟩ := hs.reached
  refine ⟨t, he, hu.connectPerCall, hs.isOpen_iff hu, fun c hc hk => ?_⟩
  have shut : s.own.connection = none := by simpa [Stage.line?] using (last c hc hk).number
  by_contra hne
  have := (hs.isOpen_iff hu).mpr hne
  simp [isOpen, shut] at this

/-- A session that connects and sends one request. -/
theorem connect_per_call_of_request :
    let w : World := { pipe := [⟨.ok { reply := [2, 3] }, none⟩] }
    let calls : List Call := [.connect 0.0, .send [1]]
    ∃ s, Act.Run perform ⟨w, { path := "p", bufferSize := 2 }⟩ calls s ∧
      s.world.events =
        [.openPipe "p" (some 0), .write 0 [1] (.ok 1), .read 0 3 (.ok [2, 3]), .close 0 none] ∧
      ∃ t, s.world.events = w.events ++ t ∧ ConnectPerCall t ∧
        (s.own.isOpen = true ↔ unclosed t ≠ []) ∧
        ∀ c, calls.getLast? = some c → c.keeps = false → unclosed t = [] := by
  intro w calls
  have run : Act.Run perform ⟨w, { path := "p", bufferSize := 2 }⟩ calls _ :=
    .call (.call .start (Call.connect 0.0)) (Call.send [1])
  exact ⟨_, run, rfl, connect_per_call run⟩

end Session

end Vigil
