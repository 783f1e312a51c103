import Vigil.Proofs.Channel.Exchange
import Vigil.Proofs.Client.Operations
import Vigil.Proofs.Client.Reply

/-!
# One exchange, one truthful outcome

A client without callbacks that makes a request makes one exchange, and both what it returns and
what it remembers of the channel can be read off what the outside saw of that exchange.

* `Client.Concludes.truthful`: what is returned and remembered tells the course of the exchange.
* `Client.request_tells`: so does every request that has bytes.
* `Client.one_exchange`: so does every operation that is made of one request.
-/

namespace Vigil

open Act

/-- **A truthful outcome** of a request that was sent over a session with a buffer of some size:
what is remembered of the channel, and the result, are those that the events tell. -/
structure Truthful (r : Request) (payload : Bytes) (size : Int) (t : List Event)
    (connected : Bool) (result : Result Content) : Prop where
  single : Single payload t
  connected_iff : connected = true ↔ ∃ n reply, Carried payload t n reply
  channel : ∀ fault, result = .failure (.channel fault) → connected = false
  protocol_iff : (∃ fault, result = .failure (.protocol fault)) ↔
    connected = true ∧ ∃ reply, Session.Replied t reply ∧
      (size < reply.length ∨ ∃ fault, r.decode reply = .error fault)
  ok_iff : result.ok = true ↔ connected = true ∧ ∃ reply, Session.Replied t reply ∧
    (reply.length : Int) ≤ size ∧ ∃ response, r.decode reply = .ok response ∧
      response.success = true

namespace Client

variable {r : Request} {payload : Bytes} {size : Int} {t : List Event} {s : Scene (Watch Client)}

/-! ## What the end of an exchange tells -/

/-- What a client remembers and returns when an exchange ends. -/
inductive Concludes (r : Request) (operation : Operation) :
    Except Raised Bytes → Bool → Result Content → Prop
  | replied {raw} : Concludes r operation (.ok raw) true (r.verdict raw)
  | oversized {fault} : Concludes r operation (.error (.error (.protocol fault))) true
      (.failure (.protocol fault))
  | cut {fault} : Concludes r operation (.error (.error (.channel fault))) false
      (.failure (.channel fault))
  | broken {m} : Concludes r operation (.error (.mishap m)) false
      (.failure (.refused (.unexpected operation m)))

/-- The verdict on a reply that was decoded. -/
theorem verdict_cases (r : Request) (raw : Bytes) :
    (∃ fault, r.decode raw = .error fault ∧ r.verdict raw = .failure (.protocol fault)) ∨
      ∃ response, r.decode raw = .ok response ∧
        (response.success = true ∧ (∃ content skipped, r.verdict raw = .success content skipped) ∨
          response.success = false ∧ ∃ refusal, r.verdict raw = .failure (.refused refusal)) := by
  unfold Request.verdict
  cases r.decode raw with
  | error fault => exact .inl ⟨fault, rfl, rfl⟩
  | ok response =>
    refine .inr ⟨response, rfl, ?_⟩
    cases hs : response.success with
    | true => exact .inl ⟨rfl, _, _, by simp [hs]; exact ⟨rfl, rfl⟩⟩
    | false => exact .inr ⟨rfl, _, by simp [hs]; rfl⟩

/-- The verdict is a success if and only if the reply says so. -/
theorem verdict_ok_iff (r : Request) (raw : Bytes) : (r.verdict raw).ok = true ↔
    ∃ response, r.decode raw = .ok response ∧ response.success = true := by
  rcases verdict_cases r raw with
    ⟨fault, e, v⟩ | ⟨response, e, ⟨success, content, skipped, v⟩ | ⟨refused, refusal, v⟩⟩
  · rw [v, e]
    exact ⟨nofun, nofun⟩
  · rw [v]
    exact ⟨fun _ => ⟨response, e, success⟩, fun _ => rfl⟩
  · rw [v]
    refine ⟨nofun, ?_⟩
    rintro ⟨other, decoded, success⟩
    obtain rfl := Except.ok.inj (e.symm.trans decoded)
    cases refused.symm.trans success

/-- The verdict is an error of the protocol if and only if the reply cannot be decoded. -/
theorem verdict_protocol_iff (r : Request) (raw : Bytes) :
    (∃ fault, r.verdict raw = .failure (.protocol fault)) ↔
      ∃ fault, r.decode raw = .error fault := by
  rcases verdict_cases r raw with
    ⟨fault, e, v⟩ | ⟨response, e, ⟨success, content, skipped, v⟩ | ⟨refused, refusal, v⟩⟩
  · exact ⟨fun _ => ⟨fault, e⟩, fun _ => ⟨fault, v⟩⟩
  · rw [v, e]
    exact ⟨nofun, nofun⟩
  · rw [v, e]
    exact ⟨nofun, nofun⟩

/-- The verdict on a reply is no error of the channel. -/
theorem verdict_ne_channel (r : Request) (raw : Bytes) (fault : ChannelFault) :
    r.verdict raw ≠ .failure (.channel fault) := by
  intro h
  rcases verdict_cases r raw with
    ⟨fault, e, v⟩ | ⟨response, e, ⟨success, content, skipped, v⟩ | ⟨refused, refusal, v⟩⟩
  all_goals cases v.symm.trans h

/-- What was not carried out is told to have failed, by an error that is none of the protocol. -/
theorem truthful_of_lost {e : Error} (single : Single payload t)
    (never : ∀ n reply, ¬Carried payload t n reply) (he : ∀ fault, e ≠ .protocol fault) :
    Truthful r payload size t false (.failure e) where
  single := single
  connected_iff := ⟨nofun, fun ⟨n, reply, carried⟩ => absurd carried (never n reply)⟩
  channel _ _ := rfl
  protocol_iff := ⟨fun ⟨fault, h⟩ => absurd (Result.failure.inj h) (he fault), nofun⟩
  ok_iff := ⟨nofun, nofun⟩

/-- What was carried out is told by what the only reply comes to. -/
theorem truthful_of_carried {n : Nat} {reply : Bytes} {result : Result Content}
    (single : Single payload t) (carried : Carried payload t n reply)
    (sole : ∀ reply', Session.Replied t reply' → reply' = reply)
    (channel : ∀ fault, result ≠ .failure (.channel fault))
    (protocol : (∃ fault, result = .failure (.protocol fault)) ↔
      size < reply.length ∨ ∃ fault, r.decode reply = .error fault)
    (ok : result.ok = true ↔ (reply.length : Int) ≤ size ∧
      ∃ response, r.decode reply = .ok response ∧ response.success = true) :
    Truthful r payload size t true result := by
  obtain ⟨limit, read⟩ := carried.read
  have only (p : Bytes → Prop) :
      (true = true ∧ ∃ reply', Session.Replied t reply' ∧ p reply') ↔ p reply :=
    ⟨fun ⟨_, reply', h, hp⟩ => sole reply' h ▸ hp, fun hp => ⟨rfl, reply, ⟨n, limit, read⟩, hp⟩⟩
  refine ⟨single, ⟨fun _ => ⟨n, reply, carried⟩, fun _ => rfl⟩,
    fun fault h => absurd h (channel fault), ?_, ?_⟩
  · rw [only]
    exact protocol
  · rw [only]
    exact ok

/-- **The end of an exchange is told truthfully.** -/
theorem Concludes.truthful {operation : Operation} {ends : Except Raised Bytes} {connected : Bool}
    {result : Result Content} (h : Concludes r operation ends connected result)
    (course : Session.Course payload size t ends) : Truthful r payload size t connected result := by
  rcases course.cases with ⟨n, reply, carried, sole, rfl⟩ | ⟨never, raised, rfl, lost⟩
  · unfold Session.ending at h
    split at h
    · rename_i large
      cases h
      exact truthful_of_carried course.single carried sole nofun
        ⟨fun _ => .inl large, fun _ => ⟨_, rfl⟩⟩
        ⟨nofun, fun fits => absurd large (Int.not_lt.mpr fits.1)⟩
    · rename_i fits
      cases h
      exact truthful_of_carried course.single carried sole (verdict_ne_channel r reply)
        ((verdict_protocol_iff r reply).trans (or_iff_right fits).symm)
        ((verdict_ok_iff r reply).trans (and_iff_right (Int.not_lt.mp fits)).symm)
  · cases h with
    | oversized => exact lost.elim
    | cut => exact truthful_of_lost course.single never nofun
    | broken => exact truthful_of_lost course.single never nofun

/-! ## Without callbacks -/

/-- There is no callback to be called. -/
structure Uncalled (c : Client) : Prop where
  connection : c.connectionCallback = none
  heartbeat : c.heartbeatCallback = none

/-- Leaves all but the log as it is. -/
def logs : Frame (Scene (Watch Client)) where
  holds a b := b.own = a.own ∧ b.world.events = a.world.events
  refl _ := ⟨rfl, rfl⟩
  trans hab hbc := ⟨hbc.1.trans hab.1, hbc.2.trans hab.2⟩

theorem logs_log (source : Source) (level : Int) (message : LooseText) (traced : Bool) :
    Respects logs (Act.log source level message traced) := fun s =>
  ⟨rfl, World.events_log s.world source level message traced⟩

/-- The exchange is over, and the client remembers this of the channel. -/
structure Settled (past : Scene (Watch Client)) (connected : Bool) (s : Scene (Watch Client)) :
    Prop where
  events : s.world.events = past.world.events
  flag : s.own.host.connected = connected
  uncalled : Uncalled s.own.host

theorem Settled.logs {past s' : Scene (Watch Client)} {connected : Bool}
    (h : Settled past connected s) (hs : logs.holds s s') : Settled past connected s' where
  events := hs.2.trans h.events
  flag := by rw [hs.1, h.flag]
  uncalled := by
    rw [hs.1]
    exact h.uncalled

/-- Nobody is told. -/
theorem notify_uncalled (h : Uncalled s.own.host) (connected : Bool) :
    Reaches s (notify connected) fun _ t => t = s := notify_of_none h.connection connected

/-- Without a callback the flag is set and nothing else happens. -/
theorem setConnected_settles {past : Scene (Watch Client)} {before : Bool}
    (h : Settled past before s) (connected : Bool) :
    Reaches s (setConnected connected) fun _ t => Settled past connected t := by
  have uncalled : Uncalled { s.own.host with connected } :=
    ⟨h.uncalled.connection, h.uncalled.heartbeat⟩
  refine .bind ⟨s.own.host, rfl, .bind (.update ?_)⟩
  split
  · refine (notify_uncalled uncalled connected).mono ?_
    rintro _ t rfl
    exact ⟨h.events, rfl, uncalled⟩
  · exact .pure ⟨h.events, rfl, uncalled⟩

/-- What is returned, and what is remembered then, is what the exchange came to. -/
def Concluded (r : Request) (operation : Operation) (s : Scene (Watch Client))
    (result : Result Content) (t : Scene (Watch Client)) : Prop :=
  Concludes r operation (outcome (exchange r) s) t.own.host.connected result ∧
    Settled (after (exchange r) s) t.own.host.connected t

/-- The flag is set, something may be logged, and the result is returned. -/
theorem concluded_of_settled {operation : Operation} {x : Deed (Result Content)}
    {result : Result Content} {connected : Bool} {t : Scene (Watch Client)}
    (ends : Concludes r operation (outcome (exchange r) s) connected result)
    (ht : Settled (after (exchange r) s) connected t) (hx : Returns (· = result) x)
    (hl : Respects logs x) : Reaches t x (Concluded r operation s) := by
  obtain ⟨_, e, rfl⟩ := hx t
  have settled := ht.logs (hl t)
  obtain rfl := settled.flag
  exact ⟨_, e, ends, settled⟩

/-- **A client without callbacks remembers and returns what its exchange came to**, and nothing
happens after the exchange. -/
theorem request_concludes (operation : Operation) (h : Uncalled (after (exchange r) s).own.host) :
    Reaches s (request r operation) (Concluded r operation s) := by
  have start : Settled (after (exchange r) s) _ (after (exchange r) s) := ⟨rfl, rfl, h⟩
  refine .bind (.attempt ?_)
  cases he : outcome (exchange r) s with
  | ok raw =>
    refine .bind ((setConnected_settles start true).mono fun _ t ht => ?_)
    exact concluded_of_settled (he ▸ .replied) ht (interpret_verdict operation raw)
      (respects_interpret logs_log r operation raw)
  | error raised =>
    match raised, exchange_raises r s raised he with
    | .error (.channel fault), _ =>
      refine .bind ⟨(), rfl, .bind ?_⟩
      refine (setConnected_settles (start.logs (logs_log _ _ _ _ _)) false).mono fun _ t ht => ?_
      exact concluded_of_settled (he ▸ .cut) ht (.pure rfl) (.pure _)
    | .error (.protocol fault), _ =>
      refine .bind ((setConnected_settles start true).mono fun _ t ht => ?_)
      exact concluded_of_settled (he ▸ .oversized) ht
        (.bind (log_returns _ _ _) fun _ _ => .pure rfl) (.bind (logs_log _ _ _ _) fun _ => .pure _)
    | .mishap m, _ =>
      refine .bind ((setConnected_settles start false).mono fun _ t ht => ?_)
      exact concluded_of_settled (he ▸ .broken) ht
        (.bind (log_returns _ _ _) fun _ _ => .pure rfl) (.bind (logs_log _ _ _ _) fun _ => .pure _)

/-- An exchange of a client takes one of the courses, and changes nothing but the session. -/
theorem exchange_course (h : r.encode = .ok payload) (s : Scene (Watch Client)) :
    ∃ t session, (after (exchange r) s).world.events = s.world.events ++ .exchange payload :: t ∧
      Session.Course payload s.own.host.session.bufferSize t (outcome (exchange r) s) ∧
      (after (exchange r) s).own = { s.own with host := { s.own.host with session } } := by
  obtain ⟨t, events, course⟩ :=
    Session.exchange_course payload s.own.host.connectTimeout (sessionOf s)
  rw [(exchange_eq h s).1, (exchange_eq h s).2, after_onSession]
  exact ⟨t, _, events, course, rfl⟩

/-- From one scene to the other there was one exchange, and the result and the flag tell of it. -/
def Tells (r : Request) (payload : Bytes) (s : Scene (Watch Client)) (result : Result Content)
    (s' : Scene (Watch Client)) : Prop :=
  Uncalled s'.own.host ∧ ∃ t, s'.world.events = s.world.events ++ .exchange payload :: t ∧
    Truthful r payload s.own.host.session.bufferSize t s'.own.host.connected result

/-- **A request that has bytes makes one exchange and tells the truth about it.** -/
theorem request_tells (h : r.encode = .ok payload) (operation : Operation)
    (quiet : Uncalled s.own.host) : Reaches s (request r operation) (Tells r payload s) := by
  obtain ⟨t, session, events, course, own⟩ := exchange_course h s
  have still : Uncalled (after (exchange r) s).own.host := by
    rw [own]
    exact ⟨quiet.connection, quiet.heartbeat⟩
  refine (request_concludes operation still).mono fun result s' ⟨ends, settled⟩ => ?_
  exact ⟨settled.uncalled, t, settled.events.trans events, ends.truthful course⟩

/-! ## The operations -/

theorem Tells.logs {result : Result Content} {s' s'' : Scene (Watch Client)}
    (h : Tells r payload s result s') (hs : logs.holds s' s'') : Tells r payload s result s'' := by
  obtain ⟨quiet, t, events, truthful⟩ := h
  obtain ⟨own, same⟩ := hs
  rw [Tells, own, same]
  exact ⟨quiet, t, events, truthful⟩

/-- The error of a heartbeat is of the family of the error of its request. -/
theorem Tells.heartbeat {e : Error} {s' : Scene (Watch Client)}
    (h : Tells r payload s (.failure e) s') :
    Tells r payload s (.failure (heartbeatError e)) s' := by
  obtain ⟨quiet, t, events, truthful⟩ := h
  refine ⟨quiet, t, events, ?_⟩
  cases e with
  | refused refusal =>
    exact ⟨truthful.single, truthful.connected_iff, nofun,
      ⟨nofun, fun h => absurd (truthful.protocol_iff.mpr h) nofun⟩, truthful.ok_iff⟩
  | _ => exact truthful

/-- A heartbeat tells the truth about its exchange. -/
theorem sendHeartbeat_tells {id : String} {millis : Int} (now : s.world.epochMillis = .ok millis)
    (h : (Request.heartbeat id millis).encode = .ok payload) (quiet : Uncalled s.own.host) :
    Reaches s (sendHeartbeat id) (Tells (.heartbeat id millis) payload s) := by
  refine .bind ⟨millis, (outcome_epochMillis_eq_ok_iff s millis).mpr now, ?_⟩
  rw [after_epochMillis]
  refine .bind ((request_tells h .heartbeat quiet).mono fun result s' ht => ?_)
  split
  · exact .pure ht
  · rename_i e
    let message := s!"Heartbeat for '{id}' was not accepted: " ++ (heartbeatError e).message
    have told := ht.logs (logs_log .client Level.warning message false s')
    refine .bind ⟨(), rfl, .bind ((reportFailure_of_none told.1.heartbeat id).mono ?_)⟩
    rintro _ t rfl
    exact .pure told.heartbeat

/-- To remove an item is to make a request, and to log its success. -/
theorem removeItem_tells {id : String} (hid : id ≠ "")
    (h : (Request.remove id).encode = .ok payload) (quiet : Uncalled s.own.host) :
    Reaches s (removeItem id) (Tells (.remove id) payload s) := by
  rw [removeItem, if_neg hid]
  refine .bind ((request_tells h .removeItem quiet).mono fun result s' ht => ?_)
  split
  · exact .bind ⟨(), rfl, .pure (ht.logs (logs_log _ _ _ _ s'))⟩
  · exact .pure ht

/-- The call is made of this request alone. -/
inductive Makes : ClientCall → World → Request → Prop
  | list {w} : Makes .listItems w .list
  | status {w} : Makes .serviceStatus w .status
  | update {w item} (h : item.flaw? = none) : Makes (.updateItem item) w (.update item)
  | remove {w id} (h : id ≠ "") : Makes (.removeItem id) w (.remove id)
  | start {w id} (h : id ≠ "") : Makes (.startItem id) w (.start id)
  | stop {w id} (h : id ≠ "") : Makes (.stopItem id) w (.stop id)
  | heartbeat {w : World} {id millis} (h : w.epochMillis = .ok millis) :
      Makes (.sendHeartbeat id) w (.heartbeat id millis)

/-- **One exchange, one truthful outcome.** A client without callbacks is asked for something that
takes one request, which has bytes. In whatever state its session is, and whatever the pipe does,
there is one exchange and nothing else: one connection at most is opened and one payload at most is
written, with no further try after a write or a read. The client is connected then if and only if
the payload was written whole, a reply was read and the connection was closed without harm. An error
of the channel says that it is not; an error of the protocol says that it is, and that the reply is
too long or cannot be decoded; and a success says that the reply was decoded to one. -/
theorem one_exchange {call : ClientCall} (makes : Makes call s.world r)
    (h : r.encode = .ok payload) (quiet : Uncalled s.own.host) :
    ∃ result t, outcome (perform call) s = .ok (.request result) ∧
      (after (perform call) s).world.events = s.world.events ++ .exchange payload :: t ∧
      Truthful r payload s.own.host.session.bufferSize t
        (after (perform call) s).own.host.connected result := by
  have tells {x : Deed (Result Content)} (does : perform call = .request <$> x)
      (hx : Reaches s x (Tells r payload s)) :
      ∃ result t, outcome (perform call) s = .ok (.request result) ∧
        (after (perform call) s).world.events = s.world.events ++ .exchange payload :: t ∧
        Truthful r payload s.own.host.session.bufferSize t
          (after (perform call) s).own.host.connected result := by
    obtain ⟨result, e, -, t, events, truthful⟩ := hx
    rw [does, outcome_map, after_map, e]
    exact ⟨result, t, rfl, events, truthful⟩
  cases makes with
  | list => exact tells rfl (request_tells h .listItems quiet)
  | status => exact tells rfl (request_tells h .serviceStatus quiet)
  | update lacks =>
    refine tells rfl ?_
    rw [updateItem, lacks]
    exact request_tells h .updateItem quiet
  | remove hid => exact tells rfl (removeItem_tells hid h quiet)
  | start hid =>
    refine tells rfl ?_
    rw [startItem, if_neg hid]
    exact request_tells h .startItem quiet
  | stop hid =>
    refine tells rfl ?_
    rw [stopItem, if_neg hid]
    exact request_tells h .stopItem quiet
  | heartbeat now => exact tells rfl (sendHeartbeat_tells now h quiet)

/-- A reply that is too long, on a connection whose close fails: the client is connected, and the
exchange was carried out. -/
theorem one_exchange_of_oversized :
    let line : Line := { reply := [0, 0], closeFault := some (.os .noSuchFile) }
    let s : Scene (Watch Client) :=
      ⟨{ pipe := [⟨.ok line, none⟩] }, { host := create { pipeBufferSize := 1 } {} }⟩
    Makes .listItems s.world .list ∧ Uncalled s.own.host ∧
      (after (perform .listItems) s).own.host.connected = true ∧
      ∃ payload, Request.list.encode = .ok payload ∧
      ∃ result t, outcome (perform .listItems) s = .ok (.request result) ∧
        (after (perform .listItems) s).world.events =
          s.world.events ++ .exchange payload :: t ∧
        Single payload t ∧ ∃ n reply, Carried payload t n reply := by
  intro line s
  have list : Request.list.Sendable := .of_none rfl rfl
  have quiet : Uncalled s.own.host := ⟨rfl, rfl⟩
  have connected : (after (perform .listItems) s).own.host.connected = true := by decide +kernel
  obtain ⟨result, t, e, events, truthful⟩ := one_exchange .list list.encode quiet
  exact ⟨.list, quiet, connected, _, list.encode, result, t, e, events, truthful.single,
    truthful.connected_iff.mp connected⟩

end Client

end Vigil
