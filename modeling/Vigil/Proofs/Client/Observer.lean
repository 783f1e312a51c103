import Vigil.Proofs.Client.Attention

/-!
# The connection callback as an observer

From one step to a run of calls: what the connection callback was told last is what the client says
of its connection, and what it is told repeats itself only where somebody connects or disconnects
explicitly.

* `Client.perform_noticed`: one step.
* `Client.noticed_of_run`: every run of calls.
* `Client.connection_observed`: both, for the last call of a run.
-/

namespace Vigil

open Act

/-- The call replaces the connection callback. -/
def ClientCall.replaces : ClientCall → Bool
  | .setConnectionCallback _ => true
  | _ => false

/-- What the call has the heartbeat callback do from now on. -/
def ClientCall.script : ClientCall → List CallbackAction
  | .setHeartbeatCallback (some callback) => callback.flatten
  | _ => []

namespace Client

variable {call : ClientCall} {s s' : Scene (Watch Client)} {u : List Event}

/-- What a step adds to the journal was observed by the connection callback, which was there before
the step; and the callbacks did and may do nothing else than what they might do or were given. -/
structure Noticed (call : ClientCall) (s s' : Scene (Watch Client)) (u : List Event) : Prop where
  events : s'.world.events = s.world.events ++ u
  faithful : Faithful call s.own.host.connected u
  flag : s'.own.host.connected = (told u).getLastD s.own.host.connected
  registered : s.own.host.connectionCallback ≠ none
  scripts : ∀ action ∈ s'.own.host.scripts, action ∈ s.own.host.scripts ∨ action ∈ call.script
  scripted : ∀ id action, .reacts id action ∈ u → action ∈ s.own.host.scripts

/-- **Every step is observed** by a connection callback that it neither replaces nor unsets. -/
theorem perform_noticed (replaces : call.replaces = false)
    (registered : (after (perform call) s).own.host.connectionCallback ≠ none) :
    ∃ u, Noticed call s (after (perform call) s) u := by
  cases registers : call.registers with
  | false =>
    obtain ⟨u, followed, known⟩ := perform_attended s registers
    obtain ⟨faithful, flag⟩ := known.resolve_left registered
    exact ⟨u, followed.events, faithful, flag, followed.remains.registered registered,
      fun action ha => .inl (followed.remains.scripts action ha), followed.scripted⟩
  | true =>
    cases call with
    | setConnectionCallback callback => cases replaces
    | setHeartbeatCallback callback =>
      refine ⟨[], (List.append_nil _).symm, .nil, rfl, registered, fun action ha => ?_,
        fun _ _ he => nomatch he⟩
      rcases mem_scripts.mp ha with hc | hb
      · exact .inl (mem_scripts.mpr (.inl hc))
      · cases callback with
        | none => cases hb
        | some callback => exact .inr hb
    | _ => cases registers

/-- A new client with a connection callback. -/
def observed (settings : Settings) (options : ClientOptions) (callback : Callback) :
    Watch Client :=
  { host := { create settings options with connectionCallback := some callback } }

variable {w : World} {settings : Settings} {options : ClientOptions}
  {callback : Callback} {calls : List ClientCall}

/-- Neither the calls nor the callbacks connect or disconnect explicitly. -/
def Implicit (callback : Callback) (calls : List ClientCall) : Prop :=
  .disconnect ∉ callback.flatten ∧ ∀ c ∈ calls, c.isExplicit = false ∧ .disconnect ∉ c.script

/-- **The flag is what the connection callback was told last**, after every run of calls; and
without explicit calls, no notice repeats the one before. -/
theorem noticed_of_run (run : Run perform ⟨w, observed settings options callback⟩ calls s)
    (kept : ∀ c ∈ calls, c.replaces = false)
    (registered : s.own.host.connectionCallback ≠ none) :
    ∃ t, s.world.events = w.events ++ t ∧ (told t).getLastD false = s.own.host.connected ∧
      (Implicit callback calls → .disconnect ∉ s.own.host.scripts ∧ Fresh false t) := by
  induction run with
  | start =>
    refine ⟨[], (List.append_nil _).symm, rfl, fun implicit => ⟨?_, ?_⟩⟩
    · simpa [observed, create, scripts] using implicit.1
    · intro v d x split
      cases v <;> cases split
  | outside _ o ih => exact ih kept registered
  | call _ c ih =>
    rename_i calls s _
    obtain ⟨u, noticed⟩ := perform_noticed (kept c (by simp)) registered
    obtain ⟨t, events, last, quiet⟩ :=
      ih (fun d hd => kept d (List.mem_append_left _ hd)) noticed.registered
    refine ⟨t ++ u, ?_, ?_, fun implicit => ?_⟩
    · rw [noticed.events, events, List.append_assoc]
    · rw [lastTold_append, last, noticed.flag]
    · obtain ⟨none, fresh⟩ :=
        quiet ⟨implicit.1, fun d hd => implicit.2 d (List.mem_append_left _ hd)⟩
      obtain ⟨explicit, script⟩ := implicit.2 c (by simp)
      refine ⟨fun left => ?_, fresh.append ?_⟩
      · rcases noticed.scripts _ left with hs | hc
        · exact none hs
        · exact script hc
      · rw [last]
        exact noticed.faithful.fresh explicit fun id hu => none (noticed.scripted id _ hu)

/-- **The connection callback is a faithful observer, and a minimal one.** A client is created with
a connection callback, and after a run of calls one more is made; the callback is still there. Then
what it was told last is what the client says of its connection. What it was told during the last
call repeats what it was told before only where this was made explicitly. And where neither the
calls nor the callbacks connect or disconnect explicitly, what it was told alternates, and was first
that the client is connected. -/
theorem connection_observed
    (run : Run perform ⟨w, observed settings options callback⟩ calls s) (c : ClientCall)
    (kept : ∀ d ∈ calls ++ [c], d.replaces = false)
    (registered : (after (perform c) s).own.host.connectionCallback ≠ none) :
    ∃ t u, s.world.events = w.events ++ t ∧
      (after (perform c) s).world.events = s.world.events ++ u ∧
      (told (t ++ u)).getLastD false = (after (perform c) s).own.host.connected ∧
      (∀ v b x, u = v ++ .connectionCallback b :: x → (told (t ++ v)).getLastD false = b →
        Explicit c v) ∧
      (Implicit callback (calls ++ [c]) →
        told (t ++ u) = alternating true (told (t ++ u)).length) := by
  obtain ⟨u, noticed⟩ := perform_noticed (kept c (by simp)) registered
  obtain ⟨t, events, last, -⟩ := noticed_of_run run
    (fun d hd => kept d (List.mem_append_left _ hd)) noticed.registered
  obtain ⟨all, hall, last', quiet⟩ := noticed_of_run (.call run c) kept registered
  obtain rfl : t ++ u = all := by
    rw [noticed.events, events, List.append_assoc] at hall
    exact List.append_cancel_left hall
  refine ⟨t, u, events, noticed.events, last', fun v b x split repeats => ?_, fun implicit => ?_⟩
  · refine noticed.faithful v b x split ?_
    rw [← last, ← lastTold_append]
    exact repeats
  · exact (quiet implicit).2.told_eq

/-- A supervisor that replies once and then is gone; the callback fails when it is called first. -/
theorem connection_observed_of_loss :
    ∃ w s, Run perform ⟨w, observed {} {} [[.fail]]⟩ [.listItems] s ∧
      (∀ d ∈ [ClientCall.listItems] ++ [.listItems], d.replaces = false) ∧
      (after (perform .listItems) s).own.host.connectionCallback ≠ none ∧
      Implicit [[.fail]] ([.listItems] ++ [.listItems]) ∧
      told (after (perform .listItems) s).world.events = [true, false] ∧
      ∃ t u, s.world.events = w.events ++ t ∧
        (after (perform .listItems) s).world.events = s.world.events ++ u ∧
        (told (t ++ u)).getLastD false = (after (perform .listItems) s).own.host.connected ∧
        told (t ++ u) = alternating true (told (t ++ u)).length := by
  let w : World := { pipe := [⟨.ok { reply := [0] }, none⟩] }
  let s := after (perform .listItems) ⟨w, observed {} {} [[.fail]]⟩
  have run : Run perform ⟨w, observed {} {} [[.fail]]⟩ [.listItems] s :=
    .call .start ClientCall.listItems
  have kept : ∀ d ∈ [ClientCall.listItems] ++ [.listItems], d.replaces = false := by
    simp [ClientCall.replaces]
  have registered : (after (perform .listItems) s).own.host.connectionCallback ≠ none := by
    decide +kernel
  have notices : told (after (perform .listItems) s).world.events = [true, false] := by
    decide +kernel
  have implicit : Implicit [[.fail]] ([.listItems] ++ [.listItems]) := by
    refine ⟨by decide, fun c hc => ?_⟩
    obtain rfl : c = .listItems := by simpa using hc
    exact ⟨rfl, nofun⟩
  obtain ⟨t, u, ht, hu, last, -, alternates⟩ := connection_observed run .listItems kept registered
  exact ⟨w, s, run, kept, registered, implicit, notices, t, u, ht, hu, last, alternates implicit⟩

end Client

end Vigil
