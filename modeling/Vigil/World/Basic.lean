import Vigil.Fault.Error
import Vigil.Log.Handler
import Vigil.World.Event
import Vigil.World.Script

/-!
# The world

All that a client meets outside itself, as a value: two clocks, the platform, the executable it
runs from, the scripts of the pipe and of the service manager, files and log handlers, and a
journal of what was done, logged and printed.
-/

namespace Vigil

/-- An entry of the journal. -/
inductive Entry where
  | event (e : Event)
  | record (r : Record)
  | print (text : String)

/-- All that a client meets outside itself. -/
structure World where
  /-- The wall clock, in seconds. -/
  now : Float := 0.0
  /-- The clock that only counts, in seconds. -/
  mono : Float := 0.0
  platform : Platform := .windows
  /-- The path of the executable, or why it cannot be told. -/
  exe : Except String String := .error "unknown"
  pipe : List Opening := []
  waits : List Waiting := []
  /-- How many connections of the pipe were given out. -/
  lines : Nat := 0
  manager : Manager := {}
  files : Files := {}
  logging : Logging := {}
  speaker : Speaker := .main
  /-- The journal, the latest entry first. -/
  journal : List Entry := []

namespace World

/-- The world with an event at the end of its journal. -/
def note (w : World) (e : Event) : World := { w with journal := .event e :: w.journal }

/-- The world with some text printed. -/
def say (w : World) (text : String) : World := { w with journal := .print text :: w.journal }

/-- The world with a record given to a handler. -/
def pass (w : World) (r : Record) (h : Handler) : World :=
  let w := { w with files := h.fileEffect r w.files }
  let text := h.consoleText r
  if text = "" then w else w.say text

/-- The world with a record in its journal and given to all handlers. -/
def keep (w : World) (r : Record) : World :=
  w.logging.handlers.foldl (fun w h => w.pass r h) { w with journal := .record r :: w.journal }

/-- The world after something was logged. -/
def log (w : World) (source : Source) (level : Int) (message : LooseText) (traced : Bool := false) :
    World :=
  w.keep ⟨source, level, message, w.speaker.thread, w.now, traced⟩

/-- The world after it was let pass some seconds. -/
def advance (w : World) (seconds : Float) : World := { w with mono := w.mono + seconds }

/-- The world after sleeping. -/
def sleep (w : World) (seconds : Float) : World := (w.note (.sleep seconds)).advance seconds

/-- The milliseconds of the wall clock. -/
def epochMillis (w : World) : Except Number.NotWhole Int := Number.truncate (w.now * 1000)

/-- The events of the journal, the first one first. -/
def events (w : World) : List Event :=
  w.journal.reverse.filterMap fun | .event e => some e | _ => none

/-! ## What the journal shows of each change -/

@[simp] theorem events_note (w : World) (e : Event) : (w.note e).events = w.events ++ [e] := by
  simp [events, note]

@[simp] theorem events_say (w : World) (text : String) : (w.say text).events = w.events := by
  simp [events, say]

@[simp] theorem events_advance (w : World) (seconds : Float) :
    (w.advance seconds).events = w.events := rfl

@[simp] theorem events_sleep (w : World) (seconds : Float) :
    (w.sleep seconds).events = w.events ++ [.sleep seconds] := by
  simp [sleep]

@[simp] theorem events_pass (w : World) (r : Record) (h : Handler) :
    (w.pass r h).events = w.events := by
  unfold pass
  dsimp only
  split
  · rfl
  · exact events_say _ _

/-- **A record is no event**: what is logged changes nothing of what the outside sees. -/
@[simp] theorem events_keep (w : World) (r : Record) : (w.keep r).events = w.events := by
  have start : (World.events { w with journal := .record r :: w.journal }) = w.events := by
    simp [events]
  unfold keep
  rw [← start]
  generalize ({ w with journal := .record r :: w.journal } : World) = v
  induction w.logging.handlers generalizing v with
  | nil => rfl
  | cons h rest ih => rw [List.foldl_cons, ih, events_pass]

@[simp] theorem events_log (w : World) (source : Source) (level : Int) (message : LooseText)
    (traced : Bool) : (w.log source level message traced).events = w.events :=
  events_keep _ _

/-- A record changes the journal and the files, and nothing else. -/
theorem keep_eq (w : World) (r : Record) :
    ∃ journal files, w.keep r = { w with journal, files } := by
  have fold : ∀ (handlers : List Handler) (v : World), ∃ journal files,
      handlers.foldl (fun w h => w.pass r h) v = { v with journal, files } := by
    intro handlers
    induction handlers with
    | nil => exact fun v => ⟨v.journal, v.files, rfl⟩
    | cons h rest ih =>
      intro v
      obtain ⟨journal, files, e⟩ := ih (v.pass r h)
      refine ⟨journal, files, ?_⟩
      rw [List.foldl_cons, e]
      unfold pass say
      dsimp only
      split <;> rfl
  obtain ⟨journal, files, e⟩ := fold w.logging.handlers { w with journal := .record r :: w.journal }
  exact ⟨journal, files, e⟩

@[simp] theorem lines_log (w : World) (source : Source) (level : Int) (message : LooseText)
    (traced : Bool) : (w.log source level message traced).lines = w.lines := by
  obtain ⟨_, _, e⟩ := keep_eq w ⟨source, level, message, w.speaker.thread, w.now, traced⟩
  rw [log, e]

@[simp] theorem manager_log (w : World) (source : Source) (level : Int) (message : LooseText)
    (traced : Bool) : (w.log source level message traced).manager = w.manager := by
  obtain ⟨_, _, e⟩ := keep_eq w ⟨source, level, message, w.speaker.thread, w.now, traced⟩
  rw [log, e]

@[simp] theorem platform_log (w : World) (source : Source) (level : Int) (message : LooseText)
    (traced : Bool) : (w.log source level message traced).platform = w.platform := by
  obtain ⟨_, _, e⟩ := keep_eq w ⟨source, level, message, w.speaker.thread, w.now, traced⟩
  rw [log, e]

@[simp] theorem mono_log (w : World) (source : Source) (level : Int) (message : LooseText)
    (traced : Bool) : (w.log source level message traced).mono = w.mono := by
  obtain ⟨_, _, e⟩ := keep_eq w ⟨source, level, message, w.speaker.thread, w.now, traced⟩
  rw [log, e]

@[simp] theorem now_log (w : World) (source : Source) (level : Int) (message : LooseText)
    (traced : Bool) : (w.log source level message traced).now = w.now := by
  obtain ⟨_, _, e⟩ := keep_eq w ⟨source, level, message, w.speaker.thread, w.now, traced⟩
  rw [log, e]

end World

end Vigil
