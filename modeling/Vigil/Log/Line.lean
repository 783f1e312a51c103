import Vigil.Log.Record
import Vigil.Log.Stamp

/-!
# Log lines

The text of a record. A line from a reporter names its thread. Where a failure is shown with a
record, one line stands for its trace.
-/

namespace Vigil

/-- The text of a record without what is shown with it. -/
def Record.line (r : Record) : Except Mishap LooseText := do
  let time ← stamp r.time
  let thread := if r.fromReporter then s!" [{r.thread}]" else ""
  let level := Text.padRight 8 (Level.label r.level)
  pure (s!"{time} - {level} - [{r.source.label}]{thread} - " ++ r.message)

/-- The text of a record with all that is shown with it. -/
def Record.format (r : Record) : Except Mishap LooseText := do
  let line ← r.line
  if r.traced then
    let ended := line.points.getLast? = some (.char '\n')
    pure (line ++ if ended then "<traceback>" else "\n<traceback>")
  else pure line

end Vigil
