import Vigil.Fault.Mishap
import Vigil.Number.Fixed
import Vigil.Number.Nearest

/-!
# The age of a heartbeat

How long ago the last heartbeat was, in seconds with one place. A time in the future counts as
now, and a time of zero as no heartbeat.
-/

namespace Vigil

/-- The age at the time `now` of a heartbeat at `last` milliseconds. -/
def heartbeatAge (now : Float) (last : Int) : Except Mishap String :=
  if last = 0 then .ok "never"
  else match Number.quotient? last 1000 with
    | none => .error .quotientTooLarge
    | some seconds =>
      let age := now - seconds
      .ok s!"{Number.fixed 1 (if 0.0 > age then 0.0 else age)}s ago"

end Vigil
