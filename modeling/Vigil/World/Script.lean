import Vigil.Fault.Mishap

/-!
# What the outside answers

The outside as a script: what the next opens of the pipe, waits for it and calls of the service
manager come to. A script that is used up answers in one way for ever.
-/

namespace Vigil

/-- What happens on one connection: the reply it serves, how many bytes short of the payload a
write reports, and what goes wrong. -/
structure Line where
  reply : Bytes
  short : Int := 0
  writeFault : Option Mishap := none
  readFault : Option Mishap := none
  closeFault : Option Mishap := none

/-- What an attempt to open the pipe comes to, and what the clock shows after it if it moved. -/
structure Opening where
  result : Except Mishap Line
  clock : Option Float := none

/-- There is no pipe. -/
def Opening.absent : Opening := ⟨.error (.os .noSuchFile), none⟩

/-- What waiting for the pipe comes to: how long it took, if not as long as it might, the error
code, zero for none, and what it raises. -/
structure Waiting where
  advance : Option Float := none
  code : Int := 0
  fault : Option Mishap := none

/-- The calls of the service manager. -/
inductive Primitive where
  | openManager
  | openService
  | createService
  | deleteService
  | startService
  | controlService
  | queryStatus
  | closeHandle
  deriving Repr, DecidableEq

/-- What a call of the service manager comes to. -/
inductive Answer where
  | done
  | failed (code : Int)
  /-- The call succeeds, and the service is in this state from now on. -/
  | state (value : UInt32)
  deriving Repr, DecidableEq

/-- The service manager: the answers it has for each call, how many handles it gave out, and the
state the service is in. -/
structure Manager where
  answers : Primitive → List Answer := fun _ => []
  given : Nat := 0
  state : UInt32 := 1

/-- The next answer to a call, and the manager without it. -/
def Manager.next (m : Manager) (p : Primitive) : Answer × Manager :=
  match m.answers p with
  | [] => (.done, m)
  | a :: rest => (a, { m with answers := fun q => if q = p then rest else m.answers q })

/-- The platform the client runs on. -/
inductive Platform where
  | windows
  | other
  deriving Repr, DecidableEq

end Vigil
