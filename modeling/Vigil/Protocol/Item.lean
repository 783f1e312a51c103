import Vigil.Protocol.Field

/-!
# Monitor items

A registration: one executable the supervisor runs and watches. `fields` is the record that goes
over the pipe; `ofJson` reads one, and what it leaves out has the value a new item has, but that a
new item is enabled and one is not whose record does not say so. The timeout of a record is a whole
number; an item may be given a double that has none, and then has no record.
-/

namespace Vigil

/-- The milliseconds the supervisor waits for a heartbeat if nothing else is said. -/
def defaultHeartbeatTimeout : Int := 1000

/-- A registration, known to the supervisor by its id. -/
structure Item where
  id : LooseText
  exePath : LooseText
  name : LooseText
  args : LooseText := ""
  minimize : Bool := false
  noWindow : Bool := false
  enabled : Bool := true
  heartbeatTimeout : Int := defaultHeartbeatTimeout
  /-- Why what was given as the timeout has no whole number, if it has none. -/
  timeoutFault : Option Number.NotWhole := none
  deriving Repr, DecidableEq

namespace Item

/-- The fields that the record of every item has. -/
def fixedFields (i : Item) : List (LooseText × Json) :=
  [("id", .text i.id), ("exe_path", .text i.exePath), ("name", .text i.name),
    ("minimize", .bool i.minimize), ("no_window", .bool i.noWindow),
    ("enabled", .bool i.enabled), ("heartbeat_timeout_ms", .int i.heartbeatTimeout)]

/-- The field of the arguments, if there are any. -/
def argsField (i : Item) : List (LooseText × Json) :=
  if i.args.isEmpty then [] else [("args", .text i.args)]

/-- The record of an item. -/
def fields (i : Item) : List (LooseText × Json) := i.fixedFields ++ i.argsField

/-- Reads the fields of a record. -/
def ofFields (record : List (LooseText × Json)) : Except FieldFault Item := do
  let id ← Field.text record "id"
  let exePath ← Field.text record "exe_path"
  let name ← Field.text record "name"
  let args ← Field.text record "args" "" true
  let minimize ← Field.flag record "minimize"
  let noWindow ← Field.flag record "no_window"
  let enabled ← Field.flag record "enabled"
  let heartbeatTimeout ← Field.number record "heartbeat_timeout_ms" defaultHeartbeatTimeout
  pure { id, exePath, name, args, minimize, noWindow, enabled, heartbeatTimeout }

/-- Reads an item. -/
def ofJson : Json → Except EntryFault Item
  | .object record => (ofFields record).mapError .field
  | value => .error (.notObject .item value.kind)

/-- The id an item gets that has none: the time in milliseconds. -/
def idAt (millis : Int) : String := s!"item-{millis}"

end Item

/-- What may be said about a new item besides its executable and its name. -/
structure ItemOptions where
  id : Option String := none
  args : String := ""
  minimize : Bool := false
  noWindow : Bool := false
  enabled : Bool := true
  heartbeatTimeout : Int := defaultHeartbeatTimeout
  deriving Repr, DecidableEq

/-- A new item. Without an id, or with an empty one, it gets one of the time it is made. -/
def Item.create (exePath name : String) (options : ItemOptions)
    (clock : Except Number.NotWhole Int) : Except Number.NotWhole Item := do
  let id ← match options.id with
    | some id => if id = "" then clock.map idAt else pure id
    | none => clock.map idAt
  pure { id, exePath, name, args := options.args, minimize := options.minimize
         noWindow := options.noWindow, enabled := options.enabled
         heartbeatTimeout := options.heartbeatTimeout }

end Vigil
