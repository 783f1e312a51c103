import Vigil.Json.Writer
import Vigil.Protocol.Item
import Vigil.Text.Utf8

/-!
# Requests

What a client asks of the supervisor. `payload` is the document of a request, and `encode` the
bytes that go over the pipe: the document without blanks, in printable ASCII.
-/

namespace Vigil

/-- A request. `bare` is a request of no type. -/
inductive Request where
  | bare
  | list
  | add (config : Item)
  | update (config : Item)
  | remove (id : String)
  | stop (id : String)
  | start (id : String)
  | status
  | heartbeat (itemId : String) (timestamp : Int)
  deriving Repr, DecidableEq

namespace Request

/-- The type of a request. -/
def tag : Request → String
  | .bare => ""
  | .list => "list"
  | .add _ => "add"
  | .update _ => "update"
  | .remove _ => "remove"
  | .stop _ => "stop"
  | .start _ => "start"
  | .status => "status"
  | .heartbeat .. => "heartbeat"

/-- What a request holds besides its type. -/
def body : Request → List (LooseText × Json)
  | .bare | .list | .status => []
  | .add config | .update config => [("config", .object config.fields)]
  | .remove id | .stop id | .start id => [("id", .text id)]
  | .heartbeat itemId timestamp => [("item_id", .text itemId), ("timestamp", .int timestamp)]

/-- The document of a request. -/
def payload (r : Request) : Json := .object (("type", .text r.tag) :: r.body)

/-- Why a request has no document: the timeout of its item has no whole number. -/
def fault? : Request → Option Number.NotWhole
  | .add config | .update config => config.timeoutFault
  | _ => none

/-- The bytes of a request; there are none if it has no document or holds an integer too long to be
written. -/
def encode (r : Request) : Except Mishap Bytes :=
  match r.fault? with
  | some reason => .error (.notWhole reason)
  | none =>
    match Json.compact? r.payload with
    | some document => .ok (Text.encodeUtf8 document)
    | none => .error .tooLongToWrite

end Request

end Vigil
