import Vigil.Client.Connection
import Vigil.Text.Case

/-!
# Monitor items

What a client asks the supervisor about items. Requests that cannot succeed are refused before
anything is sent; a new item is refused if its executable is watched already, or if this cannot be
told for sure.
-/

namespace Vigil

/-- What is missing in an item. -/
def Item.flaw? (i : Item) : Option Refusal :=
  if i.id.isEmpty then some .emptyId
  else if i.exePath.isEmpty then some .emptyPath
  else if i.name.isEmpty then some .emptyName
  else none

/-- Whether two items watch the same executable: paths are compared without regard to case. -/
def Item.sameExecutable (i j : Item) : Bool :=
  i.exePath.lower = j.exePath.lower

/-- The items a response brought. -/
def Content.entries : Content → List Item
  | .items list => list
  | _ => []

namespace Client

/-- A result that refuses. -/
def refuse {α : Type} (refusal : Refusal) : Result α := .failure (.refused refusal)

/-- Lists all items. -/
def listItems : Deed (Result Content) := request .list .listItems

/-- What the supervisor reports. -/
def serviceStatus : Deed (Result Content) := request .status .serviceStatus

/-- Registers an item. -/
def addItem (item : Item) : Deed (Result Content) := do
  match item.flaw? with
  | some refusal => pure (refuse refusal)
  | none =>
    match ← listItems with
    | .failure e => pure (.failure e)
    | .success _ (some skipped) => pure (refuse (.cannotVerify skipped))
    | .success content none =>
      if content.entries.any item.sameExecutable then pure (refuse .duplicatePath)
      else
        let result ← request (.add item) .addItem
        if result.ok then
          log Level.info ("Monitor item '" ++ item.id ++ "' added for '" ++ item.exePath ++ "'.")
        pure result

/-- Changes an item. -/
def updateItem (item : Item) : Deed (Result Content) := do
  match item.flaw? with
  | some refusal => pure (refuse refusal)
  | none => request (.update item) .updateItem

/-- Removes an item. -/
def removeItem (id : String) : Deed (Result Content) := do
  if id = "" then pure (refuse .emptyId)
  else
    let result ← request (.remove id) .removeItem
    if result.ok then log Level.info s!"Monitor item '{id}' removed."
    pure result

/-- Lets the supervisor watch an item again. -/
def startItem (id : String) : Deed (Result Content) := do
  if id = "" then pure (refuse .emptyId) else request (.start id) .startItem

/-- Keeps the supervisor from watching an item, which stays registered. -/
def stopItem (id : String) : Deed (Result Content) := do
  if id = "" then pure (refuse .emptyId) else request (.stop id) .stopItem

end Client

end Vigil
