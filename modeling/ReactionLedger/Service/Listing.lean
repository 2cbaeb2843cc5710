import ReactionLedger.Session.Program
import ReactionLedger.Summary.Rollup

set_option autoImplicit false

namespace ReactionLedger.Service

open Program

def idText (id : Option Uuid) : String := Failure.orNone (id.map Uuid.text)

def readFailed (e : Failure) : Program (List (List Value)) := do
  if e.isReadFault then
    let text := "Failed to read reactions: " ++ e.message
    record .error text
    fail (.access text (some e))
  else fail e

def decodeFailed (e : Failure) : Program (List Row) := do
  if e.isAccess then
    record .error ("Failed to decode reaction row: " ++ e.message)
  fail e

def fetchRows (conditions : List Condition) : Program (List Row) := do
  let raw ← (perform (.joinedRows conditions)).handle readFailed
  match Row.decodeAll raw with
  | .ok rows => pure rows
  | .error e => decodeFailed e

def counted (comment : Option Uuid) (rows types : Nat) : String :=
  "Comment " ++ idText comment ++ ": " ++ toString rows ++ " reactions in " ++ toString types ++
    " types"

def listComment (comment : Option Uuid) : Program (List TypeSummary) := do
  let rows ← fetchRows [.comment comment]
  let groups ← .done (Rollup.byLabel rows)
  record .debug (counted comment rows.length groups.length)
  .done (Rollup.types groups)

def listView (view : Option Uuid) (comment : Option Uuid) : Program (List CommentSummary) := do
  let rows ← fetchRows (.view view :: (comment.map fun c => Condition.comment (some c)).toList)
  let groups ← .done (Rollup.byComment rows)
  .done (Rollup.comments groups)

end ReactionLedger.Service
