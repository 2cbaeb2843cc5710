import ReactionLedger.Failure
import ReactionLedger.Value.Text

set_option autoImplicit false

namespace ReactionLedger

structure User where
  id : String
  name : String
deriving DecidableEq

structure Row where
  comment : Value
  label : Value
  created : Moment
  user : User

namespace Field

def text : Value → Except Objection String
  | .text s => .ok s
  | .bytes b =>
      match String.fromUTF8? (ByteArray.mk b.toArray) with
      | some s => .ok s
      | none => .error .notUnicode
  | _ => .error .notText

end Field

def User.ofValues (id name : Value) : Except (List Complaint) User :=
  match Complaint.about "id" (Field.text id), Complaint.about "name" (Field.text name) with
  | .ok id, .ok name => .ok ⟨id, name⟩
  | id, name => .error (Complaint.listOf id ++ Complaint.listOf name)

namespace Row

def columns : Nat := 5

/-- The number of columns is judged before nulls, nulls before the time and the time before the
author. -/
def decode : List Value → Except Failure Row
  | [comment, label, created, userId, userName] =>
    let columns := [comment, label, created, userId, userName]
    if columns.any Value.isNull then
      .error (.access
        ("Unexpected null column in reaction row: " ++ Value.tupleLiteral columns) none)
    else
      match created with
      | .stamp s =>
        match User.ofValues userId userName with
        | .ok user => .ok ⟨comment, label, s.moment, user⟩
        | .error cs => .error (.invalid cs)
      | _ => .error (.access ("Malformed reaction timestamp: " ++ created.literal) none)
  | columns =>
    .error (.value (
      if columns.length < Row.columns then
        "not enough values to unpack (expected " ++ toString Row.columns ++ ", got " ++
          toString columns.length ++ ")"
      else "too many values to unpack (expected " ++ toString Row.columns ++ ")"))

def decodeAll (rows : List (List Value)) : Except Failure (List Row) := rows.mapM decode

end Row

end ReactionLedger
