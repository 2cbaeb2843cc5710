import ReactionLedger.Attribute
import ReactionLedger.Summary
import ReactionLedger.Text.Utf8
import ReactionLedger.Time.Epoch
import ReactionLedger.Time.Exchange
import ReactionLedger.Uuid.Reading

set_option autoImplicit false

namespace ReactionLedger

namespace Field

def moment (date : Exchange.LooseDate) (time : ClockTime) :
    Option Offset → Except Objection Moment
  | none => .error .noOffset
  | some offset =>
    match Date.of? date.1 date.2.1 date.2.2 with
    | .ok d => .ok ⟨d, time, offset⟩
    | .error _ => .error (.badStamp ("year " ++ toString date.1 ++ " is out of range"))

def numeric (fault : Exchange.DateFault) : Exchange.Number → Except Objection Moment
  | .whole n =>
    (Epoch.ofInt n).mapError fun
      | .yearZero => .badStamp Epoch.Fault.yearZero.message
      | f => .badDate f.message
  | .fractional x =>
    (Epoch.ofDouble x).mapError fun
      | .yearZero => .badStamp Epoch.Fault.yearZero.message
      | _ => .badDate fault.message

def ofBytes (source : List UInt8) : Except Objection Moment :=
  match Exchange.read source with
  | .stamp date time offset => moment date time offset
  | .number n f => numeric f n
  | .fault f => .error (.badDate f.message)

def ofDouble (x : Double) : Except Objection Moment :=
  if x.isNaN then .error (.badStamp "NaN values not permitted")
  else (Epoch.ofDouble x).mapError fun f => .badStamp f.message

def ofInt (n : Int) : Except Objection Moment :=
  if fitsWord n then (Epoch.ofInt n).mapError fun f => .badStamp f.message
  else
    let x := Double.ofFraction (n < 0) n.natAbs 1
    if x.isFinite then ofDouble x else .error .notStamp

def aware : Value → Except Objection Moment
  | .stamp s =>
      match s.moment? with
      | some m => .ok m
      | none => .error .noOffset
  | .text s => ofBytes (Text.Utf8.encode s.toList)
  | .bytes b => ofBytes b
  | .date _ => .error .noOffset
  | .int n => ofInt n
  | .double x => ofDouble x
  | _ => .error .notStamp

def uuid : Value → Except Objection Uuid
  | .uuid u => .ok u
  | .text s => (Uuid.readExact s).mapError fun f => .badUuid f.message
  | .bytes b => (Uuid.readBytes b).mapError fun f => .badUuid f.message
  | _ => .error .notUuid

def required {α : Type} (fields : Fields) (name : String) (read : Value → Except Objection α) :
    Except (List Complaint) α :=
  match fields.lookup name with
  | none => .error [⟨[.field name], .missing⟩]
  | some v => Complaint.about name (read v)

end Field

def User.ofFields (fields : Fields) : Except (List Complaint) User :=
  match Field.required fields Field.userId Field.text,
      Field.required fields Field.userName Field.text with
  | .ok id, .ok name => .ok ⟨id, name⟩
  | id, name => .error (Complaint.listOf id ++ Complaint.listOf name)

namespace Field

def userAt (index : Nat) : Value → Except (List Complaint) User
  | .record fields =>
      (User.ofFields fields).mapError fun cs =>
        cs.map fun c => (c.under (.index index)).under (.field users)
  | _ => .error [⟨[.field users, .index index], .notRecord "ReactingUser"⟩]

def usersFrom (index : Nat) : List Value → Except (List Complaint) (List User)
  | [] => .ok []
  | v :: vs =>
    match userAt index v, usersFrom (index + 1) vs with
    | .ok u, .ok us => .ok (u :: us)
    | u, us => .error (Complaint.listOf u ++ Complaint.listOf us)

def usersOf (fields : Fields) : Except (List Complaint) (List User) :=
  match fields.lookup users with
  | none => .ok []
  | some (.list items) => usersFrom 0 items
  | some _ => .error [⟨[.field users], .notList⟩]

end Field

def TypeSummary.ofFields (fields : Fields) : Except (List Complaint) TypeSummary :=
  match Field.required fields Field.label Field.text, Field.required fields Field.first Field.aware,
      Field.usersOf fields with
  | .ok label, .ok first, .ok users => .ok ⟨label, first, users⟩
  | label, first, users =>
    .error (Complaint.listOf label ++ Complaint.listOf first ++ Complaint.listOf users)

def CommentSummary.ofFields (fields : Fields) : Except (List Complaint) CommentSummary :=
  match TypeSummary.ofFields fields, Field.required fields Field.comment Field.uuid with
  | .ok s, .ok comment => .ok ⟨s, comment⟩
  | s, comment => .error (Complaint.listOf s ++ Complaint.listOf comment)

inductive Schema where
  | user
  | typeSummary
  | commentSummary
deriving DecidableEq

namespace Schema

def name : Schema → String
  | .user => "ReactingUser"
  | .typeSummary => "ReactionTypeSummary"
  | .commentSummary => "CommentReactionSummary"

def fieldNames : Schema → List String
  | .user => [Field.userId, Field.userName]
  | .typeSummary => [Field.label, Field.first, Field.users]
  | .commentSummary => [Field.label, Field.first, Field.users, Field.comment]

def build (schema : Schema) (fields : Fields) : Except Failure Fields :=
  match schema with
  | .user => ((User.ofFields fields).map User.fields).mapError .invalid
  | .typeSummary => ((TypeSummary.ofFields fields).map TypeSummary.fields).mapError .invalid
  | .commentSummary =>
      ((CommentSummary.ofFields fields).map CommentSummary.fields).mapError .invalid

-- summaries of comments are made from summaries of types
def root : Schema → String
  | .user => Schema.user.name
  | .typeSummary | .commentSummary => Schema.typeSummary.name

def setField (fields : Fields) (name : String) (v : Value) : Fields :=
  fields.map fun f => if f.1 = name then (name, v) else f

def assignHidden (schema : Schema) (fields : Fields) (name : String) (v : Value) :
    Except Failure Fields :=
  match Attribute.fault? schema.root name v with
  | some fault => .error fault
  | none =>
    if name = "__fields_set__" then .error (Attribute.readOnly schema.name name)
    else
      match v with
      | .record given =>
        if name = Attribute.contents then .ok (given.filter fun f => f.1 ∈ schema.fieldNames)
        else .ok fields
      | _ => .ok fields

def assign (schema : Schema) (fields : Fields) (name : String) (v : Value) :
    Except Failure Fields :=
  if name.startsWith "_" then schema.assignHidden fields name v
  else if schema = .user then .error (.invalid [⟨[.field name], .frozen⟩])
  else if name ∈ ["model_fields_set", "model_extra"] then
    .error (Attribute.readOnly schema.name name)
  else if name ∈ schema.fieldNames then .ok (setField fields name v)
  else .error (.value ("\"" ++ schema.name ++ "\" object has no field \"" ++ name ++ "\""))

end Schema

end ReactionLedger
