import ReactionLedger.Grouping
import ReactionLedger.Summary.Validation

set_option autoImplicit false

namespace ReactionLedger

-- the time and the users come from decoded rows, so only the key can be refused
def TypeSummary.ofParts (label : Value) (first : Moment) (users : List User) :
    Except (List Complaint) TypeSummary :=
  (Complaint.about Field.label (Field.text label)).map fun label => ⟨label, first, users⟩

def CommentSummary.ofParts (comment label : Value) (first : Moment) (users : List User) :
    Except (List Complaint) CommentSummary :=
  match TypeSummary.ofParts label first users,
      Complaint.about Field.comment (Field.uuid comment) with
  | .ok s, .ok comment => .ok ⟨s, comment⟩
  | s, comment => .error (Complaint.listOf s ++ Complaint.listOf comment)

namespace Rollup

def byLabel (rows : List Row) : Except Failure (List (Group Value)) :=
  Grouping.byKey Row.label (fun label => [label]) rows

def byComment (rows : List Row) : Except Failure (List (Group (Value × Value))) :=
  Grouping.byKey (fun row => (row.comment, row.label)) (fun key => [key.1, key.2]) rows

def types (groups : List (Group Value)) : Except Failure (List TypeSummary) :=
  groups.mapM fun g => (TypeSummary.ofParts g.key g.first g.users).mapError .invalid

def comments (groups : List (Group (Value × Value))) : Except Failure (List CommentSummary) :=
  groups.mapM fun g =>
    (CommentSummary.ofParts g.key.1 g.key.2 g.first g.users).mapError .invalid

end Rollup

end ReactionLedger
