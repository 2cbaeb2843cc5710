import ReactionLedger.Session.Call
import ReactionLedger.Failure
import ReactionLedger.Store.Cell
import ReactionLedger.Time.Reading
import ReactionLedger.Uuid.Reading

set_option autoImplicit false

namespace ReactionLedger

structure StoredReaction where
  id : Nat
  view : String
  comment : String
  label : String
  author : String
  created : Cell
deriving DecidableEq

structure Tables where
  reactions : List StoredReaction
  users : List User
deriving DecidableEq

def Condition.holds (r : StoredReaction) : Condition → Bool
  | .view id => id.map Uuid.compact == some r.view
  | .comment id => id.map Uuid.compact == some r.comment

namespace StoredReaction

def hasKey (k : Key) (r : StoredReaction) : Bool :=
  Condition.holds r (.view k.view) && Condition.holds r (.comment k.comment) &&
    r.label == k.label && k.author == some r.author

def readUuid (source : String) : Except Failure Value :=
  match Uuid.readLenient source with
  | .ok u => .ok (.uuid u)
  | .error f => .error (.value f.message)

def readTime : Cell → Except Failure Value
  | .text source =>
    match Stamp.read source with
    | .ok s => .ok (.stamp s)
    | .error f => .error (.value f.message)
  | _ => .error (.type "fromisoformat: argument must be str")

def load (r : StoredReaction) : Except Failure Reaction := do
  let view ← readUuid r.view
  let comment ← readUuid r.comment
  let created ← readTime r.created
  return ⟨.int r.id, view, comment, .text r.label, .text r.author, created⟩

def joined (r : StoredReaction) (u : User) : Except Failure (List Value) := do
  let comment ← readUuid r.comment
  let created ← readTime r.created
  return [comment, .text r.label, created, .text u.id, .text u.name]

end StoredReaction

structure Draft where
  view : Option String
  comment : Option String
  label : Option String
  author : Option String
  created : Option Cell

def Key.draft (k : Key) (clock : Option String) : Draft where
  view := k.view.map Uuid.compact
  comment := k.comment.map Uuid.compact
  label := some k.label
  author := k.author
  created := clock.map Cell.text

namespace Tables

def empty : Tables := ⟨[], []⟩

def nextId (t : Tables) : Nat := (t.reactions.map StoredReaction.id).foldl max 0 + 1

def sameKey (a b : StoredReaction) : Bool :=
  a.view == b.view && a.comment == b.comment && a.label == b.label && a.author == b.author

def broken (constraint : String) : Failure := .store (.integrity .engine constraint)

def column {α : Type} (name : String) : Option α → Except Failure α
  | some a => .ok a
  | none => .error (broken ("NOT NULL constraint failed: reactions." ++ name))

def duplicate : Failure :=
  broken ("UNIQUE constraint failed: reactions.view_id, reactions.comment_id, " ++
    "reactions.reaction_type, reactions.created_by")

def insert (t : Tables) (d : Draft) : Except Failure (Tables × StoredReaction) := do
  let view ← column Column.view d.view
  let comment ← column Column.comment d.comment
  let label ← column Column.label d.label
  let author ← column Column.author d.author
  let created ← column Column.created d.created
  let row : StoredReaction := ⟨t.nextId, view, comment, label, author, created.settle⟩
  if t.reactions.any (sameKey row) then throw duplicate
  return ({ t with reactions := t.reactions ++ [row] }, row)

def deleteWhere (t : Tables) (p : StoredReaction → Bool) : Tables × Nat :=
  ({ t with reactions := t.reactions.filter fun r => !p r }, t.reactions.countP p)

def knows (t : Tables) (user : Option String) : Bool := t.users.any fun u => user == some u.id

def find (t : Tables) (k : Key) : Except Failure (Option Reaction) :=
  match t.reactions.filter (StoredReaction.hasKey k) with
  | [] => .ok none
  | [r] => r.load.map some
  | _ => .error (.store .ambiguous)

def byNumber (t : Tables) : List StoredReaction := t.reactions.mergeSort fun a b => a.id ≤ b.id

def withAuthor (t : Tables) (r : StoredReaction) : List (StoredReaction × User) :=
  (t.users.filter fun u => u.id == r.author).map fun u => (r, u)

/-- The reactions under some conditions with their authors, in the order of their numbers.  A
reaction whose author is not in the directory is left out. -/
def joined (t : Tables) (conditions : List Condition) : Except Failure (List (List Value)) :=
  let rows := (t.byNumber.filter fun r => conditions.all (Condition.holds r)).flatMap t.withAuthor
  rows.mapM fun (r, u) => r.joined u

end Tables

end ReactionLedger
