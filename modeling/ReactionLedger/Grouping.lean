import ReactionLedger.Row
import ReactionLedger.Value.Identity

/-!
Grouping of rows.  Rows with the same key form a group; a group takes its key from its first row,
its time from its earliest row, and its users from all its rows as they arrived.  Groups are ordered
by time, and as they were first seen when their times are the same instant.
-/

set_option autoImplicit false

namespace ReactionLedger

structure Group (κ : Type) where
  key : κ
  first : Moment
  users : List User

namespace Grouping

def classes {α ι : Type} [DecidableEq ι] (identity : α → ι) (items : List α) : List (List α) :=
  (items.map identity).eraseDups.map fun i => items.filter fun a => identity a = i

def earliest (first : Moment) (others : List Moment) : Moment :=
  others.foldl (fun m n => if n.instant < m.instant then n else m) first

def ofClass {κ : Type} (key : Row → κ) : List Row → Option (Group κ)
  | [] => none
  | row :: rows => some {
      key := key row
      first := earliest row.created (rows.map Row.created)
      users := (row :: rows).map Row.user }

def inOrder {κ : Type} (groups : List (Group κ)) : List (Group κ) :=
  groups.mergeSort fun a b => a.first.instant ≤ b.first.instant

def group {κ ι : Type} [DecidableEq ι] (key : Row → κ) (identity : κ → ι) (rows : List Row) :
    List (Group κ) :=
  inOrder ((classes (identity ∘ key) rows).filterMap (ofClass key))

/-- Groups by the values that make up the key.  A value that cannot be part of a key fails the whole
grouping. -/
def byKey {κ : Type} (key : Row → κ) (parts : κ → List Value) (rows : List Row) :
    Except Failure (List (Group κ)) :=
  match rows.findSome? fun row => (parts (key row)).findSome? Value.unkeyable? with
  | some kind => .error (.type ("unhashable type: '" ++ kind ++ "'"))
  | none => .ok (group key (fun k => (parts k).map Value.identity?) rows)

end Grouping

end ReactionLedger
