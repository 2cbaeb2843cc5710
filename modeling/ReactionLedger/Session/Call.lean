import ReactionLedger.Reaction

set_option autoImplicit false

namespace ReactionLedger

/-- What tells a user's reaction of one label on a comment from all others.  A part that is missing
matches nothing. -/
structure Key where
  view : Option Uuid
  comment : Option Uuid
  label : String
  author : Option String
deriving DecidableEq

inductive Condition where
  | view (id : Option Uuid)
  | comment (id : Option Uuid)
deriving DecidableEq

inductive Method where
  | execute
  | add
  | flush
  | refresh
  | rollback
deriving DecidableEq

inductive Call where
  | userKnown (user : Option String)
  | findReaction (key : Key)
  -- the reactions under all conditions, each with its author, in the order of their numbers
  | joinedRows (conditions : List Condition)
  | deleteReaction (key : Key)
  | add (key : Key)
  | flush
  -- reads the stored row of a reaction that was added
  | refresh (key : Key)
  | rollback
deriving DecidableEq

namespace Call

/-- A deletion replies with its row count, which may be unknown and then is negative. -/
@[reducible] def Reply : Call → Type
  | .userKnown _ => Bool
  | .findReaction _ => Option Reaction
  | .joinedRows _ => List (List Value)
  | .deleteReaction _ => Int
  | .add _ | .flush | .rollback => Unit
  | .refresh _ => Reaction

def method : Call → Method
  | .userKnown _ | .findReaction _ | .joinedRows _ | .deleteReaction _ => .execute
  | .add _ => .add
  | .flush => .flush
  | .refresh _ => .refresh
  | .rollback => .rollback

end Call

def Key.reaction (k : Key) : Reaction :=
  { Reaction.unset with
    view := Value.ofOption .uuid k.view
    comment := Value.ofOption .uuid k.comment
    label := .text k.label
    author := Value.ofOption .text k.author }

end ReactionLedger
