import ReactionLedger.Session.Program

set_option autoImplicit false

namespace ReactionLedger

namespace Script

inductive Scalar where
  | absent
  | value
  | reaction (r : Reaction)

structure Reply where
  rows : List (List Value) := []
  scalar : Scalar := .absent
  -- more than one value was found
  ambiguous : Bool := false
  count : Int := 0
  -- the columns that reading back sets
  set : Fields := []

inductive Step where
  | fail (failure : Failure)
  | reply (reply : Reply)

end Script

structure Script where
  queue : Method → List Script.Step
  calls : List Method

namespace Script

def start (queue : Method → List Step) : Script := ⟨queue, []⟩

-- a queue that has run out gives empty replies
def next (s : Script) (m : Method) : Step := (s.queue m).head?.getD (.reply {})

def advance (s : Script) (m : Method) : Script where
  queue n := if n = m then (s.queue m).drop 1 else s.queue n
  calls := s.calls ++ [m]

def Reply.single (r : Reply) : Except Failure Scalar :=
  if r.ambiguous then .error (.store .ambiguous) else .ok r.scalar

def Scalar.isPresent : Scalar → Bool
  | .absent => false
  | _ => true

def Scalar.reaction? : Scalar → Option Reaction
  | .reaction r => some r
  | _ => none

def Reply.answer (r : Reply) : (c : Call) → Except Failure c.Reply
  | .userKnown _ => r.single.map Scalar.isPresent
  | .findReaction _ => r.single.map Scalar.reaction?
  | .joinedRows _ => .ok r.rows
  | .deleteReaction _ => .ok r.count
  | .add _ | .flush | .rollback => .ok ()
  | .refresh key => .ok (key.reaction.set r.set)

def Step.answer : Step → (c : Call) → Except Failure c.Reply
  | .fail e, _ => .error e
  | .reply r, c => r.answer c

def perform : Performer Script := fun c s =>
  ⟨(s.next c.method).answer c, [], s.advance c.method⟩

end Script

end ReactionLedger
