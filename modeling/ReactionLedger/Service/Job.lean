import ReactionLedger.Service.Writing

set_option autoImplicit false

namespace ReactionLedger.Service

inductive Job where
  | listComment (comment : Option Uuid)
  | listView (view comment : Option Uuid)
  | add (view comment : Option Uuid) (label : String) (user : Option String)
  | remove (view comment : Option Uuid) (label : String) (user : Option String)

inductive Answer where
  | types (summaries : List TypeSummary)
  | comments (summaries : List CommentSummary)
  | reaction (reaction : Reaction)
  | removed (removed : Bool)

def Job.program : Job → Program Answer
  | .listComment comment => do return .types (← Service.listComment comment)
  | .listView view comment => do return .comments (← Service.listView view comment)
  | .add view comment label user => do return .reaction (← addReaction view comment label user)
  | .remove view comment label user => do return .removed (← removeReaction view comment label user)

end ReactionLedger.Service
