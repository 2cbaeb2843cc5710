import ReactionLedger.Service.Job
import ReactionLedger.Uuid.Reading

set_option autoImplicit false

namespace ReactionLedger.Service

inductive Request where
  | listComment (comment : Option String)
  | listView (view comment : Option String)
  | add (view comment : Option String) (label : String) (user : Option String)
  | remove (view comment : Option String) (label : String) (user : Option String)

namespace Request

def readId : Option String → Program (Option Uuid)
  | none => pure none
  | some source =>
    match Uuid.readLenient source with
    | .ok u => pure (some u)
    | .error f => Program.fail (.value f.message)

def job : Request → Program Job
  | .listComment comment => do return .listComment (← readId comment)
  | .listView view comment => do
    let view ← readId view
    return .listView view (← readId comment)
  | .add view comment label user => do
    let view ← readId view
    return .add view (← readId comment) label user
  | .remove view comment label user => do
    let view ← readId view
    return .remove view (← readId comment) label user

def program (r : Request) : Program Answer := do (← r.job).program

end Request

end ReactionLedger.Service
