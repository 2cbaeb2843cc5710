import ReactionLedger.Failure
import ReactionLedger.Value.Text

set_option autoImplicit false

namespace ReactionLedger

inductive Family where
  | base
  | access
  | unknownUser
  | invalidLabel
deriving DecidableEq

structure Report where
  message : Value
  user : Option Value

namespace Family

def name : Family → String
  | .base => "ReactionError"
  | .access => "DataAccessError"
  | .unknownUser => "UnknownUserError"
  | .invalidLabel => "InvalidReactionTypeError"

def all : List Family := [.base, .access, .unknownUser, .invalidLabel]

def ancestors (f : Family) : List String :=
  (if f = .base then [] else [name .base]) ++ ["Exception", "BaseException"]

def parameter : Family → String × Option String
  | .base => ("message", none)
  | .access => ("message", some "Reaction store is unavailable")
  | .unknownUser => ("user_id", none)
  | .invalidLabel => ("message", some Label.Fault.empty.message)

def expected (default : Option String) : String := if default.isSome then "from 1 to 2" else "2"

def argument (f : Family) : List Value → Except Failure Value
  | [v] => .ok v
  | [] =>
    match f.parameter with
    | (_, some default) => .ok (.text default)
    | (parameter, none) =>
      .error (.type (f.name ++ ".__init__() missing 1 required positional argument: '" ++
        parameter ++ "'"))
  | more =>
    .error (.type (f.name ++ ".__init__() takes " ++ expected f.parameter.2 ++
      " positional arguments but " ++ toString (more.length + 1) ++ " were given"))

def report (f : Family) (arguments : List Value) : Except Failure Report := do
  let v ← f.argument arguments
  if f = .unknownUser then return ⟨.text ("User " ++ v.plain ++ " not found"), some v⟩
  return ⟨v, none⟩

end Family

end ReactionLedger
