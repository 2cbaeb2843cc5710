import ReactionLedger.Text.Blank

set_option autoImplicit false

namespace ReactionLedger.Label

inductive Fault where
  | empty
  | tooLong
deriving DecidableEq

def maxLength : Nat := 64

def Fault.message : Fault → String
  | .empty => "Reaction type must not be empty"
  | .tooLong => "Reaction type must be at most " ++ toString maxLength ++ " characters"

def normalize (label : String) : Except Fault String :=
  let core := Text.trim label
  if core.isEmpty then .error .empty
  else if core.length > maxLength then .error .tooLong
  else .ok core

end ReactionLedger.Label
