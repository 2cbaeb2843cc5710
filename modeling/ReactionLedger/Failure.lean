import ReactionLedger.Complaint
import ReactionLedger.Label

set_option autoImplicit false

namespace ReactionLedger

/-- Whether a database fault was reported by the engine or stands in for one. -/
inductive Origin where
  | engine
  | standIn
deriving DecidableEq

inductive StoreFault where
  | general (text : String)
  | badRequest (text : String)
  | ambiguous
  | operational (origin : Origin) (text : String)
  | integrity (origin : Origin) (text : String)
  -- an earlier failure of the session has not been rolled back yet
  | inactive (reason : String)
deriving DecidableEq

namespace StoreFault

def wrapped (origin : Origin) (kind text : String) : String :=
  match origin with
  | .engine => "(sqlite3." ++ kind ++ ") " ++ text
  | .standIn => "(builtins.Exception) " ++ text

def message : StoreFault → String
  | .general text | .badRequest text => text
  | .ambiguous => "Multiple rows were found when one or none was required"
  | .operational origin text => wrapped origin "OperationalError" text
  | .integrity origin text => wrapped origin "IntegrityError" text
  | .inactive reason =>
      "This Session's transaction has been rolled back due to a previous exception during flush." ++
        " To begin a new transaction with this Session, first issue Session.rollback(). " ++
        "Original exception was: " ++ reason

def detail : StoreFault → String
  | .operational _ text | .integrity _ text => text
  | f => f.message

end StoreFault

inductive SystemFault where
  | general
  | refused
  | timedOut
deriving DecidableEq

inductive Failure where
  | store (fault : StoreFault)
  | system (fault : SystemFault) (text : String)
  | value (text : String)
  | type (text : String)
  | runtime (text : String)
  | overflow (text : String)
  | attribute (text : String)
  | undecodable (text : String)
  | invalid (complaints : List Complaint)
  | label (fault : Label.Fault)
  | unknownUser (user : Option String)
  -- the store could not be read or written, or a row of it does not decode
  | access (text : String) (cause : Option Failure)

namespace Failure

def orNone (text : Option String) : String := text.getD "None"

def message : Failure → String
  | .store fault => fault.message
  | .system _ text | .value text | .type text | .runtime text | .overflow text
  | .attribute text | .undecodable text => text
  -- a refusal is known by its complaints only, and their sentences stand for its text
  | .invalid complaints => String.intercalate "\n" (complaints.map fun c => c.objection.message)
  | .label fault => fault.message
  | .unknownUser user => "User " ++ orNone user ++ " not found"
  | .access text _ => text

def isStore : Failure → Bool
  | .store _ => true
  | _ => false

/-- The failures of a read that count as failures of the store. -/
def isReadFault : Failure → Bool
  | .store _ | .system _ _ | .value _ | .undecodable _ | .invalid _ => true
  | _ => false

def isRefusal : Failure → Bool
  | .invalid _ => true
  | _ => false

def isAccess : Failure → Bool
  | .access _ _ => true
  | _ => false

end Failure

end ReactionLedger
