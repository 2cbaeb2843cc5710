import ReactionLedger.Failure
import ReactionLedger.Logging.Level
import ReactionLedger.Value.Text

set_option autoImplicit false

namespace ReactionLedger

structure LogRoot where
  level : Int
  -- a handler that was there before has no format
  handlers : List (Option String)
deriving DecidableEq

namespace LogRoot

def format : String := "%(asctime)s %(levelname)s [%(name)s] %(message)s"

def start (handlers : Nat) : LogRoot := ⟨LogLevel.warning.number, List.replicate handlers none⟩

def levels : List (String × Int) :=
  LogLevel.all.map (fun l => (l.name, l.number)) ++
    [("FATAL", LogLevel.critical.number), ("WARN", LogLevel.warning.number), ("NOTSET", 0)]

def isVoid : Value → Bool
  | .null => true
  | .bool b => !b
  | .int n => n == 0
  | .double x => x.isZero
  | .text s => s.isEmpty
  | .bytes b => b.isEmpty
  | .list items => items.isEmpty
  | .record fields => fields.isEmpty
  | _ => false

def levelOf : Value → Except Failure Int
  | .bool b => .ok (if b then 1 else 0)
  | .int n => .ok n
  | .text s =>
    match levels.lookup s with
    | some n => .ok n
    | none => .error (.value ("Unknown level: " ++ Text.quoted s))
  | v => .error (.type ("Level not an integer or a valid string: " ++ v.literal))

/-- A handler is added only to a root that has none, and also when the level is then refused. -/
def configure (root : LogRoot) (settings : Value) (level : Value) : Except Failure Unit × LogRoot :=
  let root := if root.handlers.isEmpty then { root with handlers := [some format] } else root
  match levelOf (if isVoid level then settings else level) with
  | .ok n => (.ok (), { root with level := n })
  | .error e => (.error e, root)

def configureAll (settings : Value) (root : LogRoot) :
    List Value → List (Except Failure Unit × LogRoot)
  | [] => []
  | level :: levels =>
    let r := root.configure settings level
    r :: configureAll settings r.2 levels

end LogRoot

end ReactionLedger
