import ReactionLedger.Decimal.Shortest
import ReactionLedger.Time.Stamp
import ReactionLedger.Uuid

set_option autoImplicit false

namespace ReactionLedger

inductive Value where
  | null
  | bool (b : Bool)
  | int (n : Int)
  | double (x : Double)
  | text (s : String)
  | bytes (b : List UInt8)
  | date (d : Date)
  | stamp (s : Stamp)
  | uuid (u : Uuid)
  | list (items : List Value)
  | record (fields : List (String × Value))

namespace Value

def isNull : Value → Bool
  | .null => true
  | _ => false

def ofOption {α : Type} (f : α → Value) : Option α → Value
  | none => .null
  | some a => f a

theorem isNull_iff (v : Value) : v.isNull = true ↔ v = .null := by
  cases v <;> simp [isNull]

end Value

end ReactionLedger
