import ReactionLedger.Value

set_option autoImplicit false

namespace ReactionLedger.Value

inductive Identity where
  | null
  | number (num : Int) (shift : Nat)
  | unbounded (bits : UInt64)
  | text (s : String)
  | bytes (b : List UInt8)
  | date (d : Date)
  | wall (micros : Nat)
  | instant (micros : Int)
  | uuid (u : Uuid)
deriving DecidableEq

def numberIdentity (x : Double) : Identity :=
  if x.isFinite then .number x.lowestTerms.1 x.lowestTerms.2 else .unbounded x.bits

def identity? : Value → Option Identity
  | .null => some .null
  | .bool b => some (.number (if b then 1 else 0) 0)
  | .int n => some (.number n 0)
  | .double x => some (numberIdentity x)
  | .text s => some (.text s)
  | .bytes b => some (.bytes b)
  | .date d => some (.date d)
  | .stamp s =>
      match s.moment? with
      | some m => some (.instant m.instant)
      | none => some (.wall (wallMicros s.date s.time))
  | .uuid u => some (.uuid u)
  | .list _ | .record _ => none

def unkeyable? : Value → Option String
  | .list _ => some "list"
  | .record _ => some "dict"
  | _ => none

theorem identity?_eq_none_iff (v : Value) : v.identity? = none ↔ v.unkeyable? ≠ none := by
  cases v with
  | stamp s => simp only [identity?, unkeyable?]; split <;> simp
  | _ => simp [identity?, unkeyable?]

end ReactionLedger.Value
