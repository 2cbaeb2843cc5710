import ReactionLedger.Complaint
import ReactionLedger.Decimal.Literal
import ReactionLedger.Logging.Level
import ReactionLedger.Text.Digits

set_option autoImplicit false

namespace ReactionLedger.Settings

open Text

def onWords : List String := ["true", "t", "yes", "y", "on", "1"]

def offWords : List String := ["false", "f", "no", "n", "off", "0"]

def readSwitch (source : String) : Except Objection Bool :=
  let word := String.ofList (source.toList.map Char.toLower)
  if word ∈ onWords then .ok true
  else if word ∈ offWords then .ok false
  else .error .notBoolean

def maxDigits : Nat := 4300

inductive NumberFault where
  | malformed
  | tooLong
deriving DecidableEq

def wordInteger? (cs : List Char) : Option Int := do
  let (negative, digits) := Decimal.signed cs
  if digits.isEmpty then none
  else
    let n ← readDigits digits 0
    let n : Int := if negative then -(n : Int) else n
    if fitsWord n then some n else none

def plainInteger (cs : List Char) : Except NumberFault Int :=
  let (negative, digits) := match cs with
    | '-' :: cs => (true, cs)
    | cs => (false, cs)
  let run := digits.takeWhile isDigit
  if run.isEmpty || (run.head? == some '0' && run.length > 1) then .error .malformed
  else if run.length + (if negative then 1 else 0) > maxDigits then .error .tooLong
  else
    match readDigits digits 0 with
    | some n => .ok (if negative then -(n : Int) else n)
    | none => .error .malformed

def integer (cs : List Char) : Except NumberFault Int :=
  match wordInteger? cs with
  | some n => .ok n
  | none => plainInteger cs

-- what follows the leading zeros, of which the last stays when only they or a point follow; a minus
-- sign may still follow them
def dropZeros (last : Char) : List Char → Option (List Char)
  | [] => some [last]
  | c :: cs =>
    if c == '0' || c == '_' then dropZeros c cs
    else if c == '-' || ('1' ≤ c && c ≤ '9') then some (c :: cs)
    else if c == '.' then some (last :: c :: cs)
    else none

def stripZeros : List Char → Option (List Char)
  | [] => none
  | c :: cs =>
    if c == '0' then dropZeros c cs
    else if c == '-' || ('1' ≤ c && c ≤ '9') then some (c :: cs)
    else none

def stripFraction (cs : List Char) : List Char :=
  match cs.dropWhile (· != '.') with
  | _ :: places =>
    if !places.isEmpty && places.all (· == '0') then cs.takeWhile (· != '.') else cs
  | [] => cs

def doubled : List Char → Bool
  | '_' :: '_' :: _ => true
  | _ :: cs => doubled cs
  | [] => false

def stripUnderscores (cs : List Char) : List Char :=
  if cs.head? == some '_' || cs.getLast? == some '_' || doubled cs then cs
  else cs.filter (· != '_')

def tidy (cs : List Char) : Option (List Char) :=
  let cs := trimWith isSpace cs
  match match cs with
    | '+' :: '-' :: _ => none
    | '+' :: cs => stripZeros cs
    | cs => stripZeros cs with
  | some cs => some (stripUnderscores (stripFraction cs))
  | none => none

def readInteger (source : String) : Except Objection Int :=
  match integer source.toList with
  | .ok n => .ok n
  | .error .tooLong => .error .integerTooLong
  | .error .malformed =>
    match (tidy source.toList).map integer with
    | some (.ok n) => .ok n
    | _ => .error .notInteger

def readPositive (source : String) : Except Objection Nat :=
  match readInteger source with
  | .ok n => if n > 0 then .ok n.toNat else .error .notPositive
  | .error o => .error o

def readLevel (source : String) : Except Objection LogLevel :=
  match LogLevel.read source with
  | some l => .ok l
  | none => .error (.refused ("Unknown log level: " ++ source))

theorem readLevel_name (l : LogLevel) : readLevel l.name = .ok l := by
  simp [readLevel, LogLevel.read_name]

end ReactionLedger.Settings
