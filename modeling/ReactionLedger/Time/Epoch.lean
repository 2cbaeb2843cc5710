import ReactionLedger.Decimal.Literal
import ReactionLedger.Time.Stamp

set_option autoImplicit false

namespace ReactionLedger.Epoch

def firstDay : Nat := 719163

-- the starts of year 0, which the calendar of stamps lacks, and of year 1, and the last second
def minSeconds : Int := -62167219200
def firstSeconds : Int := -62135596800
def maxSeconds : Int := 253402300799

-- larger numbers count milliseconds
def maxWholeSeconds : Nat := 20000000000

inductive Fault where
  | early
  | late
  | yearZero
deriving DecidableEq

def Fault.message : Fault → String
  | .early => "dates before 0000 are not supported as unix timestamps"
  | .late => "dates after 9999 are not supported as unix timestamps"
  | .yearZero => "year 0 is out of range"

def ofMicros (micros : Int) : Except Fault Moment :=
  let seconds := micros.fdiv 1000000
  if seconds < minSeconds then .error .early
  else if maxSeconds < seconds then .error .late
  else if seconds < firstSeconds then .error .yearZero
  else
    let day := (seconds.fdiv 86400 + firstDay).toNat
    let inDay := (seconds.fmod 86400).toNat
    match Date.ofOrdinal? day,
        ClockTime.of? (inDay / 3600) (inDay / 60 % 60) (inDay % 60) (micros.fmod 1000000).toNat with
    | .ok date, .ok time => .ok ⟨date, time, .zero⟩
    | _, _ => .error .late

def ofInt (n : Int) : Except Fault Moment :=
  ofMicros (if n.natAbs ≤ maxWholeSeconds then n * 1000000 else n * 1000)

-- the microseconds in a part of a unit; the part and the product are rounded to double precision,
-- and half a microsecond counts as one
def microsOf (num den perUnit : Nat) : Nat :=
  let (n, d) := (Binary.mul 53 (.nearest 53 num den) (.ofNat perUnit)).fraction
  (2 * n + d) / (2 * d)

def ofDouble (x : Double) : Except Fault Moment :=
  if x.isFinite then
    let (num, shift) := x.lowestTerms
    let den := twoTo shift
    let perUnit := if num.natAbs ≤ maxWholeSeconds * den then 1000000 else 1000
    ofMicros (num.fdiv den * perUnit + microsOf (num.fmod den).toNat den perUnit)
  else .error (if x.negative then .early else .late)

end ReactionLedger.Epoch
