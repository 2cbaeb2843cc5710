import ReactionLedger.Decimal.Rounding
import ReactionLedger.Decimal.Shortest
import ReactionLedger.Text.Blank

set_option autoImplicit false

namespace ReactionLedger

namespace Double

def withSign (negative : Bool) (size : Nat) : Double :=
  ⟨UInt64.ofNat (if negative then twoTo 63 + size else size)⟩

def unbounded (negative : Bool) : Double := withSign negative (2047 * twoTo 52)

def ofFraction (negative : Bool) (num den : Nat) : Double :=
  if num == 0 then withSign negative 0
  else
    let b := Binary.nearestAt (max (Binary.highest num den - 52) (-1074)) num den
    -- the size of a double counts the doubles below it
    let size := (b.exponent + 1074).toNat * twoTo 52 + b.mantissa
    if size ≥ 2047 * twoTo 52 then unbounded negative else withSign negative size

end Double

namespace Decimal

structure Literal where
  negative : Bool
  -- the digits before and after the point
  units : List Nat
  places : List Nat
  pointed : Bool
  exponent : Option (Bool × List Nat)

def signed : List Char → Bool × List Char
  | '-' :: cs => (true, cs)
  | '+' :: cs => (false, cs)
  | cs => (false, cs)

-- the digits at the front
def digitsOf (cs : List Char) : List Nat := (cs.takeWhile Text.isDigit).filterMap Text.digit?

def exponent? : List Char → Option (Option (Bool × List Nat))
  | [] => some none
  | c :: cs =>
    if c == 'e' || c == 'E' then
      let (negative, cs) := signed cs
      if !cs.isEmpty && cs.all Text.isDigit then some (some (negative, digitsOf cs)) else none
    else none

namespace Literal

def read? (source : String) : Option Literal := do
  let (negative, cs) := signed (Text.trimWith Text.numeralBlank source.toList)
  let units := digitsOf cs
  let cs := cs.dropWhile Text.isDigit
  let pointed := cs.head? == some '.'
  let places := if pointed then digitsOf (cs.drop 1) else []
  if units.isEmpty && places.isEmpty then none
  else
    let exponent ← exponent? (if pointed then (cs.drop 1).dropWhile Text.isDigit else cs)
    some { negative, units, places, pointed, exponent }

-- neither point nor exponent
def isWhole (l : Literal) : Bool := !l.pointed && l.exponent.isNone

def value (digits : List Nat) : Nat := digits.foldl (fun n d => 10 * n + d) 0

def digits (l : Literal) : Nat := value (l.units ++ l.places)

def power (l : Literal) : Int :=
  let exponent : Int := match l.exponent with
    | some (negative, ds) => if negative then -(value ds : Int) else value ds
    | none => 0
  exponent - l.places.length

def integer (l : Literal) : Int := if l.negative then -(l.digits : Int) else l.digits

def double (l : Literal) : Double :=
  let count : Int := l.units.length + l.places.length
  if l.digits == 0 || l.power + count < -400 then Double.withSign l.negative 0
  else if l.power > 400 then Double.unbounded l.negative
  else if l.power ≥ 0 then Double.ofFraction l.negative (l.digits * tenTo l.power.toNat) 1
  else Double.ofFraction l.negative l.digits (tenTo l.power.natAbs)

end Literal

end Decimal

end ReactionLedger
