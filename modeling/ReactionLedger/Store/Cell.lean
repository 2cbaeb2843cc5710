import ReactionLedger.Decimal.Literal

/-!
Cells of the time column.  The column prefers numbers: a text that is a numeric literal is kept as
the number, and a number without a fraction as an integer of 64 bits.
-/

set_option autoImplicit false

namespace ReactionLedger

inductive Cell where
  | text (s : String)
  | integer (n : Int)
  | real (x : Double)
deriving DecidableEq

namespace Cell

open Decimal (Literal)

def ofDouble (x : Double) : Cell :=
  if x.isFinite then
    let (num, shift) := x.lowestTerms
    if shift == 0 && -wordBound < num && num < wordBound then .integer num else .real x
  else .real x

def extended : Nat := 64

-- no digit beyond this significand counts
def significandBound : Nat := 922337203685477579

-- a digit before the point that does not count still shifts the others
def addUnit (p : Nat × Int) (d : Nat) : Nat × Int :=
  if p.1 < significandBound then (10 * p.1 + d, p.2) else (p.1, p.2 + 1)

def addPlace (p : Nat × Int) (d : Nat) : Nat × Int :=
  if p.1 < significandBound then (10 * p.1 + d, p.2 - 1) else p

def significand (l : Literal) : Nat × Int := l.places.foldl addPlace (l.units.foldl addUnit (0, 0))

-- exponents of more than four digits count as 10000 or more
def exponent (l : Literal) : Int :=
  match l.exponent with
  | none => 0
  | some (negative, ds) =>
    let size : Nat := ds.foldl (fun n d => if n < 10000 then 10 * n + d else 10000) 0
    if negative then -(size : Int) else size

/-- Moves powers of ten into the significand as far as it stays exact. -/
def absorb (negative : Bool) : (fuel : Nat) → (s power : Nat) → Nat × Nat
  | 0, s, power => (s, power)
  | _, s, 0 => (s, 0)
  | f + 1, s, power + 1 =>
    if negative then
      if s % 10 == 0 then absorb negative f (s / 10) power else (s, power + 1)
    else if s < significandBound + 1 then absorb negative f (10 * s) power
    else (s, power + 1)

def scale : (fuel : Nat) → (n : Nat) → (square result : Binary) → Binary
  | 0, _, _, result => result
  | f + 1, n, square, result =>
    let result := if n % 2 == 1 then result.mul extended square else result
    if n < 2 then result else scale f (n / 2) (square.mul extended square) result

def powerOfTen (n : Nat) : Binary := scale 10 n (.ofNat 10) (.ofNat 1)

def rounded (negative : Bool) (b : Binary) : Double :=
  Double.ofFraction negative b.fraction.1 b.fraction.2

def applyScale (negative : Bool) (s power : Nat) : Binary :=
  if negative then Binary.div extended (.ofNat s) (powerOfTen power)
  else Binary.mul extended (.ofNat s) (powerOfTen power)

def tenTo308 : Nat × Nat := (Double.ofFraction false (tenTo 308) 1).magnitude

-- beyond 10 ^ 307 the scale is applied in two steps, the second in double precision
def realOf (l : Literal) : Double :=
  let (s, dropped) := significand l
  let power := exponent l + dropped
  let small : Bool := power < 0
  let (s, n) := absorb small 20 s power.natAbs
  if s == 0 || n == 0 then Double.ofFraction l.negative s 1
  else if n ≤ 307 then rounded l.negative (applyScale small s n)
  else if n < 342 then
    let x := (rounded false (applyScale small s (n - 308))).magnitude
    if small then Double.ofFraction l.negative (x.1 * tenTo308.2) (x.2 * tenTo308.1)
    else Double.ofFraction l.negative (x.1 * tenTo308.1) (x.2 * tenTo308.2)
  else if small then Double.withSign l.negative 0
  else Double.unbounded l.negative

def ofLiteral (l : Literal) : Cell :=
  if l.isWhole && fitsWord l.integer then .integer l.integer else ofDouble (realOf l)

def ofText (source : String) : Cell :=
  match Literal.read? source with
  | some l => ofLiteral l
  | none => .text source

def settle : Cell → Cell
  | .text s => ofText s
  | .integer n => .integer n
  | .real x => ofDouble x

end Cell

end ReactionLedger
