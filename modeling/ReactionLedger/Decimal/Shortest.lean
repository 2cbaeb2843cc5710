import ReactionLedger.Text.Digits

set_option autoImplicit false

namespace ReactionLedger

structure Double where
  bits : UInt64
deriving DecidableEq

namespace Double

def negative (x : Double) : Bool := x.bits.toNat ≥ twoTo 63

def exponentBits (x : Double) : Nat := x.bits.toNat / twoTo 52 % twoTo 11

def fractionBits (x : Double) : Nat := x.bits.toNat % twoTo 52

def isFinite (x : Double) : Bool := x.exponentBits != 2047

def isNaN (x : Double) : Bool := x.exponentBits == 2047 && x.fractionBits != 0

def isZero (x : Double) : Bool := x.exponentBits == 0 && x.fractionBits == 0

-- a finite number has the magnitude mantissa · 2 ^ (power - 1075)
def mantissa (x : Double) : Nat :=
  if x.exponentBits == 0 then x.fractionBits else twoTo 52 + x.fractionBits

def power (x : Double) : Nat := if x.exponentBits == 0 then 1 else x.exponentBits

def magnitude (x : Double) : Nat × Nat :=
  if x.power ≥ 1075 then (x.mantissa * twoTo (x.power - 1075), 1)
  else (x.mantissa, twoTo (1075 - x.power))

def reduce : (shift : Nat) → (num : Nat) → Nat × Nat
  | 0, num => (num, 0)
  | s + 1, num => if num % 2 == 0 then reduce s (num / 2) else (num, s + 1)

def lowestTerms (x : Double) : Int × Nat :=
  let m : Nat × Nat :=
    if x.power ≥ 1075 then (x.mantissa * twoTo (x.power - 1075), 0)
    else if x.isZero then (0, 0)
    else reduce (1075 - x.power) x.mantissa
  (if x.negative then -(m.1 : Int) else m.1, m.2)

-- the numbers that read back as `x` lie between these, in quarters of its last binary place;
-- the ends belong to them when the mantissa is even
def lowerQuarters (x : Double) : Nat :=
  4 * x.mantissa - (if x.fractionBits == 0 && x.exponentBits > 1 then 1 else 2)

def upperQuarters (x : Double) : Nat := 4 * x.mantissa + 2

-- a / b ≤ c / d, and strictly
def leFraction (a b c d : Nat) : Bool := a * d ≤ c * b
def ltFraction (a b c d : Nat) : Bool := a * d < c * b

def readsBack (x : Double) (digits exponent : Nat) : Bool :=
  let (num, den) := if exponent ≥ 400 then (digits * tenTo (exponent - 400), 1)
    else (digits, tenTo (400 - exponent))
  let scale (quarters : Nat) : Nat × Nat :=
    if x.power ≥ 1077 then (quarters * twoTo (x.power - 1077), 1)
    else (quarters, twoTo (1077 - x.power))
  let low := scale x.lowerQuarters
  let high := scale x.upperQuarters
  if x.mantissa % 2 == 0 then leFraction low.1 low.2 num den && leFraction num den high.1 high.2
  else ltFraction low.1 low.2 num den && ltFraction num den high.1 high.2

-- the decimal exponent of a positive fraction, counted from 10 ^ -400
def decimalExponent (num den : Nat) : (fuel : Nat) → Nat
  | 0 => 0
  | e + 1 =>
    let reached := if e ≥ 400 then tenTo (e - 400) * den ≤ num else den ≤ num * tenTo (400 - e)
    if reached then e else decimalExponent num den e

def onGrid (x : Double) (count : Nat) : Option (Nat × Nat) :=
  let (num, den) := x.magnitude
  let exponent := decimalExponent num den 800 + 1 - count
  let (n, d) := if exponent ≥ 400 then (num, den * tenTo (exponent - 400))
    else (num * tenTo (400 - exponent), den)
  let below := n / d
  let above := below + 1
  let twice := 2 * (n % d)
  let nearer := if twice < d || (twice == d && below % 2 == 0) then below else above
  let farther := if nearer == below then above else below
  if readsBack x nearer exponent then some (nearer, exponent)
  else if readsBack x farther exponent then some (farther, exponent)
  else none

def shortest (x : Double) : Nat × Nat :=
  ((List.range 17).findSome? fun k => onGrid x (k + 1)).getD (0, 400)

def stripZeros : (fuel : Nat) → Nat × Nat → Nat × Nat
  | 0, p => p
  | f + 1, (d, e) => if d % 10 == 0 && d != 0 then stripZeros f (d / 10, e + 1) else (d, e)

def text (x : Double) : String :=
  let sign := if x.negative then "-" else ""
  if x.isNaN then "nan"
  else if !x.isFinite then sign ++ "inf"
  else if x.isZero then sign ++ "0.0"
  else
    let (d, e) := stripZeros 20 x.shortest
    let digits := Nat.toDigits 10 d
    let first : Int := (e : Int) - 400 + digits.length - 1
    let zeros (n : Nat) : List Char := List.replicate n '0'
    let body : List Char :=
      if first < -4 || first ≥ 16 then
        let head := digits.take 1
        let tail := digits.drop 1
        let exponent := Nat.toDigits 10 first.natAbs
        head ++ (if tail.isEmpty then [] else '.' :: tail) ++
          ['e', if first < 0 then '-' else '+'] ++ zeros (2 - exponent.length) ++ exponent
      else if first < 0 then ['0', '.'] ++ zeros (first.natAbs - 1) ++ digits
      else
        let whole := first.toNat + 1
        if digits.length ≤ whole then digits ++ zeros (whole - digits.length) ++ ['.', '0']
        else digits.take whole ++ '.' :: digits.drop whole
    sign ++ String.ofList body

end Double

end ReactionLedger
