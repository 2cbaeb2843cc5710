import ReactionLedger.Decimal.Power

set_option autoImplicit false

namespace ReactionLedger

def roundQuotient (num den : Nat) : Nat :=
  let below := num / den
  let twice := 2 * (num % den)
  if twice < den || (twice == den && below % 2 == 0) then below else below + 1

structure Binary where
  mantissa : Nat
  exponent : Int
deriving DecidableEq

namespace Binary

def fraction (b : Binary) : Nat × Nat :=
  if b.exponent ≥ 0 then (b.mantissa * twoTo b.exponent.toNat, 1)
  else (b.mantissa, twoTo b.exponent.natAbs)

def nearestAt (exponent : Int) (num den : Nat) : Binary :=
  if exponent ≥ 0 then ⟨roundQuotient num (den * twoTo exponent.toNat), exponent⟩
  else ⟨roundQuotient (num * twoTo exponent.natAbs) den, exponent⟩

def highest (num den : Nat) : Int :=
  let guess : Int := (num.log2 : Int) - den.log2
  let (n, d) :=
    if guess ≥ 0 then (num, den * twoTo guess.toNat) else (num * twoTo guess.natAbs, den)
  if d ≤ n then guess else guess - 1

def nearest (places : Nat) (num den : Nat) : Binary :=
  if num == 0 then ⟨0, 0⟩ else nearestAt (highest num den + 1 - places) num den

def ofNat (n : Nat) : Binary := ⟨n, 0⟩

def mul (places : Nat) (a b : Binary) : Binary :=
  let c := nearest places (a.mantissa * b.mantissa) 1
  { c with exponent := c.exponent + a.exponent + b.exponent }

def div (places : Nat) (a b : Binary) : Binary :=
  let c := nearest places a.mantissa b.mantissa
  { c with exponent := c.exponent + a.exponent - b.exponent }

end Binary

theorem two_mul_roundQuotient_le (num den : Nat) :
    2 * (roundQuotient num den * den) ≤ 2 * num + den := by
  have parts := Nat.div_add_mod num den
  have product : num / den * den = den * (num / den) := Nat.mul_comm _ _
  simp only [roundQuotient]
  split
  · omega
  · next above =>
    simp only [Bool.or_eq_true, decide_eq_true_eq, not_or] at above
    rw [Nat.add_mul]
    omega

theorem le_two_mul_roundQuotient (num : Nat) {den : Nat} (h : 0 < den) :
    2 * num ≤ 2 * (roundQuotient num den * den) + den := by
  have parts := Nat.div_add_mod num den
  have small := Nat.mod_lt num h
  have product : num / den * den = den * (num / den) := Nat.mul_comm _ _
  simp only [roundQuotient]
  split
  · next below =>
    simp only [Bool.or_eq_true, decide_eq_true_eq, Bool.and_eq_true, beq_iff_eq] at below
    omega
  · rw [Nat.add_mul]
    omega

end ReactionLedger
