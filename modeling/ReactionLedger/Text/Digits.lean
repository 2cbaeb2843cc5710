import ReactionLedger.Decimal.Power

set_option autoImplicit false

namespace ReactionLedger.Text

def isDigit (c : Char) : Bool := '0' ≤ c && c ≤ '9'

def digit (n : Nat) : Char := Char.ofNat (48 + n % 10)

-- the last `width` decimal digits of a number, leading zeros included
def fixed : (width : Nat) → (n : Nat) → List Char
  | 0, _ => []
  | w + 1, n => fixed w (n / 10) ++ [digit n]

def digit? (c : Char) : Option Nat := if isDigit c then some (c.toNat - 48) else none

def readDigits : List Char → Nat → Option Nat
  | [], n => some n
  | c :: cs, n => do readDigits cs (10 * n + (← digit? c))

def hexDigit (n : Nat) : Char :=
  if n % 16 < 10 then Char.ofNat (48 + n % 16) else Char.ofNat (87 + n % 16)

def hex? (c : Char) : Option Nat :=
  if isDigit c then some (c.toNat - 48)
  else if 'a' ≤ c && c ≤ 'f' then some (c.toNat - 87)
  else if 'A' ≤ c && c ≤ 'F' then some (c.toNat - 55)
  else none

def fixedHex : (width : Nat) → (n : Nat) → List Char
  | 0, _ => []
  | w + 1, n => fixedHex w (n / 16) ++ [hexDigit n]

theorem length_fixed (w n : Nat) : (fixed w n).length = w := by
  induction w generalizing n with
  | zero => rfl
  | succ w ih => simp [fixed, ih]

theorem isDigit_digit (n : Nat) : isDigit (digit n) = true := by
  have cases : ∀ m, m < 10 → isDigit (Char.ofNat (48 + m)) = true := by decide
  exact cases _ (Nat.mod_lt _ (by decide))

theorem digit_digit? {n : Nat} (h : n < 10) : digit? (digit n) = some n := by
  have cases : ∀ m, m < 10 → digit? (digit m) = some m := by decide
  exact cases n h

theorem readDigits_append (a b : List Char) (n : Nat) :
    readDigits (a ++ b) n = (readDigits a n).bind (readDigits b) := by
  induction a generalizing n with
  | nil => rfl
  | cons c a ih =>
    cases h : digit? c <;> simp [readDigits, h, ih]

theorem readDigits_fixed {w n : Nat} (h : n < tenTo w) : readDigits (fixed w n) 0 = some n := by
  induction w generalizing n with
  | zero =>
    have zero : n = 0 := Nat.lt_one_iff.mp h
    simp [fixed, readDigits, zero]
  | succ w ih =>
    have hdiv : n / 10 < tenTo w := by
      rw [tenTo_succ] at h
      omega
    have hdigit : digit n = digit (n % 10) := by simp [digit]
    have hlast : digit? (digit n) = some (n % 10) := by
      rw [hdigit]
      exact digit_digit? (Nat.mod_lt _ (by decide))
    simp only [fixed, readDigits_append, ih hdiv, Option.bind_some, readDigits, hlast]
    simp only [Option.bind_eq_bind, Option.bind_some]
    congr 1
    omega

end ReactionLedger.Text
