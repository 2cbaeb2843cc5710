import ReactionLedger.Text.Digits

set_option autoImplicit false

namespace ReactionLedger

structure Uuid where
  digits : List (Fin 16)
  length_eq : digits.length = 32
deriving DecidableEq

namespace Uuid

def ofDigits? (digits : List (Fin 16)) : Option Uuid :=
  if h : digits.length = 32 then some ⟨digits, h⟩ else none

def chars (u : Uuid) : List Char := u.digits.map fun d => Text.hexDigit d.val

def compact (u : Uuid) : String := String.ofList u.chars

def groups (cs : List Char) : List Char :=
  cs.take 8 ++ '-' :: (cs.drop 8).take 4 ++ '-' :: (cs.drop 12).take 4 ++
    '-' :: (cs.drop 16).take 4 ++ '-' :: cs.drop 20

def text (u : Uuid) : String := String.ofList (groups u.chars)

def nibble? (c : Char) : Option (Fin 16) := do
  let n ← Text.hex? c
  if h : n < 16 then some ⟨n, h⟩ else none

def ofChars? (cs : List Char) : Option Uuid := do ofDigits? (← cs.mapM nibble?)

-- the last `width` hexadecimal digits of a number
def nibbles : (width : Nat) → (n : Nat) → List (Fin 16)
  | 0, _ => []
  | w + 1, n => nibbles w (n / 16) ++ [⟨n % 16, Nat.mod_lt _ (by decide)⟩]

theorem length_nibbles (w n : Nat) : (nibbles w n).length = w := by
  induction w generalizing n with
  | zero => rfl
  | succ w ih => simp [nibbles, ih]

def ofNat (n : Nat) : Uuid := ⟨nibbles 32 n, length_nibbles 32 n⟩

def ofBytes? (bytes : List UInt8) : Option Uuid :=
  ofDigits? (bytes.flatMap fun b => nibbles 2 b.toNat)

theorem nibble?_hexDigit (d : Fin 16) : nibble? (Text.hexDigit d.val) = some d := by
  revert d
  decide

theorem ofDigits?_digits (u : Uuid) : ofDigits? u.digits = some u := by
  simp [ofDigits?, u.length_eq]

theorem ofChars?_chars (u : Uuid) : ofChars? u.chars = some u := by
  have digits : u.chars.mapM nibble? = some u.digits := by
    rw [chars]
    induction u.digits with
    | nil => rfl
    | cons d ds ih => simp [nibble?_hexDigit, ih]
  simp [ofChars?, digits, ofDigits?_digits]

end Uuid

end ReactionLedger
