set_option autoImplicit false

namespace ReactionLedger

def twoTo (n : Nat) : Nat := Nat.pow 2 n

def tenTo (n : Nat) : Nat := Nat.pow 10 n

def wordBound : Int := twoTo 63

def fitsWord (n : Int) : Bool := -wordBound ≤ n && n < wordBound

theorem twoTo_succ (n : Nat) : twoTo (n + 1) = 2 * twoTo n :=
  Nat.mul_comm (twoTo n) 2

theorem tenTo_succ (n : Nat) : tenTo (n + 1) = 10 * tenTo n :=
  Nat.mul_comm (tenTo n) 10

theorem tenTo_pos (n : Nat) : 0 < tenTo n := Nat.pow_pos (by decide)

end ReactionLedger
