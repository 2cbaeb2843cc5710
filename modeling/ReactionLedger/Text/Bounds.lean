/-!
Sets of characters given by their boundaries: an ascending list of the code points at which
membership changes, the first of them being the first member.
-/

set_option autoImplicit false

namespace ReactionLedger.Text

def within (bounds : Array Nat) (n : Nat) : Bool := bounds.countP (· ≤ n) % 2 == 1

theorem not_within_empty (n : Nat) : within #[] n = false := rfl

end ReactionLedger.Text
