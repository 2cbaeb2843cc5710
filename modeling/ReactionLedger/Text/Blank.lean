set_option autoImplicit false

namespace ReactionLedger.Text

def isBlank (c : Char) : Bool :=
  let n := c.toNat
  (9 ≤ n && n ≤ 13) || (28 ≤ n && n ≤ 32) || n == 0x85 || n == 0xA0 || n == 0x1680 ||
    (0x2000 ≤ n && n ≤ 0x200A) || n == 0x2028 || n == 0x2029 || n == 0x202F || n == 0x205F ||
    n == 0x3000

-- the information separators are blank, but no white space in the narrower sense
def isSpace (c : Char) : Bool := isBlank c && !(28 ≤ c.toNat && c.toNat ≤ 31)

-- the blanks of plain text, which alone may stand around numerals
def numeralBlank (c : Char) : Bool := (9 ≤ c.toNat && c.toNat ≤ 13) || c == ' '

def trimEnd (p : Char → Bool) (cs : List Char) : List Char := (cs.reverse.dropWhile p).reverse

def trimWith (p : Char → Bool) (cs : List Char) : List Char := trimEnd p (cs.dropWhile p)

def trim (s : String) : String := String.ofList (trimWith isBlank s.toList)

theorem toList_trim (s : String) : (trim s).toList = trimWith isBlank s.toList := by
  simp [trim]

theorem trimWith_nil (p : Char → Bool) : trimWith p [] = [] := rfl

theorem isBlank_of_isWhitespace (c : Char) (h : c.isWhitespace = true) : isBlank c = true := by
  simp only [Char.isWhitespace, Bool.or_eq_true, decide_eq_true_eq] at h
  rcases h with ((rfl | rfl) | rfl) | rfl <;> rfl

end ReactionLedger.Text
