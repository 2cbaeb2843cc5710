import ReactionLedger.Text.Digits
import ReactionLedger.Text.Printable

set_option autoImplicit false

namespace ReactionLedger.Text

def enclosing (cs : List Char) : Char :=
  if cs.contains '\'' && !cs.contains '"' then '"' else '\''

def escape (q c : Char) : List Char :=
  if c == q || c == '\\' then ['\\', c]
  else if c == '\n' then ['\\', 'n']
  else if c == '\r' then ['\\', 'r']
  else if c == '\t' then ['\\', 't']
  else if isPrintable c then [c]
  else if c.toNat ≤ 0xFF then ['\\', 'x'] ++ fixedHex 2 c.toNat
  else if c.toNat ≤ 0xFFFF then ['\\', 'u'] ++ fixedHex 4 c.toNat
  else ['\\', 'U'] ++ fixedHex 8 c.toNat

def quoteChars (cs : List Char) : List Char :=
  let q := enclosing cs
  q :: cs.flatMap (escape q) ++ [q]

def quoted (s : String) : String := String.ofList (quoteChars s.toList)

def escapeByte (q : Char) (b : UInt8) : List Char :=
  if b < 0x20 || b ≥ 0x7F then
    if b == 10 then ['\\', 'n']
    else if b == 13 then ['\\', 'r']
    else if b == 9 then ['\\', 't']
    else ['\\', 'x'] ++ fixedHex 2 b.toNat
  else escape q (Char.ofNat b.toNat)

def quotedBytes (bytes : List UInt8) : String :=
  let q := enclosing (bytes.map fun b => Char.ofNat b.toNat)
  "b" ++ String.ofList (q :: bytes.flatMap (escapeByte q) ++ [q])

end ReactionLedger.Text
