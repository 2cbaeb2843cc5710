import ReactionLedger.Text.Utf8

set_option autoImplicit false

namespace ReactionLedger.Text.Percent

-- what never needs encoding
def isPlain (c : Char) : Bool :=
  c.isAlphanum || c == '_' || c == '.' || c == '-' || c == '~'

def capitalHex (c : Char) : Char := if 'a' ≤ c && c ≤ 'f' then Char.ofNat (c.toNat - 32) else c

def encodeByte (b : UInt8) : List Char := '%' :: (fixedHex 2 b.toNat).map capitalHex

def encode (safe : List Char) (cs : List Char) : List Char :=
  cs.flatMap fun c =>
    if isPlain c || safe.contains c then [c] else (Utf8.encode [c]).flatMap encodeByte

def encodeQuery (cs : List Char) : List Char :=
  (encode [' '] cs).map fun c => if c == ' ' then '+' else c

def hexByte? (a b : Char) : Option UInt8 := do
  let m ← hex? a
  let n ← hex? b
  return UInt8.ofNat (16 * m + n)

-- the bytes of plain text before, the last of them first, are decoded together
def decodeFrom (before : List UInt8) : List Char → List Char
  | [] => Utf8.lossy before.reverse
  | c :: cs =>
    if c == '%' then
      match cs with
      | a :: b :: rest =>
        match hexByte? a b with
        | some byte => decodeFrom (byte :: before) rest
        | none => decodeFrom (37 :: before) (a :: b :: rest)
      | rest => decodeFrom (37 :: before) rest
    else if c.toNat < 128 then decodeFrom (UInt8.ofNat c.toNat :: before) cs
    else Utf8.lossy before.reverse ++ c :: decodeFrom [] cs

def decode (cs : List Char) : List Char := decodeFrom [] cs

def decodeQuery (cs : List Char) : List Char := decode (cs.map fun c => if c == '+' then ' ' else c)

theorem encode_nil (safe : List Char) : encode safe [] = [] := rfl

theorem decode_nil : decode [] = [] := rfl

end ReactionLedger.Text.Percent
