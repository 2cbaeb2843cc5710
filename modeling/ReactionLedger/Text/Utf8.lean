import ReactionLedger.Text.Digits

set_option autoImplicit false

namespace ReactionLedger.Text.Utf8

def encode (cs : List Char) : List UInt8 := cs.flatMap String.utf8EncodeChar

inductive Front where
  | char (code size : Nat)
  | broken (size : Nat)
  -- the bytes end within a character
  | cut
deriving DecidableEq

/-- How many bytes follow a leading byte, the bits it gives, and the range of the next byte. -/
def leading? (b : Nat) : Option (Nat × Nat × Nat × Nat) :=
  if 0xC2 ≤ b && b ≤ 0xDF then some (1, b - 0xC0, 0x80, 0xBF)
  else if b == 0xE0 then some (2, 0, 0xA0, 0xBF)
  else if b == 0xED then some (2, 0xD, 0x80, 0x9F)
  else if 0xE1 ≤ b && b ≤ 0xEF then some (2, b - 0xE0, 0x80, 0xBF)
  else if b == 0xF0 then some (3, 0, 0x90, 0xBF)
  else if 0xF1 ≤ b && b ≤ 0xF3 then some (3, b - 0xF0, 0x80, 0xBF)
  else if b == 0xF4 then some (3, 4, 0x80, 0x8F)
  else none

def trailing (code size low high : Nat) : (left : Nat) → List UInt8 → Front
  | 0, _ => .char code size
  | _ + 1, [] => .cut
  | n + 1, b :: bs =>
    if low ≤ b.toNat && b.toNat ≤ high then
      trailing (64 * code + b.toNat % 64) (size + 1) 0x80 0xBF n bs
    else .broken size

def front : List UInt8 → Front
  | [] => .cut
  | b :: bs =>
    if b.toNat < 0x80 then .char b.toNat 1
    else
      match leading? b.toNat with
      | some (left, code, low, high) => trailing code 1 low high left bs
      | none => .broken 1

structure Fault where
  start : Nat
  stop : Nat
  byte : UInt8
deriving DecidableEq

namespace Fault

def places (f : Fault) : String :=
  if f.stop = f.start + 1 then
    "byte 0x" ++ String.ofList (fixedHex 2 f.byte.toNat) ++ " in position " ++ toString f.start
  else "bytes in position " ++ toString f.start ++ "-" ++ toString (f.stop - 1)

def message (f : Fault) : String :=
  "'utf-8' codec can't decode " ++ f.places ++ ": invalid utf-8"

end Fault

-- `skip` bytes still belong to the last character
def faultFrom (start : Nat) : (skip : Nat) → List UInt8 → Option Fault
  | _, [] => none
  | k + 1, _ :: bs => faultFrom (start + 1) k bs
  | 0, b :: bs =>
    match front (b :: bs) with
    | .char _ size => faultFrom (start + 1) (size - 1) bs
    | .broken size => some ⟨start, start + size, b⟩
    | .cut => some ⟨start, start + (bs.length + 1), b⟩

def fault? (bytes : List UInt8) : Option Fault := faultFrom 0 0 bytes

def lossyFrom : (skip : Nat) → List UInt8 → List Char
  | _, [] => []
  | k + 1, _ :: bs => lossyFrom k bs
  | 0, b :: bs =>
    match front (b :: bs) with
    | .char code size => Char.ofNat code :: lossyFrom (size - 1) bs
    | .broken size => '\ufffd' :: lossyFrom (size - 1) bs
    | .cut => ['\ufffd']

def lossy (bytes : List UInt8) : List Char := lossyFrom 0 bytes

theorem encode_append (a b : List Char) : encode (a ++ b) = encode a ++ encode b :=
  List.flatMap_append

theorem fault?_nil : fault? [] = none := rfl

end ReactionLedger.Text.Utf8
