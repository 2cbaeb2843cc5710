import ReactionLedger.Text.Numeral
import ReactionLedger.Text.Utf8
import ReactionLedger.Uuid

set_option autoImplicit false

namespace ReactionLedger.Uuid

inductive LenientFault where
  | malformed
  | numeral (fault : Text.NumeralFault)
deriving DecidableEq

def LenientFault.message : LenientFault → String
  | .malformed => "badly formed hexadecimal UUID string"
  | .numeral fault => fault.message

/-- Drops every occurrence of a word, from left to right; `skip` characters still belong to the last
one. -/
def dropWord (word : List Char) : (skip : Nat) → List Char → List Char
  | _, [] => []
  | k + 1, _ :: cs => dropWord word k cs
  | 0, c :: cs =>
    if word.isPrefixOf (c :: cs) then dropWord word (word.length - 1) cs
    else c :: dropWord word 0 cs

def isBrace (c : Char) : Bool := c.toNat == 0x7B || c.toNat == 0x7D

def core (source : String) : List Char :=
  let cs := dropWord "uuid:".toList 0 (dropWord "urn:".toList 0 source.toList)
  (Text.trimWith isBrace cs).filter (· != '-')

def readLenient (source : String) : Except LenientFault Uuid :=
  let cs := core source
  if cs.length == 32 then
    match ofChars? cs with
    | some u => .ok u
    | none =>
      match Text.readNumeral 16 (String.ofList cs) with
      | .ok n => .ok (ofNat n.toNat)
      | .error f => .error (.numeral f)
  else .error .malformed

inductive ExactFault where
  | character (c : Char) (index : Nat)
  | length (found : Nat)
  | groupCount (found : Nat)
  | groupLength (group expected found : Nat)
  | byteLength (found : Nat)
deriving DecidableEq

def ExactFault.message : ExactFault → String
  | .character c i =>
      "invalid character: found `" ++ String.singleton c ++ "` at " ++ toString i
  | .length n => "invalid length: found " ++ toString n
  | .groupCount n => "invalid group count: expected 5, found " ++ toString n
  | .groupLength g e n =>
      "invalid group length in group " ++ toString g ++ ": expected " ++ toString e ++
        ", found " ++ toString n
  | .byteLength n => "invalid length: expected 16 bytes, found " ++ toString n

def ofGroups? (cs : List Char) : Option Uuid :=
  if cs.length == 36 && [8, 13, 18, 23].all (fun i => cs.getD i ' ' == '-') then
    ofChars? (cs.filter (· != '-'))
  else none

-- the mark or braces around the digits, and how many characters stand in front
def unwrap (cs : List Char) : List Char × Nat × Bool :=
  let mark := "urn:uuid:".toList
  if cs.length ≥ 2 && cs.head?.map Char.toNat == some 0x7B &&
      cs.getLast?.map Char.toNat == some 0x7D then
    ((cs.drop 1).dropLast, 1, true)
  else if mark.isPrefixOf cs then (cs.drop mark.length, mark.length, true)
  else (cs, 0, false)

-- places are counted in bytes
def badCharacter (offset : Nat) : List Char → Option ExactFault
  | [] => none
  | c :: cs =>
    if c == '-' || (Text.hex? c).isSome then badCharacter (offset + c.utf8Size) cs
    else some (.character c offset)

def hyphens (i : Nat) : List Char → List Nat
  | [] => []
  | c :: cs => if c == '-' then i :: hyphens (i + 1) cs else hyphens (i + 1) cs

def groupFault (ends : List Nat) (total : Nat) : ExactFault :=
  let wrong := [(0, 0, 8), (1, 9, 4), (2, 14, 4), (3, 19, 4)].find? fun (g, start, size) =>
    ends.getD g 0 != start + size
  match wrong with
  | some (g, start, size) => .groupLength g size (ends.getD g 0 - start)
  | none => .groupLength 4 12 (total - 24)

-- the longest shape has a mark in front
def maxLength : Nat := 45

def diagnoseDigits (total offset : Nat) (grouped : Bool) (digits : List Char) : ExactFault :=
  match badCharacter offset digits with
  | some f => f
  | none =>
    let ends := hyphens 0 digits
    if ends.isEmpty && !grouped then .length total
    else if ends.length != 4 then .groupCount (ends.length + 1)
    else groupFault ends total

def diagnose (cs : List Char) : ExactFault :=
  let total := (Text.Utf8.encode cs).length
  if total > maxLength then .length total
  else if total == 36 then diagnoseDigits total 0 true cs
  else if total == 32 then diagnoseDigits total 0 false cs
  else
    let (inner, offset, wrapped) := unwrap cs
    diagnoseDigits total offset wrapped inner

def readExact (source : String) : Except ExactFault Uuid :=
  let cs := source.toList
  let (inner, _, _) := unwrap cs
  match if cs.length == 32 then ofChars? cs else ofGroups? inner with
  | some u => .ok u
  | none => .error (diagnose cs)

def readBytes (bytes : List UInt8) : Except ExactFault Uuid :=
  let read? := (String.fromUTF8? (ByteArray.mk bytes.toArray)).bind fun s => (readExact s).toOption
  match read? with
  | some u => .ok u
  | none =>
    match ofBytes? bytes with
    | some u => .ok u
    | none => .error (.byteLength bytes.length)

end ReactionLedger.Uuid
