import ReactionLedger.Text.Blank
import ReactionLedger.Text.Quoted
import ReactionLedger.Text.Word

set_option autoImplicit false

namespace ReactionLedger.Text

inductive NumeralFault where
  | malformed (base : Nat) (source : String)
  | tooLong (digits : Nat)
deriving DecidableEq

def maxNumeralDigits : Nat := 4300

def NumeralFault.message : NumeralFault → String
  | .malformed base source =>
      "invalid literal for int() with base " ++ toString base ++ ": " ++
        String.ofList ((quoteChars source.toList).take 200)
  | .tooLong n =>
      "Exceeds the limit (" ++ toString maxNumeralDigits ++
        " digits) for integer string conversion: value has " ++ toString n ++
        " digits; use sys.set_int_max_str_digits() to increase the limit"

-- digits of other scripts become plain ones and their blanks become spaces
def plainNumeral (cs : List Char) : List Char :=
  cs.map fun c =>
    if c.toNat < 127 then c
    else
      match decimal? c with
      | some d => digit d
      | none => if isBlank c then ' ' else c

def numeralRun (base : Nat) (after : Bool) (value count : Nat) :
    List Char → Option (Nat × Nat × List Char)
  | [] => if after then some (value, count, []) else none
  | c :: cs =>
    if c == '_' then if after then numeralRun base false value count cs else none
    else
      match (hex? c).filter (· < base) with
      | some d => numeralRun base true (base * value + d) (count + 1) cs
      | none => if after then some (value, count, c :: cs) else none

-- `0x` may introduce hexadecimal digits, with one underscore after it
def dropMark (base : Nat) : List Char → List Char
  | '0' :: x :: cs =>
    if base == 16 && (x == 'x' || x == 'X') then
      match cs with
      | '_' :: cs => cs
      | cs => cs
    else '0' :: x :: cs
  | cs => cs

def readNumeral (base : Nat) (source : String) : Except NumeralFault Int :=
  let cs := (plainNumeral source.toList).dropWhile numeralBlank
  let (sign, cs) : Int × List Char := match cs with
    | '-' :: cs => (-1, cs)
    | '+' :: cs => (1, cs)
    | cs => (1, cs)
  match numeralRun base false 0 0 (dropMark base cs) with
  | none => .error (.malformed base source)
  | some (value, count, rest) =>
    if base == 10 && count > maxNumeralDigits then .error (.tooLong count)
    else if rest.all numeralBlank then .ok (sign * value)
    else .error (.malformed base source)

end ReactionLedger.Text
