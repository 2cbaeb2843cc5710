import ReactionLedger.Decimal.Literal
import ReactionLedger.Text.Numeral

set_option autoImplicit false

namespace ReactionLedger.Decimal

def underscoresSeparate (afterDigit : Bool) : List Char → Bool
  | [] => true
  | c :: cs =>
    if c == '_' then
      afterDigit && cs.head?.any Text.isDigit && underscoresSeparate false cs
    else underscoresSeparate (Text.isDigit c) cs

def numberWords : List String := ["inf", "infinity", "nan"]

def isNumeral (source : String) : Bool :=
  let cs := Text.trimWith Text.numeralBlank (Text.plainNumeral source.toList)
  let plain := cs.filter (· != '_')
  let word := String.ofList ((signed cs).2.map Char.toLower)
  word ∈ numberWords ||
    (underscoresSeparate false cs && (Literal.read? (String.ofList plain)).isSome)

end ReactionLedger.Decimal
