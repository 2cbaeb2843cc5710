import ReactionLedger.Time.Literal
import ReactionLedger.Text.Quoted
import ReactionLedger.Value

set_option autoImplicit false

namespace ReactionLedger.Value

mutual

def literal : Value → String
  | .null => "None"
  | .bool b => if b then "True" else "False"
  | .int n => toString n
  | .double x => x.text
  | .text s => Text.quoted s
  | .bytes b => Text.quotedBytes b
  | .date d => d.literal
  | .stamp s => s.literal
  | .uuid u => "UUID('" ++ u.text ++ "')"
  | .list items => "[" ++ commaList (literals items) ++ "]"
  | .record fields => "\x7b" ++ commaList (fieldLiterals fields) ++ "\x7d"

def literals : List Value → List String
  | [] => []
  | v :: vs => literal v :: literals vs

def fieldLiterals : List (String × Value) → List String
  | [] => []
  | (name, v) :: fields => (Text.quoted name ++ ": " ++ literal v) :: fieldLiterals fields

end

def tupleLiteral (vs : List Value) : String :=
  match literals vs with
  | [only] => "(" ++ only ++ ",)"
  | parts => "(" ++ commaList parts ++ ")"

def plain : Value → String
  | .text s => s
  | .date d => String.ofList d.text
  | .stamp s => s.textWith ' '
  | .uuid u => u.text
  | v => v.literal

def kind : Value → String
  | .null => "NoneType"
  | .bool _ => "bool"
  | .int _ => "int"
  | .double _ => "float"
  | .text _ => "str"
  | .bytes _ => "bytes"
  | .date _ => "datetime.date"
  | .stamp _ => "datetime.datetime"
  | .uuid _ => "UUID"
  | .list _ => "list"
  | .record _ => "dict"

end ReactionLedger.Value
