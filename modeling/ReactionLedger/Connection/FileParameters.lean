import ReactionLedger.Connection.Address
import ReactionLedger.Decimal.Numeral
import ReactionLedger.Text.Lowercase

set_option autoImplicit false

namespace ReactionLedger.FileParameters

inductive Fault where
  | notFile (address : String)
  | notSwitch (word : String)
  | notDecimal (source : String)
  | notNumeral (fault : Text.NumeralFault)
  | severalDecimals
  | severalNumerals
  | severalValues
  | noFile
deriving DecidableEq

def Fault.message : Fault → String
  | .notFile address =>
      "Invalid SQLite URL: " ++ address ++ "\nValid SQLite URL forms are:\n" ++
        " sqlite:///:memory: (or, sqlite://)\n sqlite:///relative/path/to/file.db\n" ++
        " sqlite:////absolute/path/to/file.db"
  | .notSwitch word => "String is not true/false: " ++ Text.quoted word
  | .notDecimal source => "could not convert string to float: " ++ Text.quoted source
  | .notNumeral fault => fault.message
  | .severalDecimals => "float() argument must be a string or a real number, not 'tuple'"
  | .severalNumerals =>
      "int() argument must be a string, a bytes-like object or a real number, not 'tuple'"
  | .severalValues => "quote_from_bytes() expected bytes"
  | .noFile => "unsupported operand type(s) for +=: 'NoneType' and 'str'"

def onWords : List String := ["true", "yes", "on", "y", "t", "1"]

def offWords : List String := ["false", "no", "off", "n", "f", "0"]

def checkSwitch : List String → Except Fault Bool
  | [] => .ok false
  | [source] =>
    let word := String.ofList (Text.lowercase (Text.trim source).toList)
    if word ∈ onWords then .ok true
    else if word ∈ offWords then .ok false
    else .error (.notSwitch word)
  | _ => .ok true

def checkDecimal : List String → Except Fault Unit
  | [] => .ok ()
  | [source] => if Decimal.isNumeral source then .ok () else .error (.notDecimal source)
  | _ => .error .severalDecimals

def checkNumeral : List String → Except Fault Unit
  | [] => .ok ()
  | [source] => ((Text.readNumeral 10 source).map fun _ => ()).mapError .notNumeral
  | _ => .error .severalNumerals

namespace Name

def identifier : String := "uri"
def timeout : String := "timeout"
def isolation : String := "isolation_level"
def detection : String := "detect_types"
def sameThread : String := "check_same_thread"
def statements : String := "cached_statements"

def all : List String := [identifier, timeout, isolation, detection, sameThread, statements]

end Name

def isGiven (part : Option String) : Bool := part.any (!·.isEmpty)

def namesServer (a : Address) : Bool :=
  isGiven a.user || isGiven a.password || isGiven a.host || a.listensAt.any (· != 0)

def check (a : Address) : Except Fault Unit := do
  if namesServer a then throw (.notFile a.display)
  let isIdentifier ← checkSwitch (a.options.given Name.identifier)
  checkDecimal (a.options.given Name.timeout)
  checkNumeral (a.options.given Name.detection)
  let _ ← checkSwitch (a.options.given Name.sameThread)
  checkNumeral (a.options.given Name.statements)
  let others := a.options.filter fun o => o.1 ∉ Name.all
  if isIdentifier && !others.isEmpty then
    if others.any fun o => o.2.length > 1 then throw .severalValues
    if a.database.isNone then throw .noFile

end ReactionLedger.FileParameters
