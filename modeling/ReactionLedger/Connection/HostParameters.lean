import ReactionLedger.Connection.Address
import ReactionLedger.Value.Text

set_option autoImplicit false

namespace ReactionLedger.HostParameters

inductive Fault where
  | mixed
  | manyParts
  | notNumbers (given : List (Option String))
  | uneven
  | missingHost
  | missingNumber
  | notNumeral (fault : Text.NumeralFault)
  | severalNumerals
deriving DecidableEq

def Fault.message : Fault → String
  | .mixed =>
      "Can't mix 'multihost' formats together; use \"host=h1,h2,h3&port=p1,p2,p3\" or " ++
        "\"host=h1:p1&host=h2:p2&host=h3:p3\" separately"
  | .manyParts => "too many values to unpack (expected 2)"
  | .notNumbers given =>
      "Received non-integer port arguments: " ++
        Value.tupleLiteral (given.map (Value.ofOption .text))
  | .uneven => "number of hosts and ports don't match"
  | .missingHost => "All hosts are required to be present for asyncpg multiple host URL"
  | .missingNumber => "All ports are required to be present for asyncpg multiple host URL"
  | .notNumeral fault => fault.message
  | .severalNumerals =>
      "int() argument must be a string, a bytes-like object or a real number, not 'tuple'"

namespace Name

def host : String := "host"
def number : String := "port"
def cacheSize : String := "prepared_statement_cache_size"

end Name

structure Given where
  hosts : Option (List String)
  numbers : Option (List (Option String))

def ofPairs (pairs : List String) : Except Fault Given :=
  let parts := pairs.map fun pair => pair.splitOn ":"
  if parts.all fun p => p.length > 2 then .error .manyParts
  else .ok ⟨some (parts.map fun p => p.headD ""), some (parts.map fun p => p[1]?)⟩

def isHostChar (c : Char) : Bool := c.isAlphanum || c == '-' || c == '.'

-- a single host may carry its number
def ofHost (source : String) : Given :=
  let cs := source.toList
  match cs.dropWhile isHostChar with
  | ':' :: digits =>
    if digits.all fun c => (Text.decimal? c).isSome then
      ⟨some [String.ofList (cs.takeWhile isHostChar)],
        some [if digits.isEmpty then none else some (String.ofList digits)]⟩
    else ⟨some [source], none⟩
  | _ => ⟨some [source], none⟩

def gather (options : Options) : Except Fault Given := do
  let numbers := options.given Name.number
  let listed : Option (List (Option String)) := match numbers with
    | [] => none
    | [one] => some ((one.splitOn ",").map some)
    | several => some (several.map some)
  match options.given Name.host with
  | [] => return ⟨none, listed⟩
  | [one] =>
    match one.splitOn ",", listed with
    | [single], none => return ofHost single
    | hosts, _ => return ⟨some hosts, listed⟩
  | several =>
    let given ← ofPairs several
    if listed.isSome then throw .mixed
    return given

-- a number that is left out is none
def readNumber : Option String → Except Text.NumeralFault (Option Int)
  | none => .ok none
  | some source => if source.isEmpty then .ok none else (Text.readNumeral 10 source).map some

def readNumbers (given : List (Option String)) : Except Fault (List (Option Int)) :=
  (given.mapM readNumber).mapError fun _ => .notNumbers given

def areUneven (hosts : Option (List String)) (numbers : List (Option Int)) : Bool :=
  match hosts with
  | none => numbers.length > 1
  | some hosts => hosts.length != numbers.length && (hosts.length > 1 || numbers.length > 1)

def checkCacheSize : List String → Except Fault Unit
  | [] => .ok ()
  | [source] => ((Text.readNumeral 10 source).map fun _ => ()).mapError .notNumeral
  | _ => .error .severalNumerals

def check (a : Address) : Except Fault Unit := do
  let given ← gather a.options
  let numbers ← readNumbers (given.numbers.getD [])
  if !numbers.isEmpty && areUneven given.hosts numbers then throw .uneven
  let hosts := given.hosts.getD []
  if hosts.length > 1 then
    if hosts.any (·.isEmpty) then throw .missingHost
    if numbers.isEmpty || numbers.any fun n => n.getD 0 == 0 then throw .missingNumber
  checkCacheSize (a.options.given Name.cacheSize)

end ReactionLedger.HostParameters
