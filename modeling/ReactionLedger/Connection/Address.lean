import ReactionLedger.Text.Numeral
import ReactionLedger.Text.Percent
import ReactionLedger.Text.Word

set_option autoImplicit false

namespace ReactionLedger

abbrev Options := List (String × List String)

namespace Options

def given (options : Options) (name : String) : List String := (options.lookup name).getD []

def add : Options → String → String → Options
  | [], name, v => [(name, [v])]
  | (n, vs) :: options, name, v =>
    if n = name then (n, vs ++ [v]) :: options else (n, vs) :: add options name v

-- an option without a value is passed over
def readOne (part : List Char) : Option (String × String) :=
  match part.dropWhile (· != '=') with
  | _ :: v :: vs =>
    some (String.ofList (Text.Percent.decodeQuery (part.takeWhile (· != '='))),
      String.ofList (Text.Percent.decodeQuery (v :: vs)))
  | _ => none

def read (cs : List Char) : Options :=
  (cs.splitOn '&').foldl (fun options part =>
    match readOne part with
    | some (name, v) => options.add name v
    | none => options) []

theorem given_nil (name : String) : given [] name = [] := rfl

theorem given_add (options : Options) (name v : String) :
    (options.add name v).given name = options.given name ++ [v] := by
  induction options with
  | nil => simp [add, given]
  | cons option options ih =>
    obtain ⟨n, vs⟩ := option
    by_cases h : n = name
    · simp [add, given, h]
    · have other : (name == n) = false := by simpa using fun e => h e.symm
      simp only [given] at ih
      simp [add, given, h, List.lookup_cons, other, ih]

end Options

structure Address where
  driver : String
  user : Option String
  password : Option String
  host : Option String
  listensAt : Option Int
  database : Option String
  options : Options
deriving DecidableEq

namespace Address

inductive Fault where
  | malformed
  | number (fault : Text.NumeralFault)
deriving DecidableEq

def Fault.message : Fault → String
  | .malformed => "Could not parse SQLAlchemy URL from given URL string"
  | .number fault => fault.message

def isDriverChar (c : Char) : Bool := Text.isWord c || c == '+'

def scheme? (cs : List Char) : Option (List Char × List Char) :=
  let name := cs.takeWhile isDriverChar
  match name, cs.dropWhile isDriverChar with
  | _ :: _, ':' :: '/' :: '/' :: rest => some (name, rest)
  | _, _ => none

-- what stands before and after the last such sign
def splitLast (sign : Char) (part : List Char) : Option (List Char × List Char) :=
  if part.contains sign then
    let after := part.reverse.takeWhile (· != sign)
    some (part.take (part.length - after.length - 1), after.reverse)
  else none

def readUser (cs : List Char) : Option (List Char) × Option (List Char) × List Char :=
  let isUserChar (c : Char) : Bool := c != ':' && c != '/'
  let user := cs.takeWhile isUserChar
  let rest := cs.dropWhile isUserChar
  let password? : Option (List Char × List Char) :=
    match rest with
    | ':' :: rest =>
      match rest.dropWhile (· != '@') with
      | _ :: after => some (rest.takeWhile (· != '@'), after)
      | [] => none
    | _ => none
  match password?, splitLast '@' user with
  | some (password, rest), _ => (some user, some password, rest)
  | none, some (user, host) => (some user, none, host ++ rest)
  | none, none => (none, none, cs)

-- in brackets a host may hold colons
def readHost (cs : List Char) : Option (List Char) × List Char :=
  let bracketed : Option (List Char × List Char) :=
    match cs with
    | '[' :: c :: inner =>
      let isInner (c : Char) : Bool := c != '/' && c != '?'
      if isInner c then
        (splitLast ']' (inner.takeWhile isInner)).map fun (host, rest) =>
          (c :: host, rest ++ inner.dropWhile isInner)
      else none
    | _ => none
  match bracketed with
  | some (host, rest) => (some host, rest)
  | none =>
    let isHostChar (c : Char) : Bool := c != '/' && c != ':' && c != '?'
    let host := cs.takeWhile isHostChar
    (if host.isEmpty then none else some host, cs.dropWhile isHostChar)

def readNumber : List Char → Except Fault (Option Int) × List Char
  | ':' :: cs =>
    let isDigitChar (c : Char) : Bool := c != '/' && c != '?'
    (((Text.readNumeral 10 (String.ofList (cs.takeWhile isDigitChar))).map some).mapError .number,
      cs.dropWhile isDigitChar)
  | cs => (.ok none, cs)

def readDatabase : List Char → Option (List Char) × List Char
  | '/' :: cs => (some (cs.takeWhile (· != '?')), cs.dropWhile (· != '?'))
  | cs => (none, cs)

-- options end with the line
def readOptions : List Char → Options
  | '?' :: cs => Options.read (cs.takeWhile (· != '\n'))
  | _ => []

def decoded (part : List Char) : String := String.ofList (Text.Percent.decode part)

def read (source : String) : Except Fault Address :=
  match scheme? source.toList with
  | none => .error .malformed
  | some (driver, rest) =>
    let (user, password, rest) := readUser rest
    let (host, rest) := readHost rest
    let (number, rest) := readNumber rest
    let (database, rest) := readDatabase rest
    number.map fun listensAt =>
      { driver := String.ofList driver
        user := user.map decoded
        password := password.map decoded
        host := host.map String.ofList
        listensAt
        database := database.map decoded
        options := readOptions rest }

def display (a : Address) : String :=
  let encoded (safe : List Char) (part : String) : String :=
    String.ofList (Text.Percent.encode safe part.toList)
  let query (part : String) : String := String.ofList (Text.Percent.encodeQuery part.toList)
  let user := match a.user with
    | some user => encoded [' ', '+'] user ++ (if a.password.isSome then ":***" else "") ++ "@"
    | none => ""
  let host := match a.host with
    | some host => if host.contains ':' then "[" ++ host ++ "]" else host
    | none => ""
  let number := (a.listensAt.map fun n => ":" ++ toString n).getD ""
  let database := (a.database.map fun d => "/" ++ encoded [' ', '+', '/'] d).getD ""
  let options := (a.options.mergeSort fun p q => !decide (q.1 < p.1)).flatMap fun (name, vs) =>
    vs.map fun v => query name ++ "=" ++ query v
  a.driver ++ "://" ++ user ++ host ++ number ++ database ++
    (if options.isEmpty then "" else "?" ++ String.intercalate "&" options)

end Address

end ReactionLedger
