import ReactionLedger.Text.Blank

set_option autoImplicit false

namespace ReactionLedger.EnvFile

open Text

abbrev Chars := List Char

def isNewline (c : Char) : Bool := c == '\n' || c == '\r'

def isInlineBlank (c : Char) : Bool := isBlank c && !isNewline c

def unifyLines : Chars → Chars
  | '\r' :: '\n' :: cs => '\n' :: unifyLines cs
  | c :: cs => (if c == '\r' then '\n' else c) :: unifyLines cs
  | [] => []

def skipInline (cs : Chars) : Chars := cs.dropWhile isInlineBlank

def dropLine (cs : Chars) : Chars := (cs.dropWhile (!isNewline ·)).drop 1

def dropExport (cs : Chars) : Chars :=
  let word := "export".toList
  let rest := cs.drop word.length
  if word.isPrefixOf cs && rest.head?.any isInlineBlank then skipInline rest else cs

def closeQuote (q : Char) : Chars → Option (Chars × Chars)
  | [] => none
  | '\\' :: c :: cs =>
    if c == '\n' then none
    else (closeQuote q cs).map fun (value, rest) => ('\\' :: c :: value, rest)
  | c :: cs =>
    if c == q then some ([], cs)
    else if c == '\\' then none
    else (closeQuote q cs).map fun (value, rest) => (c :: value, rest)

def unescape (meaning : Char → Option Char) : Chars → Chars
  | [] => []
  | [c] => [c]
  | c :: d :: cs =>
    match if c == '\\' then meaning d else none with
    | some e => e :: unescape meaning cs
    | none => c :: unescape meaning (d :: cs)

def plainEscape (c : Char) : Option Char := if c == '\\' || c == '\'' then some c else none

def fullEscape : Char → Option Char
  | '\\' => some '\\'
  | '\'' => some '\''
  | '"' => some '"'
  | 'a' => some '\x07'
  | 'b' => some '\x08'
  | 'f' => some '\x0c'
  | 'n' => some '\n'
  | 'r' => some '\r'
  | 't' => some '\t'
  | 'v' => some '\x0b'
  | _ => none

def cutComment : Chars → Chars
  | [] => []
  | c :: cs =>
    if isBlank c && ((c :: cs).dropWhile isBlank).head? == some '#' then []
    else c :: cutComment cs

def readName : Chars → Option (Option Chars × Chars)
  | [] => none
  | '#' :: cs => some (none, '#' :: cs)
  | '\'' :: cs =>
    let name := cs.takeWhile (· != '\'')
    match name, cs.dropWhile (· != '\'') with
    | _ :: _, _ :: rest => some (some name, rest)
    | _, _ => none
  | cs =>
    let inName (c : Char) : Bool := !(c == '=' || c == '#' || isBlank c)
    let name := cs.takeWhile inName
    if name.isEmpty then none else some (some name, cs.dropWhile inName)

def readValue (blanks : Bool) : Chars → Option (Chars × Chars)
  | '\'' :: cs => (closeQuote '\'' cs).map fun (v, rest) => (unescape plainEscape v, rest)
  | '"' :: cs => (closeQuote '"' cs).map fun (v, rest) => (unescape fullEscape v, rest)
  | cs =>
    let line := cs.takeWhile (!isNewline ·)
    let value := if blanks && line.head? == some '#' then [] else cutComment line
    some (trimEnd isBlank value, cs.dropWhile (!isNewline ·))

-- a comment may stand at the end of a line, nothing else
def endLine (cs : Chars) : Option Chars :=
  let cs := skipInline cs
  let cs := if cs.head? == some '#' then cs.dropWhile (!isNewline ·) else cs
  match cs with
  | [] => some []
  | c :: rest => if isNewline c then some rest else none

abbrev Binding := String × Option String

def readBinding (cs : Chars) : Except Chars (Option Binding × Chars) :=
  let cs := dropExport cs
  match readName cs with
  | none => .error cs
  | some (name, cs) =>
    let cs := skipInline cs
    let value : Except Chars (Option Chars × Chars) := match cs with
      | '=' :: cs =>
        match readValue (cs.head?.any isInlineBlank) (skipInline cs) with
        | some (v, rest) => .ok (some v, rest)
        | none => .error (skipInline cs)
      | cs => .ok (none, cs)
    match value with
    | .error cs => .error cs
    | .ok (value, cs) =>
      match endLine cs with
      | none => .error cs
      | some rest =>
        .ok (name.map fun n => (String.ofList n, value.map String.ofList), rest)

-- every binding and every faulty line takes at least one character
def readBindings : (fuel : Nat) → Chars → List Binding
  | 0, _ => []
  | f + 1, cs =>
    match cs.dropWhile isBlank with
    | [] => []
    | cs =>
      match readBinding cs with
      | .ok (some binding, rest) => binding :: readBindings f rest
      | .ok (none, rest) => readBindings f rest
      | .error rest => readBindings f (dropLine rest)

def bindings (source : String) : List Binding :=
  let cs := unifyLines source.toList
  readBindings cs.length cs

def reference? : Chars → Option ((Chars × Chars) × Chars)
  | '$' :: '\x7b' :: cs =>
    let name := cs.takeWhile fun c => c != '\x7d' && c != ':'
    match cs.dropWhile fun c => c != '\x7d' && c != ':' with
    | '\x7d' :: rest => some ((name, []), rest)
    | ':' :: '-' :: cs =>
      match cs.dropWhile (· != '\x7d') with
      | _ :: rest => some ((name, cs.takeWhile (· != '\x7d')), rest)
      | [] => none
    | _ => none
  | _ => none

def expand (meaning : String → String → String) : (fuel : Nat) → Chars → String
  | 0, _ => ""
  | _, [] => ""
  | f + 1, c :: cs =>
    match reference? (c :: cs) with
    | some ((name, default), rest) =>
      meaning (String.ofList name) (String.ofList default) ++ expand meaning f rest
    | none => String.singleton c ++ expand meaning f cs

def meaningIn (env : List (String × String)) (above : List Binding) (name default : String) :
    String :=
  match above.lookup name with
  | some value => value.getD ""
  | none => (env.lookup name).getD default

def read (env : List (String × String)) (source : String) : List Binding :=
  (bindings source).foldl (fun above (name, value) =>
    (name, value.map fun v => expand (meaningIn env above) v.length v.toList) :: above) []

end ReactionLedger.EnvFile
