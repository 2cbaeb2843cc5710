import ReactionLedger.Text.Blank

set_option autoImplicit false

namespace ReactionLedger

inductive LogLevel where
  | debug
  | info
  | warning
  | error
  | critical
deriving DecidableEq

namespace LogLevel

def name : LogLevel → String
  | .debug => "DEBUG"
  | .info => "INFO"
  | .warning => "WARNING"
  | .error => "ERROR"
  | .critical => "CRITICAL"

def number : LogLevel → Int
  | .debug => 10
  | .info => 20
  | .warning => 30
  | .error => 40
  | .critical => 50

def all : List LogLevel := [.debug, .info, .warning, .error, .critical]

-- besides ASCII letters, two others have an ASCII letter as their capital
def capital (c : Char) : Char :=
  if c == 'ı' then 'I' else if c == 'ſ' then 'S' else c.toUpper

def read (source : String) : Option LogLevel :=
  let name := ((Text.trim source).toList.map capital)
  all.find? fun l => l.name.toList == name

theorem read_name (l : LogLevel) : read l.name = some l := by
  cases l <;> decide +kernel

end LogLevel

end ReactionLedger
