import ReactionLedger.Logging.Level

set_option autoImplicit false

namespace ReactionLedger

structure Entry where
  level : LogLevel
  text : String
deriving DecidableEq

abbrev Journal := List Entry

end ReactionLedger
