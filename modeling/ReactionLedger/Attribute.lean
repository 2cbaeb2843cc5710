import ReactionLedger.Failure
import ReactionLedger.Value.Text

set_option autoImplicit false

namespace ReactionLedger

namespace Attribute

def objectClass : String := "__class__"
def contents : String := "__dict__"
def weakReference : String := "__weakref__"

def fault? (owner name : String) (v : Value) : Option Failure :=
  if name = objectClass then
    some (.type (name ++ " must be set to a class, not '" ++ v.kind ++ "' object"))
  else if name = contents then
    match v with
    | .record _ => none
    | _ => some (.type (name ++ " must be set to a dictionary, not a '" ++ v.kind ++ "'"))
  else if name = weakReference then
    some (.attribute ("attribute '" ++ name ++ "' of '" ++ owner ++ "' objects is not writable"))
  else none

def readOnly (owner name : String) : Failure :=
  .attribute ("property '" ++ name ++ "' of '" ++ owner ++ "' object has no setter")

def ofClasses : List String :=
  ["__annotations__", "__base__", "__bases__", "__basicsize__", "__call__", "__delattr__",
    "__dictoffset__", "__dir__", "__doc__", "__eq__", "__flags__", "__format__", "__ge__",
    "__getattribute__", "__getstate__", "__gt__", "__hash__", "__init__", "__init_subclass__",
    "__instancecheck__", "__itemsize__", "__le__", "__lt__", "__module__", "__mro__", "__name__",
    "__ne__", "__new__", "__or__", "__prepare__", "__qualname__", "__reduce__", "__reduce_ex__",
    "__repr__", "__ror__", "__setattr__", "__sizeof__", "__str__", "__subclasscheck__",
    "__subclasses__", "__subclasshook__", "__text_signature__", "__weakrefoffset__", "mro"]

end Attribute

end ReactionLedger
