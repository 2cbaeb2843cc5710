set_option autoImplicit false

namespace ReactionLedger

inductive Place where
  | field (name : String)
  | index (n : Nat)
deriving DecidableEq

inductive Objection where
  | missing
  | notText
  | notUnicode
  | notList
  | notRecord (name : String)
  | notStamp
  | badStamp (detail : String)
  | badDate (detail : String)
  | noOffset
  | notUuid
  | badUuid (detail : String)
  | frozen
  | notBoolean
  | notInteger
  | integerTooLong
  | notPositive
  | refused (detail : String)
deriving DecidableEq

namespace Objection

def code : Objection → String
  | .missing => "missing"
  | .notText => "string_type"
  | .notUnicode => "string_unicode"
  | .notList => "list_type"
  | .notRecord _ => "model_type"
  | .notStamp => "datetime_type"
  | .badStamp _ => "datetime_parsing"
  | .badDate _ => "datetime_from_date_parsing"
  | .noOffset => "timezone_aware"
  | .notUuid => "uuid_type"
  | .badUuid _ => "uuid_parsing"
  | .frozen => "frozen_instance"
  | .notBoolean => "bool_parsing"
  | .notInteger => "int_parsing"
  | .integerTooLong => "int_parsing_size"
  | .notPositive => "greater_than"
  | .refused _ => "value_error"

def message : Objection → String
  | .missing => "Field required"
  | .notText => "Input should be a valid string"
  | .notUnicode => "Input should be a valid string, unable to parse raw data as a unicode string"
  | .notList => "Input should be a valid list"
  | .notRecord name => "Input should be a valid dictionary or instance of " ++ name
  | .notStamp => "Input should be a valid datetime"
  | .badStamp detail => "Input should be a valid datetime, " ++ detail
  | .badDate detail => "Input should be a valid datetime or date, " ++ detail
  | .noOffset => "Input should have timezone info"
  | .notUuid => "UUID input should be a string, bytes or UUID object"
  | .badUuid detail => "Input should be a valid UUID, " ++ detail
  | .frozen => "Instance is frozen"
  | .notBoolean => "Input should be a valid boolean, unable to interpret input"
  | .notInteger => "Input should be a valid integer, unable to parse string as an integer"
  | .integerTooLong =>
      "Unable to parse input string as an integer, exceeded maximum size"
  | .notPositive => "Input should be greater than 0"
  | .refused detail => "Value error, " ++ detail

end Objection

structure Complaint where
  place : List Place
  objection : Objection
deriving DecidableEq

namespace Complaint

def under (p : Place) (c : Complaint) : Complaint := { c with place := p :: c.place }

def about {α : Type} (name : String) : Except Objection α → Except (List Complaint) α
  | .ok a => .ok a
  | .error o => .error [⟨[.field name], o⟩]

def listOf {α : Type} : Except (List Complaint) α → List Complaint
  | .ok _ => []
  | .error cs => cs

end Complaint

end ReactionLedger
