import ReactionLedger.Label
import ReactionLedger.Reaction

set_option autoImplicit false

namespace ReactionLedger

inductive ColumnType where
  | integer
  | uuid
  | string (length : Option Nat)
  | dateTime
deriving DecidableEq

namespace ColumnType

def name : ColumnType → String
  | .integer => "Integer"
  | .uuid => "Uuid"
  | .string _ => "String"
  | .dateTime => "DateTime"

def length : ColumnType → Option Nat
  | .string n => n
  | _ => none

end ColumnType

structure ColumnDeclaration where
  name : String
  type : ColumnType
  isKey : Bool := false
  hasDefault : Bool := false
  comment : Option String := none

structure TableDeclaration where
  name : String
  comment : Option String
  columns : List ColumnDeclaration
  indexes : List (String × List String)
  unique : List (String × List String)

def reactionTable : TableDeclaration where
  name := "reactions"
  comment := some "Comment reactions - one row per user reaction"
  columns := [
    { name := Column.id, type := .integer, isKey := true },
    { name := Column.view, type := .uuid, comment := some "Published view the comment belongs to" },
    { name := Column.comment, type := .uuid, comment := some "Comment that was reacted to" },
    { name := Column.label, type := .string (some Label.maxLength)
      comment := some "Free-form reaction label, e.g. an emoji" },
    { name := Column.author, type := .string none
      comment := some "User directory ID of the reacting user" },
    { name := Column.created, type := .dateTime, hasDefault := true
      comment := some "Timestamp when the reaction was added" }]
  indexes := [
    ("ix_reactions_comment_id", [Column.comment]),
    ("ix_reactions_view_comment", [Column.view, Column.comment])]
  unique := [
    ("uq_reactions_view_comment_type_user",
      [Column.view, Column.comment, Column.label, Column.author])]

def userTable : TableDeclaration where
  name := "users"
  comment := none
  columns := [
    { name := Field.userId, type := .string none, isKey := true },
    { name := Field.userName, type := .string none }]
  indexes := []
  unique := []

end ReactionLedger
