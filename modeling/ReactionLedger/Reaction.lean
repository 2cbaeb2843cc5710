import ReactionLedger.Attribute
import ReactionLedger.Summary

set_option autoImplicit false

namespace ReactionLedger

structure Reaction where
  id : Value
  view : Value
  comment : Value
  label : Value
  author : Value
  created : Value

namespace Column

def id : String := "id"
def view : String := "view_id"
def comment : String := "comment_id"
def label : String := "reaction_type"
def author : String := "created_by"
def created : String := "created_at"

def reaction : List String := [id, view, comment, label, author, created]

def user : List String := [Field.userId, Field.userName]

def carried : List String :=
  ["metadata", "registry", "__tablename__", "__table__", "__mapper__", "_sa_class_manager",
    "_sa_registry", "_is_protocol", "__orig_bases__", "__parameters__", "__class_getitem__",
    "__slots__", Attribute.contents] ++ Attribute.ofClasses

def refusal? (record : String) (names : List String) (given : String × Value) : Option Failure :=
  match Attribute.fault? "DeclarativeBase" given.1 given.2 with
  | some fault => some fault
  | none =>
    if names.contains given.1 || carried.contains given.1 then none
    else
      some (.type (Text.quoted given.1 ++ " is an invalid keyword argument for " ++ record))

def check (record : String) (names : List String) (given : Fields) : Except Failure Unit :=
  match given.findSome? (refusal? record names) with
  | some fault => .error fault
  | none => .ok ()

end Column

namespace Reaction

def fields (r : Reaction) : Fields :=
  [(Column.id, r.id), (Column.view, r.view), (Column.comment, r.comment), (Column.label, r.label),
    (Column.author, r.author), (Column.created, r.created)]

def set (r : Reaction) (given : Fields) : Reaction :=
  let column (name : String) (old : Value) : Value := (given.lookup name).getD old
  { id := column Column.id r.id
    view := column Column.view r.view
    comment := column Column.comment r.comment
    label := column Column.label r.label
    author := column Column.author r.author
    created := column Column.created r.created }

def unset : Reaction := ⟨.null, .null, .null, .null, .null, .null⟩

def ofFields (given : Fields) : Except Failure Reaction := do
  Column.check "Reaction" ("__table_args__" :: Column.reaction) given
  return unset.set given

def display (r : Reaction) : String :=
  "<Reaction(id=" ++ r.id.plain ++ ", comment_id=" ++ r.comment.plain ++
    ", reaction_type='" ++ r.label.plain ++ "', created_by=" ++ r.author.plain ++ ")>"

theorem set_nil (r : Reaction) : r.set [] = r := rfl

end Reaction

def User.display (given : Fields) : Except Failure String := do
  Column.check "User" Column.user given
  let column (name : String) : String := ((given.lookup name).getD .null).plain
  return "<User(id=" ++ column Field.userId ++ ", name='" ++ column Field.userName ++ "')>"

end ReactionLedger
