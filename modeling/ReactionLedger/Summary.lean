import ReactionLedger.Row

set_option autoImplicit false

namespace ReactionLedger

structure TypeSummary where
  label : String
  first : Moment
  users : List User
deriving DecidableEq

structure CommentSummary extends TypeSummary where
  comment : Uuid
deriving DecidableEq

namespace Field

def userId : String := "id"
def userName : String := "name"
def label : String := "reaction_type"
def first : String := "first_reaction_at"
def users : String := "users"
def comment : String := "comment_id"

end Field

abbrev Fields := List (String × Value)

def User.fields (u : User) : Fields := [(Field.userId, .text u.id), (Field.userName, .text u.name)]

def TypeSummary.fields (s : TypeSummary) : Fields :=
  [(Field.label, .text s.label), (Field.first, .stamp s.first.stamp),
    (Field.users, .list (s.users.map fun u => .record u.fields))]

def CommentSummary.fields (s : CommentSummary) : Fields :=
  s.toTypeSummary.fields ++ [(Field.comment, .uuid s.comment)]

end ReactionLedger
