import ReactionLedger.Store.World

set_option autoImplicit false

namespace ReactionLedger

namespace Directory

inductive Change where
  | enroll (user : User)
  | dismiss (id : String)

def taken : Failure := .store (.integrity .engine "UNIQUE constraint failed: users.id")

def Change.apply (users : List User) : Change → Except Failure (List User)
  | .enroll user =>
    if users.any fun u => u.id == user.id then .error taken else .ok (users ++ [user])
  | .dismiss id => .ok (users.filter fun u => u.id != id)

end Directory

namespace World

/-- A refused change has taken the write lock all the same. -/
def changeDirectory (w : World) (s : SessionName) (c : Directory.Change) :
    Except Failure Unit × World :=
  match w.tables s noUsers with
  | .error e => (.error e, w)
  | .ok t =>
    if w.mayWrite s then
      match c.apply t.users with
      | .ok users => w.write s { t with users } ()
      | .error e => (.error e, (w.write s t ()).2)
    else (.error locked, w)

end World

end ReactionLedger
