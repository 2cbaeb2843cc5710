import ReactionLedger.Proofs.Listing.Answers

set_option autoImplicit false

namespace ReactionLedger

theorem CommentSummary.group_injective : Function.Injective CommentSummary.group := by
  rintro ⟨⟨label, first, users⟩, comment⟩ ⟨⟨label', first', users'⟩, comment'⟩ same
  simp only [group, Group.mk.injEq, Prod.mk.injEq] at same
  obtain ⟨⟨rfl, rfl⟩, rfl, rfl⟩ := same
  rfl

namespace Tables

structure Joins (t : Tables) (l : Listing) (r : StoredReaction) : Prop where
  stored : r ∈ t.reactions
  covered : l.Covers r
  known : ∃ u ∈ t.users, u.id = r.author

variable {t : Tables}

end Tables

namespace StoredReaction

end StoredReaction

namespace Listing

open Program (result)

section Views

variable {s : SessionName} {w : World} {t : Tables} {view : Uuid} {comment : Option Uuid}

section Pairs

variable {c : Uuid} {xs : List Shown}
variable (pairs : xs.map Shown.pair = t.pairs (ofView view none).conditions)
include pairs

end Pairs

def viewed (s : SessionName) (w : World) (view : Uuid) (comment : Option Uuid) :
    Except Failure (List CommentSummary) :=
  (result (World.perform s) w (Service.listView (some view) comment)).1

theorem answer_ofView : (ofView view comment).answer s w =
    (viewed s w view comment).map (List.map CommentSummary.group) :=
  congrArg Prod.fst (Program.result_bind_pure _ _ _ _)

end Views

namespace Paired

def view : Uuid := .ofNat 1

def first : Uuid := .ofNat 2

def second : Uuid := .ofNat 3

def reaction (id : Nat) (comment : Uuid) (label author : String) : StoredReaction :=
  ⟨id, view.compact, comment.compact, label, author, .text "2024-05-01 12:00:00"⟩

def tables : Tables where
  reactions := [reaction 1 first "love" "ann", reaction 2 second "like" "ben",
    reaction 3 first "like" "ben", reaction 4 second "love" "ann"]
  users := [⟨"ann", "Ann"⟩, ⟨"ben", "Ben"⟩]

def world : World := { World.initial with committed := some tables }

def outline (x : CommentSummary) : Uuid × String := (x.comment, x.label)

end Paired

namespace Foreign

def view : Uuid := .ofNat 1

def comment : Uuid := .ofNat 0xc1

def other : Uuid := .ofNat 0xc2

def capital : World := { World.initial with committed := some {
  reactions := [⟨1, view.compact, "000000000000000000000000000000C1", "like", "ann",
    .text "2024-05-01 12:00:00"⟩]
  users := [⟨"ann", "Ann"⟩] } }

def numbered : StoredReaction :=
  ⟨1, view.compact, other.compact, "like", "ann", .integer 1714564800⟩

def soon : StoredReaction := ⟨2, view.compact, comment.compact, "like", "ann", .text "soon"⟩

def numeric : World :=
  { World.initial with committed := some ⟨[numbered, soon], [⟨"ann", "Ann"⟩]⟩ }

end Foreign

end Listing

end ReactionLedger
