import ReactionLedger.Proofs.Store.Clock
import ReactionLedger.Service.Job
import ReactionLedger.Store.Directory

/-!
The service as a machine without a store.  It keeps the reactions in the order in which they were
added, each key with the time of its addition, and beside them the directory.  Both are saved by a
commit and restored by a rollback.
-/

set_option autoImplicit false

namespace ReactionLedger.Reference

open Service (Answer Job)

structure Entry where
  view : Uuid
  comment : Uuid
  label : String
  author : String
  created : Stamp
deriving DecidableEq

namespace Entry

def key (e : Entry) : Key := ⟨some e.view, some e.comment, e.label, some e.author⟩

-- without a number, which only the store gives
def reaction (e : Entry) : Reaction := { e.key.reaction with created := .stamp e.created }

end Entry

structure Book where
  entries : List Entry
  users : List User
deriving DecidableEq

namespace Book

def empty : Book := ⟨[], []⟩

def member (b : Book) (user : Option String) : Option String :=
  user.filter fun id => b.users.any fun u => u.id == id

def find? (b : Book) (k : Key) : Option Entry := b.entries.find? fun e => e.key = k

def append (b : Book) (e : Entry) : Book := { b with entries := b.entries ++ [e] }

def erase (b : Book) (k : Key) : Book := { b with entries := b.entries.filter fun e => e.key ≠ k }

def shown (b : Book) (p : Entry → Bool) : List (Entry × User) :=
  (b.entries.filter p).filterMap fun e =>
    (b.users.find? fun u => u.id = e.author).map fun u => (e, u)

end Book

section Listings

variable {κ : Type} [DecidableEq κ]

def earliest? (times : List Moment) : Option Moment :=
  times.find? fun m => times.all fun n => m.instant ≤ n.instant

def group? (key : Entry → κ) (shown : List (Entry × User)) (k : κ) : Option (Group κ) :=
  let part := shown.filter fun x => key x.1 = k
  (earliest? (part.map fun x => x.1.created.moment)).map fun first =>
    ⟨k, first, part.map Prod.snd⟩

def groups (key : Entry → κ) (shown : List (Entry × User)) : List (Group κ) :=
  ((shown.map fun x => key x.1).eraseDups.filterMap (group? key shown)).mergeSort
    fun g h => g.first.instant ≤ h.first.instant

def Book.types (b : Book) (comment : Uuid) : List TypeSummary :=
  (groups Entry.label (b.shown fun e => e.comment = comment)).map fun g =>
    ⟨g.key, g.first, g.users⟩

def Book.comments (b : Book) (view : Uuid) (comment : Option Uuid) : List CommentSummary :=
  (groups (fun e => (e.comment, e.label))
    (b.shown fun e => e.view = view ∧ ∀ c ∈ comment, e.comment = c)).map fun g =>
      ⟨⟨g.key.2, g.first, g.users⟩, g.key.1⟩

end Listings

structure ClockReading where
  text : String
  stamp : Stamp
  shows : Shows text stamp

def ClockReading.ofWhole (d : Date) (t : ClockTime) (whole : t.micro = 0) : ClockReading :=
  ⟨_, _, ClockText.shows_ofReading d t whole⟩

inductive Step where
  | add (view comment : Uuid) (label : String) (user : Option String)
  | remove (view comment : Uuid) (label : String) (user : Option String)
  | listComment (comment : Uuid)
  | listView (view : Uuid) (comment : Option Uuid)
  | commit
  | rollback
  | directory (change : Directory.Change)
  | tick (reading : ClockReading)

inductive Reply where
  | answer (answer : Answer)
  | done

structure Machine where
  current : Book
  saved : Book
  clock : Stamp

namespace Machine

def initial : Machine := ⟨.empty, .empty, ClockText.start⟩

def add (m : Machine) (view comment : Uuid) (label : String) (user : Option String) :
    Except Failure Reaction × Machine :=
  match Label.normalize label with
  | .error fault => (.error (.label fault), m)
  | .ok core =>
    match m.current.member user with
    | none => (.error (.unknownUser user), m)
    | some author =>
      let e : Entry := ⟨view, comment, core, author, m.clock⟩
      match m.current.find? e.key with
      | some before => (.ok before.reaction, m)
      | none => (.ok e.reaction, { m with current := m.current.append e })

def change (m : Machine) : Directory.Change → Except Failure Reply × Machine
  | .enroll user =>
    if (m.current.member (some user.id)).isSome then (.error Directory.taken, m)
    else (.ok .done, { m with current.users := m.current.users ++ [user] })
  | .dismiss id =>
    (.ok .done, { m with current.users := m.current.users.filter fun u => u.id != id })

def step (m : Machine) : Step → Except Failure Reply × Machine
  | .add view comment label user =>
    let (reaction, m) := m.add view comment label user
    (reaction.map fun r => .answer (.reaction r), m)
  | .remove view comment label user =>
    let k : Key := ⟨some view, some comment, Text.trim label, user⟩
    (.ok (.answer (.removed (m.current.find? k).isSome)), { m with current := m.current.erase k })
  | .listComment comment => (.ok (.answer (.types (m.current.types comment))), m)
  | .listView view comment => (.ok (.answer (.comments (m.current.comments view comment))), m)
  | .commit => (.ok .done, { m with saved := m.current })
  | .rollback => (.ok .done, { m with current := m.saved })
  | .directory c => m.change c
  | .tick reading => (.ok .done, { m with clock := reading.stamp })

end Machine

namespace Reply

def unnumbered : Answer → Reply
  | .reaction r => .answer (.reaction { r with id := .null })
  | a => .answer a

end Reply

namespace Step

def serve (s : SessionName) (job : Job) (w : World) : Except Failure Reply × World :=
  let r := job.program.run (World.perform s) w
  (r.outcome.map .unnumbered, r.state)

def run (s : SessionName) (w : World) : Step → Except Failure Reply × World
  | .add view comment label user => serve s (.add (some view) (some comment) label user) w
  | .remove view comment label user => serve s (.remove (some view) (some comment) label user) w
  | .listComment comment => serve s (.listComment (some comment)) w
  | .listView view comment => serve s (.listView (some view) comment) w
  | .commit =>
    let (r, w) := w.commit s
    (r.map fun _ => .done, w)
  | .rollback =>
    let (r, w) := w.rollback s
    (r.map fun _ => .done, w)
  | .directory c =>
    let (r, w) := w.changeDirectory s c
    (r.map fun _ => .done, w)
  | .tick reading => (.ok .done, { w with clock := some reading.text })

end Step

def replies {σ : Type} (step : σ → Step → Except Failure Reply × σ) :
    List Step → σ → List (Except Failure Reply)
  | [], _ => []
  | a :: steps, s => (step s a).1 :: replies step steps (step s a).2

end ReactionLedger.Reference
