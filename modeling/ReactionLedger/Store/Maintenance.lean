import ReactionLedger.Store.World

set_option autoImplicit false

namespace ReactionLedger

inductive Task where
  -- replaces the user with this id
  | putUser (id name : Option String)
  | dropUser (id : Option String)
  -- a reaction as the service would store it, with a time of one's choice
  | seed (view comment label author : Option String) (time : Option String)
  | insert (row : Draft)
  | deleteReaction (id : Option Cell)
  | dump
  | setClock (now : Option String)
  | createTables
  | dropTables

namespace Task

inductive Result where
  | nothing
  | count (n : Nat)
  | rows (rows : List StoredReaction)

def missingUser (column : String) : Failure :=
  .store (.integrity .engine ("NOT NULL constraint failed: users." ++ column))

def replaceUser (id name : Option String) (t : Tables) : Except Failure (Tables × Result) :=
  match id, name with
  | some id, some name =>
    .ok ({ t with users := t.users.filter (fun u => u.id != id) ++ [⟨id, name⟩] }, .count 1)
  | none, _ => .error (missingUser "id")
  | _, none => .error (missingUser "name")

def withoutUser (id : Option String) (t : Tables) : Tables × Result :=
  let gone (u : User) : Bool := id == some u.id
  ({ t with users := t.users.filter fun u => !gone u }, .count (t.users.countP gone))

def readId : Option String → Except Failure (Option String)
  | none => .ok none
  | some source =>
    match Uuid.readLenient source with
    | .ok u => .ok (some u.compact)
    | .error f => .error (.value f.message)

-- the offset of the time is dropped
def readTime : Option String → Except Failure Cell
  | none => .error (.type "fromisoformat: argument must be str")
  | some source =>
    match Stamp.read source with
    | .ok s => .ok (.text s.storedText)
    | .error f => .error (.value f.message)

def seedDraft (view comment label author time : Option String) : Except Failure Draft := do
  let view ← readId view
  let comment ← readId comment
  let created ← readTime time
  return ⟨view, comment, label, author, some created⟩

-- an id may be given as the text of a number
def hasNumber (id : Option Cell) (r : StoredReaction) : Bool :=
  id.map Cell.settle == some (.integer r.id)

def tooLarge : Failure := .overflow "Python int too large to convert to SQLite INTEGER"

def isTooLarge : Option Cell → Bool
  | some (.integer n) => !fitsWord n
  | _ => false

def change (w : World) (missing : Failure) (number : Option Cell)
    (f : Tables → Except Failure (Tables × Result)) : Except Failure Result × World :=
  match w.committed with
  | none => (.error missing, w)
  | some t =>
    if isTooLarge number then (.error tooLarge, w)
    else if w.writer.isSome then (.error World.locked, w)
    else
      match f t with
      | .ok (t, result) => (.ok result, { w with committed := some t })
      | .error e => (.error e, w)

def insertion (result : Result) (d : Draft) (w : World) : Except Failure Result × World :=
  change w World.noReactions d.created fun t =>
    (t.insert d).map fun inserted => (inserted.1, result)

def run (w : World) : Task → Except Failure Result × World
  | .putUser id name => change w World.noUsers none (replaceUser id name)
  | .dropUser id => change w World.noUsers none fun t => .ok (withoutUser id t)
  | .seed view comment label author time =>
    match seedDraft view comment label author time with
    | .ok d => insertion .nothing d w
    | .error e => (.error e, w)
  | .insert d => insertion (.count 1) d w
  | .deleteReaction id =>
    change w World.noReactions id fun t =>
      let (t, count) := t.deleteWhere (hasNumber id)
      .ok (t, .count count)
  | .dump =>
    match w.committed with
    | some t => (.ok (.rows t.reactions), w)
    | none => (.error World.noReactions, w)
  | .setClock now => (.ok .nothing, { w with clock := now })
  | .createTables =>
    if w.committed.isSome then (.ok .nothing, w)
    else (.ok .nothing, { w with committed := some .empty })
  | .dropTables =>
    if w.committed.isNone then (.ok .nothing, w)
    else if w.writer.isSome then (.error World.locked, w)
    else (.ok .nothing, { w with committed := none })

end Task

end ReactionLedger
