import ReactionLedger.Session.Program
import ReactionLedger.Store.Tables

/-!
A store and the sessions on it.  A session's first write takes the only write lock and makes it the
writer: its tables are its own until it commits, rolls back or closes.  Every other session sees the
committed tables, and its writes fail at once.  A session whose flush failed has lost its work and
takes no calls until it is rolled back.
-/

set_option autoImplicit false

namespace ReactionLedger

inductive SessionName where
  | named (name : String)
  -- the session of a unit of work, by how many units it lies within
  | unit (depth : Nat)
deriving DecidableEq

structure World where
  -- none while the tables do not exist
  committed : Option Tables
  writer : Option (SessionName × Tables)
  -- reactions that were added and not yet flushed
  pending : SessionName → List Key
  -- the failure of a flush that was not rolled back yet
  failed : SessionName → Option Failure
  -- the time given to new reactions
  clock : Option String

namespace World

def initial : World := ⟨some .empty, none, fun _ => [], fun _ => none, some "2024-05-01 12:00:00"⟩

def broken (text : String) : Failure := .store (.operational .engine text)

def locked : Failure := broken "database is locked"

def noReactions : Failure := broken "no such table: reactions"

def noUsers : Failure := broken "no such table: users"

def view (w : World) (s : SessionName) : Option Tables :=
  match w.writer with
  | some (t, tables) => if t = s then some tables else w.committed
  | none => w.committed

-- where a failure is described that says nothing about it itself
def note (e : Failure) : String :=
  if e.isStore then ""
  else " (Background on this error at: https:" ++ "//sqlalche.me/e/21/7s2a)"

def inactive (e : Failure) : Failure := .store (.inactive (e.message ++ note e))

def tables (w : World) (s : SessionName) (missing : Failure) : Except Failure Tables :=
  match w.failed s, w.view s with
  | some e, _ => .error (inactive e)
  | none, some t => .ok t
  | none, none => .error missing

def mayWrite (w : World) (s : SessionName) : Bool :=
  match w.writer with
  | some (t, _) => t = s
  | none => true

def setPending (w : World) (s : SessionName) (keys : List Key) : World :=
  { w with pending := fun t => if t = s then keys else w.pending t }

def setFailed (w : World) (s : SessionName) (e : Option Failure) : World :=
  { w with failed := fun t => if t = s then e else w.failed t }

def discard (w : World) (s : SessionName) : World :=
  let w := (w.setPending s []).setFailed s none
  if w.writer.any fun writer => writer.1 = s then { w with writer := none } else w

def write {α : Type} (w : World) (s : SessionName) (t : Tables) (a : α) :
    Except Failure α × World :=
  (.ok a, { w with writer := some (s, t) })

-- an insertion reads back the time that the store has set
def insertOne (clock : Option String) (t : Tables) (k : Key) : Except Failure Tables := do
  let (t, row) ← t.insert (k.draft clock)
  let _ ← StoredReaction.readTime row.created
  return t

def insertAll (clock : Option String) (t : Tables) (keys : List Key) : Except Failure Tables :=
  keys.foldlM (insertOne clock) t

def failFlush (w : World) (s : SessionName) (e : Failure) : Except Failure Unit × World :=
  (.error e, (w.discard s).setFailed s (some e))

/-- Stores what is pending.  A failure costs the session all its uncommitted work. -/
def flush (w : World) (s : SessionName) : Except Failure Unit × World :=
  if (w.pending s).isEmpty then (.ok (), w)
  else
    match w.failed s, w.view s with
    | some e, _ => (.error (inactive e), w)
    | none, none => w.failFlush s noReactions
    | none, some t =>
      if w.mayWrite s then
        match insertAll w.clock t (w.pending s) with
        | .ok t => (w.setPending s []).write s t ()
        | .error e => w.failFlush s e
      else w.failFlush s locked

def delete (w : World) (s : SessionName) (k : Key) : Except Failure Int × World :=
  match w.tables s noReactions with
  | .error e => (.error e, w)
  | .ok t =>
    if w.mayWrite s then
      let (t, count) := t.deleteWhere (StoredReaction.hasKey k)
      w.write s t (count : Int)
    else (.error locked, w)

-- a reaction that is gone again cannot be read back
def notStored : Failure := .store (.badRequest "Could not refresh instance")

def refresh (w : World) (s : SessionName) (k : Key) : Except Failure Reaction := do
  let t ← w.tables s noReactions
  match ← t.find k with
  | some r => return r
  | none => throw notStored

def reply (w : World) (s : SessionName) : (c : Call) → Except Failure c.Reply × World
  | .userKnown user => ((w.tables s noUsers).map fun t => t.knows user, w)
  | .findReaction k => ((w.tables s noReactions).bind fun t => t.find k, w)
  | .joinedRows conditions => ((w.tables s noReactions).bind fun t => t.joined conditions, w)
  | .deleteReaction k => w.delete s k
  | .add k => (.ok (), w.setPending s (w.pending s ++ [k]))
  | .flush => w.flush s
  | .refresh k => (w.refresh s k, w)
  | .rollback => (.ok (), w.discard s)

def perform (s : SessionName) : Performer World := fun c w =>
  let (reply, w) := w.reply s c
  ⟨reply, [], w⟩

def publish (w : World) (s : SessionName) : World :=
  match w.writer with
  | some (t, tables) =>
    if t = s then { w with committed := some tables, writer := none } else w
  | none => w

def commit (w : World) (s : SessionName) : Except Failure Unit × World :=
  match w.failed s with
  | some e => (.error (inactive e), w)
  | none =>
    match w.flush s with
    | (.ok (), w) => (.ok (), w.publish s)
    | (.error e, w) => (.error e, w)

def rollback (w : World) (s : SessionName) : Except Failure Unit × World := (.ok (), w.discard s)

end World

end ReactionLedger
