import ReactionLedger.Service.Request
import ReactionLedger.Store.Maintenance
import ReactionLedger.UnitOfWork

/-!
Scenarios: courses of events on one store.  A service call may be contested: rival steps happen just
before its first flush, or just after its first rollback.
-/

set_option autoImplicit false

namespace ReactionLedger

open Service (Request Answer)

namespace Scenario

inductive EndMethod where
  | commit
  | rollback
  | close
deriving DecidableEq

inductive Step where
  | call (session : Option String) (request : Request)
  | contested (session : Option String) (request : Request)
      (beforeFlush afterRollback : List Step) (deadRollback : Bool)
  | settle (session : Option String) (how : EndMethod)
  | unit (body : List Step) (thrown : Option Failure) (failing : List EndMethod)
  | task (task : Task)

inductive Outcome where
  | nothing
  | failed (e : Failure)
  | answered (a : Answer)
  | contested (outcome : Except Failure Answer) (rivals : List Outcome)
  | unit (steps : List Outcome) (ended : Except Failure Unit)
  | task (result : Task.Result)

structure Course (α : Type) where
  outcome : α
  journal : Journal
  world : World

abbrev Steps (α : Type) := World → Course α

structure Contest where
  world : World
  flushed : Bool
  rolledBack : Bool
  rivals : List Outcome

def meet (rival : Steps (List Outcome)) (c : Contest) : Contest × Journal :=
  let r := rival c.world
  ({ c with world := r.world, rivals := c.rivals ++ r.outcome }, r.journal)

def connectionGone : Failure := .runtime "connection already closed"

def contest (s : SessionName) (before after : Steps (List Outcome)) (dead : Bool) :
    Performer Contest
  | .flush, c =>
    let (c, journal) := if c.flushed then (c, []) else meet before { c with flushed := true }
    let (reply, world) := c.world.reply s .flush
    ⟨reply, journal, { c with world }⟩
  | .rollback, c =>
    let (reply, world) := c.world.reply s .rollback
    let c := { c with world }
    let (c, journal) := if c.rolledBack then (c, []) else meet after { c with rolledBack := true }
    ⟨if dead then .error connectionGone else reply, journal, c⟩
  | call, c =>
    let (reply, world) := c.world.reply s call
    ⟨reply, [], { c with world }⟩

def Outcome.ofExcept {α : Type} (f : α → Outcome) : Except Failure α → Outcome
  | .ok a => f a
  | .error e => .failed e

def ended (r : Except Failure Unit × World) : Course Outcome :=
  ⟨.ofExcept (fun () => .nothing) r.1, [], r.2⟩

def settleSession (s : SessionName) (w : World) : EndMethod → Course Outcome
  | .commit => ended (w.commit s)
  | .rollback | .close => ended (w.rollback s)

/-- A method made to fail says so; a commit then does nothing, the others have worked. -/
def ending (s : SessionName) (failing : List EndMethod) : UnitOfWork.Ending World where
  commit w := if .commit ∈ failing then (.error (.runtime "commit failed"), w) else w.commit s
  rollback w :=
    let r := w.rollback s
    if .rollback ∈ failing then (.error (.runtime "rollback failed"), r.2) else r
  close w :=
    let r := w.rollback s
    if .close ∈ failing then (.error (.runtime "close failed"), r.2) else r

def mainSession : SessionName := .named "main"

def sessionOf (unnamed : SessionName) (name : Option String) : SessionName :=
  (name.map SessionName.named).getD unnamed

mutual

def play (depth : Nat) (unnamed : SessionName) : Step → Steps Outcome
  | .call name request, w =>
    let r := request.program.run (World.perform (sessionOf unnamed name)) w
    ⟨.ofExcept .answered r.outcome, r.journal, r.state⟩
  | .contested name request beforeFlush afterRollback dead, w =>
    let before := playAll depth mainSession beforeFlush
    let after := playAll depth mainSession afterRollback
    let r := request.program.run (contest (sessionOf unnamed name) before after dead)
      ⟨w, false, false, []⟩
    ⟨.contested r.outcome r.state.rivals, r.journal, r.state.world⟩
  | .settle name how, w => settleSession (sessionOf unnamed name) w how
  | .unit body thrown failing, w =>
    let s := SessionName.unit depth
    let r := playAll (depth + 1) s body w
    let outcome : Except Failure Unit := match thrown with
      | some e => .error e
      | none => .ok ()
    let (outcome, w) := UnitOfWork.finish (ending s failing) outcome r.world
    ⟨.unit r.outcome outcome, r.journal, w⟩
  | .task t, w =>
    let (result, w) := t.run w
    ⟨.ofExcept .task result, [], w⟩

def playAll (depth : Nat) (unnamed : SessionName) : List Step → Steps (List Outcome)
  | [], w => ⟨[], [], w⟩
  | step :: steps, w =>
    let r := play depth unnamed step w
    let rest := playAll depth unnamed steps r.world
    ⟨r.outcome :: rest.outcome, r.journal ++ rest.journal, rest.world⟩

end

def run (steps : List Step) : List (Outcome × Journal) :=
  let rec go (w : World) : List Step → List (Outcome × Journal)
    | [] => []
    | step :: steps =>
      let r := play 0 mainSession step w
      (r.outcome, r.journal) :: go r.world steps
  go .initial steps

end Scenario

end ReactionLedger
