import ReactionLedger.Store.Directory
import ReactionLedger.Store.Scenario

set_option autoImplicit false

namespace ReactionLedger

open Service (Answer Job)
open Scenario (EndMethod)

inductive Move where
  | call (s : SessionName) (c : Call)
  | directory (s : SessionName) (change : Directory.Change)
  | settle (s : SessionName) (how : EndMethod)
  -- done by the store's owner
  | task (task : Task)

namespace Move

def play : Move → World → World
  | .call s c, w => (w.reply s c).2
  | .directory s change, w => (w.changeDirectory s change).2
  | .settle s how, w => (Scenario.settleSession s w how).world
  | .task t, w => (t.run w).2

def session? : Move → Option SessionName
  | .call s _ | .directory s _ | .settle s _ => some s
  | .task _ => none

end Move

def World.after (w : World) (moves : List Move) : World := moves.foldl (fun w m => m.play w) w

structure Thread where
  job : Job
  rest : Program Answer

structure System where
  world : World
  threads : SessionName → Option Thread

inductive Event where
  | start (s : SessionName) (job : Job)
  -- the next session call of the service call under way
  | proceed (s : SessionName)
  | directory (s : SessionName) (change : Directory.Change)
  | settle (s : SessionName) (how : EndMethod)
  | task (task : Task)

structure Return where
  session : SessionName
  job : Job
  outcome : Except Failure Answer

structure Turn where
  system : System
  journal : Journal
  returned : Option Return

namespace System

def initial : System := ⟨.initial, fun _ => none⟩

def setThread (σ : System) (s : SessionName) (thread : Option Thread) : System :=
  { σ with threads := fun t => if t = s then thread else σ.threads t }

def still (σ : System) : Turn := ⟨σ, [], none⟩

def resume (σ : System) (s : SessionName) (job : Job) (p : Program Answer) : Turn :=
  match p.ahead with
  | (journal, .done outcome) => ⟨σ.setThread s none, journal, some ⟨s, job, outcome⟩⟩
  | (journal, rest) => ⟨σ.setThread s (some ⟨job, rest⟩), journal, none⟩

def move (σ : System) (m : Move) : Turn := { σ with world := m.play σ.world }.still

/-- A session serves one call at a time; what does not fit is passed over. -/
def step (σ : System) : Event → Turn
  | .start s job =>
    match σ.threads s with
    | none => σ.resume s job job.program
    | some _ => σ.still
  | .proceed s =>
    match σ.threads s with
    | some ⟨job, .call c next⟩ =>
      let (reply, world) := σ.world.reply s c
      { σ with world }.resume s job (next reply)
    | _ => σ.still
  | .directory s change =>
    if (σ.threads s).isNone then σ.move (.directory s change) else σ.still
  | .settle s how => if (σ.threads s).isNone then σ.move (.settle s how) else σ.still
  | .task t => σ.move (.task t)

def after (σ : System) (events : List Event) : System :=
  events.foldl (fun σ e => (σ.step e).system) σ

end System

end ReactionLedger
