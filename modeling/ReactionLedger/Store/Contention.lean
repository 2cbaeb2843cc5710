import ReactionLedger.Store.Interleaving

set_option autoImplicit false

namespace ReactionLedger

open Service (Answer Job)

structure Contention where
  world : World
  -- the rivals' moves before each of the calls to come
  blocks : List (List Move)
  -- the worlds before and after each move of a rival so far
  past : List (World × World)

namespace Contention

def play (c : Contention) (m : Move) : Contention :=
  { c with world := m.play c.world, past := c.past ++ [(c.world, m.play c.world)] }

def meet (c : Contention) : Contention :=
  match c.blocks with
  | [] => c
  | block :: blocks => block.foldl play { c with blocks }

def since (c earlier : Contention) : List (World × World) := c.past.drop earlier.past.length

def perform (s : SessionName) : Performer Contention := fun call c =>
  let c := c.meet
  let (reply, world) := c.world.reply s call
  ⟨reply, [], { c with world }⟩

def serve (s : SessionName) : List Job → Contention → Except Failure (List Answer) × Contention
  | [], c => (.ok [], c)
  | job :: jobs, c =>
    let r := job.program.run (perform s) c
    match r.outcome with
    | .error e => (.error e, r.state)
    | .ok answer =>
      let rest := serve s jobs r.state
      (rest.1.map (answer :: ·), rest.2)

end Contention

end ReactionLedger
