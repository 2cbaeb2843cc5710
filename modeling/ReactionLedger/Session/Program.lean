import ReactionLedger.Failure
import ReactionLedger.Journal
import ReactionLedger.Session.Call

/-!
Programs over a session: trees of calls that branch on every reply, with journal entries between
them.  A run hands each call to a performer of one's choice, a real store or a prepared one.
-/

set_option autoImplicit false

namespace ReactionLedger

inductive Program (α : Type) where
  | done (outcome : Except Failure α)
  | note (entry : Entry) (next : Program α)
  | call (c : Call) (next : Except Failure c.Reply → Program α)

namespace Program

variable {α β : Type}

def bind : Program α → (α → Program β) → Program β
  | .done (.ok a), f => f a
  | .done (.error e), _ => .done (.error e)
  | .note entry p, f => .note entry (p.bind f)
  | .call c next, f => .call c fun reply => (next reply).bind f

instance : Monad Program where
  pure a := .done (.ok a)
  bind := bind

def fail (e : Failure) : Program α := .done (.error e)

def handle : Program α → (Failure → Program α) → Program α
  | .done (.ok a), _ => .done (.ok a)
  | .done (.error e), rescue => rescue e
  | .note entry p, rescue => .note entry (p.handle rescue)
  | .call c next, rescue => .call c fun reply => (next reply).handle rescue

def perform (c : Call) : Program c.Reply := .call c .done

def record (level : LogLevel) (text : String) : Program Unit := .note ⟨level, text⟩ (.done (.ok ()))

end Program

structure Run (σ α : Type) where
  outcome : Except Failure α
  journal : Journal
  state : σ

abbrev Performer (σ : Type) := (c : Call) → σ → Run σ c.Reply

namespace Program

variable {α β σ : Type}

def run (perform : Performer σ) : Program α → σ → Run σ α
  | .done outcome, s => ⟨outcome, [], s⟩
  | .note entry p, s =>
    let r := p.run perform s
    { r with journal := entry :: r.journal }
  | .call c next, s =>
    let reply := perform c s
    let r := (next reply.outcome).run perform reply.state
    { r with journal := reply.journal ++ r.journal }

def ahead : Program α → Journal × Program α
  | .note entry p =>
    let (journal, rest) := p.ahead
    (entry :: journal, rest)
  | .done outcome => ([], .done outcome)
  | .call c next => ([], .call c next)

theorem run_bind (perform : Performer σ) (p : Program α) (f : α → Program β) (s : σ) :
    (p.bind f).run perform s =
      match p.run perform s with
      | ⟨.ok a, journal, s⟩ =>
        let r := (f a).run perform s
        { r with journal := journal ++ r.journal }
      | ⟨.error e, journal, s⟩ => ⟨.error e, journal, s⟩ := by
  induction p generalizing s with
  | done outcome => cases outcome <;> simp [bind, run]
  | note entry p ih =>
    simp only [bind, run, ih]
    rcases p.run perform s with ⟨_ | _, _, _⟩ <;> simp
  | call c next ih =>
    simp only [bind, run, ih]
    rcases (next (perform c s).outcome).run perform (perform c s).state with ⟨_ | _, _, _⟩ <;>
      simp

theorem run_handle (perform : Performer σ) (p : Program α) (rescue : Failure → Program α) (s : σ) :
    (p.handle rescue).run perform s =
      match p.run perform s with
      | ⟨.ok a, journal, s⟩ => ⟨.ok a, journal, s⟩
      | ⟨.error e, journal, s⟩ =>
        let r := (rescue e).run perform s
        { r with journal := journal ++ r.journal } := by
  induction p generalizing s with
  | done outcome => cases outcome <;> simp [handle, run]
  | note entry p ih =>
    simp only [handle, run, ih]
    rcases p.run perform s with ⟨_ | _, _, _⟩ <;> simp
  | call c next ih =>
    simp only [handle, run, ih]
    rcases (next (perform c s).outcome).run perform (perform c s).state with ⟨_ | _, _, _⟩ <;>
      simp

end Program

end ReactionLedger
