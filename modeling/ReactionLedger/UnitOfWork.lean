import ReactionLedger.Failure

/-!
Units of work.  The session of a unit commits when its body ended well and otherwise rolls back, and
is closed in the end.  Failures of the rollback and of the first closing are passed over; leaving
the session's scope closes it once more, and a failure of that closing is how the unit ends.
-/

set_option autoImplicit false

namespace ReactionLedger.UnitOfWork

/-- The ways a session ends its work, each of which may fail and may have worked before. -/
structure Ending (σ : Type) where
  commit : σ → Except Failure Unit × σ
  rollback : σ → Except Failure Unit × σ
  close : σ → Except Failure Unit × σ

variable {σ : Type}

def settle (e : Ending σ) (body : Except Failure Unit) (s : σ) : Except Failure Unit × σ :=
  let (outcome, s) := match body with
    | .ok () => e.commit s
    | .error failure => (.error failure, s)
  match outcome with
  | .ok () => (outcome, s)
  | .error _ => (outcome, (e.rollback s).2)

def finish (e : Ending σ) (body : Except Failure Unit) (s : σ) : Except Failure Unit × σ :=
  let (outcome, s) := settle e body s
  let s := (e.close s).2
  match e.close s with
  | (.ok (), s) => (outcome, s)
  | (.error failure, s) => (.error failure, s)

end ReactionLedger.UnitOfWork
