import ReactionLedger.Proofs.Session.Paths
import ReactionLedger.Proofs.Session.Results
import ReactionLedger.Proofs.Store.Faults

set_option autoImplicit false

namespace ReactionLedger.Service

open Program

variable {σ : Type} {perform : Performer σ} {s : σ} {key : Key} {e : Failure}

def Faults (perform : Performer σ) : Prop :=
  ∀ c s e, (perform c s).outcome = .error e → e.isStore = true ∨ e.isRowFault = true

-- the failure of a reply is the outcome
theorem Faults.passed {α : Type} (faults : Faults perform) {c : Call} {d : Failure}
    (failed : (perform c s).outcome = .error d)
    (passed : (.error d : Except Failure α) = .error e) :
    e.isStore = true ∨ e.isRowFault = true :=
  Except.error.inj passed ▸ faults c s d failed

variable {s' : σ}

theorem fault_of_lostRace (faults : Faults perform) {conflict : StoreFault}
    (failed : result perform s (lostRace key conflict) = (.error e, s')) :
    e.isStore = true ∨ e.isRowFault = true := by
  rw [result_lostRace] at failed
  have outcome := (Prod.mk.inj failed).1
  cases found : (perform (.findReaction key) (perform .rollback s).state).outcome with
  | error d =>
    rw [found] at outcome
    exact faults.passed found outcome
  | ok stored? =>
    rw [found] at outcome
    cases stored? with
    | none => exact .inl (Except.error.inj outcome ▸ rfl)
    | some stored => cases outcome

theorem fault_of_insertReaction (faults : Faults perform)
    (failed : result perform s (insertReaction key) = (.error e, s')) :
    e.isStore = true ∨ e.isRowFault = true := by
  rw [result_insertReaction] at failed
  dsimp only at failed
  split at failed
  next added => exact faults.passed added (Prod.mk.inj failed).1
  next => exact faults (.refresh key) _ _ (error_of_map (Prod.mk.inj failed).1)
  next => exact fault_of_lostRace faults failed
  next flushed => exact faults.passed flushed (Prod.mk.inj failed).1

theorem fault_of_storeReaction (faults : Faults perform)
    (failed : result perform s (storeReaction key) = (.error e, s')) :
    (e = .unknownUser key.author ∧ (perform (.userKnown key.author) s).outcome = .ok false ∧
      s' = (perform (.userKnown key.author) s).state) ∨
    e.isStore = true ∨ e.isRowFault = true := by
  rw [result_storeReaction] at failed
  dsimp only at failed
  split at failed
  next known => exact .inr (faults.passed known (Prod.mk.inj failed).1)
  next known =>
    obtain ⟨same, rfl⟩ := Prod.mk.inj failed
    exact .inl ⟨(Except.error.inj same).symm, known, rfl⟩
  next found => exact .inr (faults.passed found (Prod.mk.inj failed).1)
  next => cases failed
  next => exact .inr (fault_of_insertReaction faults failed)

theorem fault_of_deletion (faults : Faults perform)
    (failed : result perform s (deletion key) = (.error e, s')) :
    e.isStore = true ∨ e.isRowFault = true := by
  rw [result_deletion] at failed
  dsimp only at failed
  split at failed
  next deleted => exact faults.passed deleted (Prod.mk.inj failed).1
  next => exact faults .flush _ _ (error_of_map (Prod.mk.inj failed).1)

theorem trace_of_stranger {failed : String}
    (known : (perform (.userKnown key.author) s).outcome = .ok false) :
    (guarded failed (storeReaction key)).trace perform s =
      [⟨.userKnown key.author, .ok false⟩] := by
  rw [guarded, storeReaction]
  change _ :: _ = _
  rw [known]
  rfl

end ReactionLedger.Service
