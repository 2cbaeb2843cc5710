import ReactionLedger.Proofs.Label
import ReactionLedger.Service.Writing

set_option autoImplicit false

namespace ReactionLedger

namespace Program

variable {σ α β : Type} (perform : Performer σ) (s : σ)

def result (p : Program α) : Except Failure α × σ :=
  ((p.run perform s).outcome, (p.run perform s).state)

@[simp]
theorem result_pure (a : α) : result perform s (pure a) = (.ok a, s) := rfl

@[simp]
theorem result_fail (e : Failure) : result perform s (fail e : Program α) = (.error e, s) := rfl

@[simp]
theorem result_done (outcome : Except Failure α) :
    result perform s (.done outcome) = (outcome, s) := rfl

@[simp]
theorem result_record (level : LogLevel) (text : String) :
    result perform s (record level text) = (.ok (), s) := rfl

@[simp]
theorem result_perform (c : Call) :
    result perform s (Program.perform c) = ((perform c s).outcome, (perform c s).state) := rfl

theorem result_bind (p : Program α) (f : α → Program β) :
    result perform s (p >>= f) =
      match result perform s p with
      | (.ok a, s) => result perform s (f a)
      | (.error e, s) => (.error e, s) := by
  change result perform s (p.bind f) = _
  simp only [result, run_bind]
  rcases p.run perform s with ⟨_ | _, _, _⟩ <;> rfl

theorem result_bind_ok {p : Program α} {f : α → Program β} {a : α} {s' : σ}
    (first : result perform s p = (.ok a, s')) :
    result perform s (p >>= f) = result perform s' (f a) := by
  rw [result_bind, first]

theorem result_bind_pure (p : Program α) (f : α → β) :
    result perform s (p >>= fun a => pure (f a)) =
      ((result perform s p).1.map f, (result perform s p).2) := by
  rw [result_bind]
  rcases result perform s p with ⟨_ | _, _⟩ <;> rfl

theorem ok_of_bind_pure {p : Program α} {f : α → β} {b : β} {s' : σ}
    (ended : result perform s (p >>= fun a => pure (f a)) = (.ok b, s')) :
    ∃ a, result perform s p = (.ok a, s') ∧ f a = b := by
  rw [result_bind_pure] at ended
  rcases first : result perform s p with ⟨e | a, s₁⟩
  · simp [first, Except.map] at ended
  · simp only [first, Except.map, Prod.mk.injEq, Except.ok.injEq] at ended
    exact ⟨a, by rw [ended.2], ended.1⟩

theorem result_handle (p : Program α) (rescue : Failure → Program α) :
    result perform s (p.handle rescue) =
      match result perform s p with
      | (.ok a, s) => (.ok a, s)
      | (.error e, s) => result perform s (rescue e) := by
  simp only [result, run_handle]
  rcases p.run perform s with ⟨_ | _, _, _⟩ <;> rfl

end Program

namespace Service

open Program

variable {σ α : Type} (perform : Performer σ) (s : σ)

theorem result_rollbackQuietly :
    result perform s rollbackQuietly = (.ok (), (perform .rollback s).state) := by
  rw [rollbackQuietly, result_handle, result_perform perform s .rollback]
  cases (perform .rollback s).outcome <;> rfl

theorem result_guarded_ok {failed : String} {body : Program α} {a : α} {s' : σ}
    (ended : result perform s body = (.ok a, s')) :
    result perform s (guarded failed body) = (.ok a, s') := by
  rw [guarded, result_handle, ended]

theorem result_guarded_store {failed : String} {body : Program α} {fault : StoreFault} {s' : σ}
    (ended : result perform s body = (.error (.store fault), s')) :
    result perform s (guarded failed body) =
      (.error (.access failed (some (.store fault))), (perform .rollback s').state) := by
  rw [guarded, result_handle, ended]
  dsimp only
  rw [if_pos (show (Failure.store fault).isStore = true from rfl), result_bind,
    result_rollbackQuietly]
  rfl

theorem result_guarded_other {failed : String} {body : Program α} {e : Failure} {s' : σ}
    (ended : result perform s body = (.error e, s')) (other : e.isStore = false) :
    result perform s (guarded failed body) = (.error e, s') := by
  rw [guarded, result_handle, ended]
  dsimp only
  rw [if_neg (by simp [other]), result_fail]

theorem error_of_guarded {failed : String} {body : Program α} {e : Failure} {s' : σ}
    (ended : result perform s (guarded failed body) = (.error e, s')) :
    (∃ fault s₁, result perform s body = (.error (.store fault), s₁) ∧
      e = .access failed (some (.store fault)) ∧ s' = (perform .rollback s₁).state) ∨
    e.isStore = false ∧ result perform s body = (.error e, s') := by
  rcases inner : result perform s body with ⟨d | a, s₁⟩
  · cases store : d.isStore with
    | false =>
      rw [result_guarded_other perform s inner store] at ended
      obtain ⟨same, rfl⟩ := Prod.mk.inj ended
      obtain rfl := Except.error.inj same
      exact .inr ⟨store, rfl⟩
    | true =>
      cases d with
      | store fault =>
        rw [result_guarded_store perform s inner] at ended
        obtain ⟨same, rfl⟩ := Prod.mk.inj ended
        exact .inl ⟨fault, s₁, rfl, (Except.error.inj same).symm, rfl⟩
      | _ => cases store
  · rw [result_guarded_ok perform s inner] at ended
    cases ended

def reread (conflict : StoreFault) : Except Failure (Option Reaction) → Except Failure Added
  | .error e => .error e
  | .ok none => .error (.store conflict)
  | .ok (some stored) => .ok (.before stored)

theorem ok_of_guarded {failed : String} {body : Program α} {a : α} {s' : σ}
    (ended : result perform s (guarded failed body) = (.ok a, s')) :
    result perform s body = (.ok a, s') := by
  rcases inner : result perform s body with ⟨e | b, s₁⟩
  · cases store : e.isStore with
    | false => simp [result_guarded_other perform s inner store] at ended
    | true =>
      cases e with
      | store fault => simp [result_guarded_store perform s inner] at ended
      | _ => cases store
  · rwa [result_guarded_ok perform s inner] at ended

theorem result_guarded_congr {failed : String} {body other : Program α}
    (same : result perform s body = result perform s other) :
    result perform s (guarded failed body) = result perform s (guarded failed other) := by
  rw [guarded, guarded, result_handle, result_handle, same]

theorem result_lostRace (key : Key) (conflict : StoreFault) :
    result perform s (lostRace key conflict) =
      let found := perform (.findReaction key) (perform .rollback s).state
      (reread conflict found.outcome, found.state) := by
  rw [lostRace, result_bind_ok perform s (result_rollbackQuietly perform s), result_bind,
    result_perform]
  rcases perform (.findReaction key) (perform .rollback s).state with ⟨_ | _ | _, _, _⟩ <;> rfl

theorem result_insertReaction (key : Key) :
    result perform s (insertReaction key) =
      let added := perform (.add key) s
      let flushed := perform .flush added.state
      match added.outcome, flushed.outcome with
      | .error e, _ => (.error e, added.state)
      | .ok (), .ok () =>
        let stored := perform (.refresh key) flushed.state
        (stored.outcome.map Added.now, stored.state)
      | .ok (), .error (.store (.integrity origin text)) =>
        result perform flushed.state (lostRace key (.integrity origin text))
      | .ok (), .error e => (.error e, flushed.state) := by
  rw [insertReaction, result_bind, result_perform perform s (.add key)]
  rcases perform (.add key) s with ⟨_ | _, _, s₁⟩
  · rfl
  · dsimp only
    rw [result_bind, result_handle, result_bind, result_perform perform s₁ .flush]
    rcases perform .flush s₁ with ⟨e | _, _, s₂⟩
    · cases e with
      | store fault => cases fault <;> rfl
      | _ => rfl
    · dsimp only [result_pure]
      rw [result_bind, result_perform]
      rcases perform (.refresh key) s₂ with ⟨_ | _, _, _⟩ <;> rfl

theorem lostRace_of_failed_flush {key : Key} {added : Added} {s₁ s₂ s' : σ} {e : Failure}
    {journal : Journal} (queued : perform (.add key) s = ⟨.ok (), journal, s₁⟩)
    {journal' : Journal} (failed : perform .flush s₁ = ⟨.error e, journal', s₂⟩)
    (ended : result perform s (insertReaction key) = (.ok added, s')) :
    ∃ origin text, e = .store (.integrity origin text) ∧
      result perform s₂ (lostRace key (.integrity origin text)) = (.ok added, s') := by
  simp only [result_insertReaction, queued, failed] at ended
  cases e with
  | store fault =>
    cases fault with
    | integrity origin text => exact ⟨origin, text, rfl, ended⟩
    | _ => simp at ended
  | _ => simp at ended

theorem result_storeReaction (key : Key) :
    result perform s (storeReaction key) =
      let known := perform (.userKnown key.author) s
      let found := perform (.findReaction key) known.state
      match known.outcome, found.outcome with
      | .error e, _ => (.error e, known.state)
      | .ok false, _ => (.error (.unknownUser key.author), known.state)
      | .ok true, .error e => (.error e, found.state)
      | .ok true, .ok (some stored) => (.ok (.before stored), found.state)
      | .ok true, .ok none => result perform found.state (insertReaction key) := by
  rw [storeReaction, result_bind, result_perform]
  rcases perform (.userKnown key.author) s with ⟨_ | _ | _, _, s₁⟩
  · rfl
  · rfl
  · dsimp only
    rw [if_pos rfl, result_bind, result_perform]
    rcases perform (.findReaction key) s₁ with ⟨_ | _ | _, _, _⟩ <;> rfl

theorem result_addReaction (view comment : Option Uuid) {label core : String} (user : Option String)
    (accepted : Label.normalize label = .ok core) :
    result perform s (addReaction view comment label user) =
      let r := result perform s
        (guarded "Failed to add reaction" (storeReaction ⟨view, comment, core, user⟩))
      (r.1.map Added.reaction, r.2) := by
  rw [addReaction, accepted]
  change result perform s (guarded _ (storeReaction _) >>= _) = _
  rw [result_bind]
  rcases result perform s (guarded _ (storeReaction ⟨view, comment, core, user⟩)) with
    ⟨_ | _ | _, s'⟩ <;> rfl

theorem stored_of_addReaction {view comment : Option Uuid} {label : String} {user : Option String}
    {reaction : Reaction} {s' : σ}
    (ended : result perform s (addReaction view comment label user) = (.ok reaction, s')) :
    ∃ added : Added, added.reaction = reaction ∧
      result perform s (storeReaction ⟨view, comment, Text.trim label, user⟩) =
        (.ok added, s') := by
  cases accepted : Label.normalize label with
  | error fault =>
    rw [addReaction, accepted] at ended
    cases ended
  | ok core =>
    obtain ⟨rfl, -, -⟩ := (Label.normalize_eq_ok_iff label core).mp accepted
    rw [result_addReaction perform s view comment user accepted] at ended
    rcases inner : result perform s (guarded "Failed to add reaction"
      (storeReaction ⟨view, comment, Text.trim label, user⟩)) with ⟨e | added, s₁⟩
    · simp [inner, Except.map] at ended
    · simp only [inner, Except.map, Prod.mk.injEq, Except.ok.injEq] at ended
      obtain ⟨same, rfl⟩ := ended
      exact ⟨added, same, ok_of_guarded perform s inner⟩

def deletion (key : Key) : Program Int := do
  let count ← Program.perform (.deleteReaction key)
  Program.perform .flush
  return count

theorem result_deletion (key : Key) :
    result perform s (deletion key) =
      let deleted := perform (.deleteReaction key) s
      let flushed := perform .flush deleted.state
      match deleted.outcome with
      | .error e => (.error e, deleted.state)
      | .ok count => (flushed.outcome.map fun _ => count, flushed.state) := by
  rw [deletion, result_bind, result_perform]
  rcases perform (.deleteReaction key) s with ⟨_ | _, _, s₁⟩
  · rfl
  · dsimp only
    rw [result_bind, result_perform perform s₁ .flush]
    rcases perform .flush s₁ with ⟨_ | _, _, _⟩ <;> rfl

theorem result_removeReaction (view comment : Option Uuid) (label : String) (user : Option String) :
    result perform s (removeReaction view comment label user) =
      let r := result perform s (guarded "Failed to remove reaction"
        (deletion ⟨view, comment, Text.trim label, user⟩))
      (r.1.map (fun count => decide (count ≠ 0)), r.2) := by
  change result perform s (guarded _ (deletion _) >>= _) = _
  rw [result_bind]
  rcases result perform s (guarded "Failed to remove reaction"
    (deletion ⟨view, comment, Text.trim label, user⟩)) with ⟨_ | count, s'⟩
  · rfl
  · dsimp only
    by_cases none : count = 0
    · rw [if_pos none]
      simp [none, Except.map]
      rfl
    · rw [if_neg none]
      simp [none, Except.map]
      rfl

def readRows : Except Failure (List (List Value)) → Except Failure (List Row)
  | .error e =>
    .error
      (if e.isReadFault then .access ("Failed to read reactions: " ++ e.message) (some e) else e)
  | .ok raw => Row.decodeAll raw

theorem result_fetchRows (conditions : List Condition) :
    result perform s (fetchRows conditions) =
      let joined := perform (.joinedRows conditions) s
      (readRows joined.outcome, joined.state) := by
  rw [fetchRows, result_bind, result_handle, result_perform]
  rcases perform (.joinedRows conditions) s with ⟨e | raw, _, s'⟩
  · cases fault : e.isReadFault <;> simp [readFailed, fault, readRows, result_bind]
  · dsimp only
    cases decoded : Row.decodeAll raw with
    | error e =>
      cases access : e.isAccess <;> simp [decodeFailed, access, readRows, decoded, result_bind]
    | ok rows => simp [readRows, decoded]

theorem result_listComment (comment : Option Uuid) :
    result perform s (listComment comment) =
      let joined := perform (.joinedRows [.comment comment]) s
      (do
        let rows ← readRows joined.outcome
        let groups ← Rollup.byLabel rows
        Rollup.types groups, joined.state) := by
  rw [listComment, result_bind, result_fetchRows]
  dsimp only
  cases readRows (perform (.joinedRows [.comment comment]) s).outcome with
  | error e => rfl
  | ok rows =>
    dsimp only
    rw [result_bind, result_done]
    cases grouped : Rollup.byLabel rows with
    | error e => simp only [Bind.bind, Except.bind, grouped]
    | ok groups =>
      simp only [Bind.bind, Except.bind, grouped]
      rfl

theorem result_listView (view comment : Option Uuid) :
    result perform s (listView view comment) =
      let joined := perform (.joinedRows
        (.view view :: (comment.map fun c => Condition.comment (some c)).toList)) s
      (do
        let rows ← readRows joined.outcome
        let groups ← Rollup.byComment rows
        Rollup.comments groups, joined.state) := by
  rw [listView, result_bind, result_fetchRows]
  dsimp only
  cases readRows (perform (.joinedRows
      (.view view :: (comment.map fun c => Condition.comment (some c)).toList)) s).outcome with
  | error e => rfl
  | ok rows =>
    dsimp only
    rw [result_bind, result_done]
    cases grouped : Rollup.byComment rows with
    | error e => simp only [Bind.bind, Except.bind, grouped]
    | ok groups =>
      simp only [Bind.bind, Except.bind, grouped]
      rfl

end Service

end ReactionLedger
