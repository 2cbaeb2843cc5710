import ReactionLedger.Proofs.Store.Changes

set_option autoImplicit false

namespace ReactionLedger.World

variable {w : World} {s : SessionName} {k : Key} {t t' : Tables} {e : Failure}

theorem discard_failFlush (w : World) (s : SessionName) (e : Failure) :
    (w.failFlush s e).2.discard s = w.discard s := by
  have idle : (w.discard s).writer.any (fun writer => decide (writer.1 = s)) = false := by
    cases own : (w.discard s).writer with
    | none => rfl
    | some writer =>
      obtain ⟨r, tables⟩ := writer
      by_cases same : r = s
      · exact absurd (same ▸ own) (not_writer_discard w s tables)
      · simp [same]
  simp only [failFlush]
  rw [discard]
  simp only [setPending, setFailed, idle, Bool.false_eq_true, if_false]
  rw [World.mk.injEq]
  refine ⟨rfl, rfl, ?_, ?_, rfl⟩
  · funext r
    by_cases same : r = s <;> simp [same]
  · funext r
    by_cases same : r = s <;> simp [same]

theorem commit_eq (quiet : w.pending s = []) (sound : w.failed s = none) :
    w.commit s = (.ok (), w.publish s) := by
  simp [commit, sound, flush, quiet]

theorem flush_idle (quiet : w.pending s = []) : w.flush s = (.ok (), w) := by
  simp [flush, quiet]

theorem flush_outcomes (sound : w.failed s = none) :
    (w.pending s = [] ∧ w.flush s = (.ok (), w)) ∨
    (∃ t t', w.pending s ≠ [] ∧ w.view s = some t ∧ insertAll w.clock t (w.pending s) = .ok t' ∧
      w.flush s = (.ok (), { w.setPending s [] with writer := some (s, t') })) ∨
    ∃ e, w.flush s = w.failFlush s e := by
  by_cases quiet : w.pending s = []
  · exact .inl ⟨quiet, flush_idle quiet⟩
  have queued : ¬ (w.pending s).isEmpty = true := fun empty => quiet (List.isEmpty_iff.mp empty)
  right
  cases seen : w.view s with
  | none => exact .inr ⟨noReactions, by simp [flush, queued, sound, seen]⟩
  | some t =>
    cases free : w.mayWrite s with
    | false => exact .inr ⟨locked, by simp [flush, queued, sound, seen, free]⟩
    | true =>
      cases stored : insertAll w.clock t (w.pending s) with
      | ok t' => exact .inl ⟨t, t', quiet, rfl, stored,
          by simp [flush, queued, sound, seen, free, stored, write]⟩
      | error e => exact .inr ⟨e, by simp [flush, queued, sound, seen, free, stored]⟩

theorem refresh_of_mem {row : StoredReaction} {reaction : Reaction}
    (sound : w.failed s = none) (seen : w.view s = some t) (unique : t.KeysUnique)
    (mem : row ∈ t.reactions) (has : row.hasKey k = true) (load : row.load = .ok reaction) :
    w.refresh s k = .ok reaction := by
  simp [refresh, tables_of_view seen sound, Tables.find_of_mem unique mem has, load, Except.map,
    bind, Except.bind, pure, Except.pure]

theorem committed_publish (w : World) (s : SessionName) : (w.publish s).committed = w.view s := by
  unfold publish view
  rcases w.writer with _ | ⟨r, t⟩
  · rfl
  · dsimp only
    split <;> rfl

theorem delete_cases (w : World) (s : SessionName) (k : Key) :
    (∃ t, w.view s = some t ∧ w.delete s k =
      (.ok ((t.deleteWhere (StoredReaction.hasKey k)).2 : Int),
        { w with writer := some (s, (t.deleteWhere (StoredReaction.hasKey k)).1) })) ∨
    ∃ e, w.delete s k = (.error e, w) := by
  unfold delete
  split
  · exact .inr ⟨_, rfl⟩
  · next t read =>
    split
    · exact .inl ⟨t, (tables_eq_ok read).1, rfl⟩
    · exact .inr ⟨_, rfl⟩

section Queued

variable (queued : w.pending s = [k]) (sound : w.failed s = none)
include queued sound

theorem flush_unseen (unseen : w.view s = none) : w.flush s = w.failFlush s noReactions := by
  simp [flush, queued, sound, unseen]

theorem flush_locked (seen : w.view s = some t) (held : w.mayWrite s = false) :
    w.flush s = w.failFlush s locked := by
  simp [flush, queued, sound, seen, held]

theorem flush_stores (seen : w.view s = some t) (free : w.mayWrite s = true)
    (stored : insertOne w.clock t k = .ok t') :
    w.flush s = (.ok (), { w.setPending s [] with writer := some (s, t') }) := by
  simp [flush, queued, sound, seen, free, insertAll, stored, write, bind, Except.bind, pure,
    Except.pure]

theorem flush_refuses (seen : w.view s = some t) (free : w.mayWrite s = true)
    (refused : insertOne w.clock t k = .error e) : w.flush s = w.failFlush s e := by
  simp [flush, queued, sound, seen, free, insertAll, refused, bind, Except.bind]

theorem flush_cases :
    (∃ t t', w.view s = some t ∧ w.mayWrite s = true ∧ insertOne w.clock t k = .ok t' ∧
      w.flush s = (.ok (), { w.setPending s [] with writer := some (s, t') })) ∨
    ∃ e, w.flush s = w.failFlush s e ∧ (e = noReactions ∨ e = locked ∨
      ∃ t, w.view s = some t ∧ insertOne w.clock t k = .error e) := by
  cases seen : w.view s with
  | none => exact .inr ⟨_, flush_unseen queued sound seen, .inl rfl⟩
  | some t =>
    cases free : w.mayWrite s with
    | false => exact .inr ⟨_, flush_locked queued sound seen free, .inr (.inl rfl)⟩
    | true =>
      cases stored : insertOne w.clock t k with
      | ok t' => exact .inl ⟨t, t', rfl, rfl, stored, flush_stores queued sound seen free stored⟩
      | error e =>
        exact .inr ⟨e, flush_refuses queued sound seen free stored, .inr (.inr ⟨t, rfl, stored⟩)⟩

end Queued

end ReactionLedger.World
