import ReactionLedger.Proofs.Store.Flushing
import ReactionLedger.Proofs.Store.Invariants

set_option autoImplicit false

namespace ReactionLedger

variable {P : Key → Prop}

namespace Tables

def Filled (P : Key → Prop) (t : Tables) : Prop :=
  ∀ r ∈ t.reactions, ∃ k : Key, r.hasKey k = true ∧ P k

variable {t t' : Tables}

theorem Filled.subset (filled : t.Filled P) (fewer : t'.reactions ⊆ t.reactions) : t'.Filled P :=
  fun r mem => filled r (fewer mem)

theorem Filled.insertAll {clock : Option String} {keys : List Key} (allowed : ∀ k ∈ keys, P k)
    (filled : t.Filled P) (stored : World.insertAll clock t keys = .ok t') : t'.Filled P := by
  induction keys generalizing t with
  | nil => exact Except.ok.inj stored ▸ filled
  | cons k keys ih =>
    obtain ⟨t₁, first, rest⟩ := insertAll_cons stored
    obtain ⟨row, rfl, -, has, -⟩ := insertOne_inv first
    refine ih (fun k mem => allowed k (List.mem_cons_of_mem _ mem)) (fun r mem => ?_) rest
    rcases List.mem_append.mp mem with old | new
    · exact filled r old
    · obtain rfl := List.mem_singleton.mp new
      exact ⟨k, has, allowed k List.mem_cons_self⟩

end Tables

namespace World

structure Filled (P : Key → Prop) (w : World) : Prop where
  rows : w.Everywhere (Tables.Filled P)
  pending : ∀ s, ∀ k ∈ w.pending s, P k

variable {w : World} {s : SessionName} {t : Tables}

theorem filled_initial : initial.Filled P where
  rows := ⟨fun _ stored => Option.some.inj stored ▸ nofun, nofun⟩
  pending _ _ mem := by cases mem

theorem Filled.write (filled : w.Filled P) (own : t.Filled P) :
    Filled P { w with writer := some (s, t) } where
  rows := ⟨filled.rows.committed, fun _ _ writer => (Prod.mk.inj (Option.some.inj writer)).2 ▸ own⟩
  pending := filled.pending

theorem Filled.store (filled : w.Filled P) (own : t.Filled P) :
    Filled P { w with committed := some t } where
  rows := ⟨fun _ stored => Option.some.inj stored ▸ own, filled.rows.written⟩
  pending := filled.pending

theorem Filled.setPending (filled : w.Filled P) {keys : List Key} (allowed : ∀ k ∈ keys, P k) :
    (w.setPending s keys).Filled P where
  rows := ⟨filled.rows.committed, filled.rows.written⟩
  pending r k mem := by
    rw [pending_setPending] at mem
    split at mem
    · exact allowed k mem
    · exact filled.pending r k mem

theorem Filled.setFailed (filled : w.Filled P) (e : Option Failure) :
    (w.setFailed s e).Filled P :=
  ⟨⟨filled.rows.committed, filled.rows.written⟩, filled.pending⟩

theorem Filled.discard (filled : w.Filled P) (s : SessionName) : (w.discard s).Filled P where
  rows := filled.rows.discard s
  pending r k mem := by
    rw [pending_discard] at mem
    split at mem
    · cases mem
    · exact filled.pending r k mem

theorem Filled.flush (filled : w.Filled P) (s : SessionName) : (w.flush s).2.Filled P := by
  have failing (e : Failure) : (w.failFlush s e).2.Filled P := (filled.discard s).setFailed _
  unfold World.flush
  split
  · exact filled
  · split
    · exact filled
    · exact failing _
    · next t seen =>
      split
      · split
        · next stored =>
          have own := (filled.rows.view seen).insertAll (filled.pending s) stored
          exact (filled.setPending (by simp)).write own
        · exact failing _
      · exact failing _

theorem Filled.publish (filled : w.Filled P) (s : SessionName) : (w.publish s).Filled P := by
  unfold World.publish
  split
  next r t writer =>
    split
    · exact ⟨⟨fun _ stored => Option.some.inj stored ▸ filled.rows.written r t writer, nofun⟩,
        filled.pending⟩
    · exact filled
  next => exact filled

end World

namespace Move

def Fills (P : Key → Prop) : Move → Prop
  | .call _ (.add key) => P key
  | .task (.seed ..) | .task (.insert _) => False
  | _ => True

open World (Filled)

theorem filled_change {w : World} (filled : w.Filled P) (missing : Failure) (number : Option Cell)
    {f : Tables → Except Failure (Tables × Task.Result)}
    (fewer : ∀ t t' result, f t = .ok (t', result) → t'.reactions ⊆ t.reactions) :
    (Task.change w missing number f).2.Filled P := by
  rcases Task.change_cases w missing number f with same | ⟨t, t', result, stored, -, made, after⟩
  · rwa [same]
  · rw [after]
    exact filled.store ((filled.rows.committed t stored).subset (fewer t t' result made))

theorem filled_task {w : World} {t : Task} (fills : (Move.task t).Fills P) (filled : w.Filled P) :
    (t.run w).2.Filled P := by
  cases t with
  | putUser id name =>
    refine filled_change filled _ _ fun t t' result made => ?_
    rcases id with _ | id <;> rcases name with _ | name <;> simp [Task.replaceUser] at made
    exact made.1 ▸ List.Subset.refl _
  | dropUser id =>
    refine filled_change filled _ _ fun t t' result made => ?_
    exact (Prod.mk.inj (Except.ok.inj made)).1 ▸ List.Subset.refl _
  | deleteReaction id =>
    refine filled_change filled _ _ fun t t' result made => ?_
    exact (Prod.mk.inj (Except.ok.inj made)).1 ▸ fun _ => List.mem_of_mem_filter
  | seed => exact fills.elim
  | insert => exact fills.elim
  | dump =>
    simp only [Task.run]
    split <;> exact filled
  | setClock now => exact ⟨⟨filled.rows.committed, filled.rows.written⟩, filled.pending⟩
  | createTables =>
    simp only [Task.run]
    split
    · exact filled
    · exact filled.store fun _ mem => absurd mem List.not_mem_nil
  | dropTables =>
    simp only [Task.run]
    split
    · exact filled
    · split
      · exact filled
      · exact ⟨⟨fun t stored => (by cases stored), filled.rows.written⟩, filled.pending⟩

theorem filled_play {m : Move} {w : World} (fills : m.Fills P) (filled : w.Filled P) :
    (m.play w).Filled P := by
  cases m with
  | call s c =>
    cases c with
    | deleteReaction k =>
      simp only [play, World.reply]
      rcases World.delete_cases w s k with ⟨t, seen, deleted⟩ | ⟨e, failed⟩
      · rw [deleted]
        exact filled.write ((filled.rows.view seen).subset fun _ => List.mem_of_mem_filter)
      · rwa [failed]
    | add k =>
      refine filled.setPending fun l mem => ?_
      rcases List.mem_append.mp mem with old | new
      · exact filled.pending s l old
      · exact List.mem_singleton.mp new ▸ fills
    | flush => exact filled.flush s
    | rollback => exact filled.discard s
    | _ => exact filled
  | directory s change =>
    simp only [play, World.changeDirectory]
    split
    · exact filled
    next t read =>
      have own := filled.rows.view (World.tables_eq_ok read).1
      split
      · split
        · exact filled.write (own.subset (List.Subset.refl _))
        · exact filled.write own
      · exact filled
  | settle s how =>
    cases how with
    | commit =>
      change (w.commit s).2.Filled P
      unfold World.commit
      split
      · exact filled
      · have flushed := filled.flush s
        split
        next done =>
          rw [done] at flushed
          exact flushed.publish s
        next failed =>
          rw [failed] at flushed
          exact flushed
    | rollback => exact filled.discard s
    | close => exact filled.discard s
  | task t => exact filled_task fills filled

end Move

end ReactionLedger
