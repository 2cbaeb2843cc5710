import ReactionLedger.Proofs.Journal.Recounting
import ReactionLedger.Proofs.Store.Flushing
import ReactionLedger.Proofs.Store.Invariants

set_option autoImplicit false

namespace ReactionLedger

open Service (Progress)

namespace World

variable {w w' : World} {s r : SessionName} {t t' : Tables}

def own (w : World) (s : SessionName) : Option Tables :=
  (w.writer.filter fun writer => writer.1 = s).map Prod.snd

theorem own_eq_some_iff : w.own s = some t ↔ w.writer = some (s, t) := by
  constructor
  · intro written
    obtain ⟨⟨r, t'⟩, own, rfl⟩ := Option.map_eq_some_iff.mp written
    obtain ⟨writer, same⟩ := Option.filter_eq_some_iff.mp own
    obtain rfl : r = s := by simpa using same
    exact writer
  · intro writer
    simp [own, writer]

theorem own_eq_none_iff : w.own s = none ↔ ∀ t, w.writer ≠ some (s, t) := by
  simp only [Option.eq_none_iff_forall_ne_some, ne_eq, own_eq_some_iff]

theorem own_discard (w : World) (s : SessionName) : (w.discard s).own s = none :=
  own_eq_none_iff.mpr (not_writer_discard w s)

theorem own_publish (w : World) (s : SessionName) : (w.publish s).own s = none := by
  rw [own_eq_none_iff]
  intro t own
  unfold publish at own
  split at own
  next r tables writer =>
    split at own
    next => cases own
    next other => exact other (Prod.mk.inj (Option.some.inj (writer.symm.trans own))).1
  next idle => cases idle.symm.trans own

theorem view_of_own_none (idle : w.own s = none) : w.view s = w.committed :=
  view_of_not_writer (own_eq_none_iff.mp idle)

theorem view_of_own (written : w.own s = some t) : w.view s = some t :=
  view_of_writer (own_eq_some_iff.mp written)

theorem Spares.own (spared : Spares s w w') : w'.own s = w.own s :=
  Option.ext fun t => own_eq_some_iff.trans ((spared.writer t).trans own_eq_some_iff.symm)

structure Balanced (s : SessionName) (deeds : List Deed) (w : World) : Prop where
  written : ∀ t, w.own s = some t → ∃ c, w.committed = some c ∧ Deed.Explain deeds c t
  idle : w.own s = none → deeds = []

structure Retains (s : SessionName) (base : Option Tables) (w : World) : Prop where
  rows : ∀ t, w.own s = some t →
    ∃ c, base.or w.committed = some c ∧ t.reactions = c.reactions
  written : base.isSome = true → (w.own s).isSome = true

section Balance

variable {deeds later : List Deed} {base : Option Tables}

theorem balanced_of_idle (idle : w.own s = none) : Balanced s [] w where
  written t own := by cases idle.symm.trans own
  idle _ := rfl

theorem Balanced.spares (balanced : Balanced s deeds w) (spared : Spares s w w') :
    Balanced s deeds w' where
  written t own := by
    have before := spared.own.symm.trans own
    rw [spared.committed t (own_eq_some_iff.mp before)]
    exact balanced.written t before
  idle idle := balanced.idle (spared.own.symm.trans idle)

theorem Balanced.view (balanced : Balanced s deeds w) (seen : w.view s = some t) :
    ∃ c, w.committed = some c ∧ Deed.Explain deeds c t := by
  cases written : w.own s with
  | none =>
    rw [balanced.idle written]
    exact ⟨t, (view_of_own_none written).symm.trans seen, Deed.explain_nil rfl⟩
  | some t' =>
    obtain rfl := Option.some.inj ((view_of_own written).symm.trans seen)
    exact balanced.written t' written

theorem Balanced.write (balanced : Balanced s deeds w) (seen : w.view s = some t)
    (explain : Deed.Explain later t t') (stored : w'.own s = some t')
    (same : w'.committed = w.committed) : Balanced s (deeds ++ later) w' where
  written t₁ own := by
    obtain rfl := Option.some.inj (stored.symm.trans own)
    obtain ⟨c, committed, before⟩ := balanced.view seen
    exact ⟨c, same.trans committed, before.append explain⟩
  idle idle := by cases stored.symm.trans idle

theorem own_write (w : World) (s : SessionName) (t : Tables) :
    own { w with writer := some (s, t) } s = some t := own_eq_some_iff.mpr rfl

theorem Balanced.changeDirectory (balanced : Balanced s deeds w) (change : Directory.Change) :
    Balanced s deeds (w.changeDirectory s change).2 := by
  have written {t : Tables} (t' : Tables) (seen : w.view s = some t)
      (rows : t'.reactions = t.reactions) : Balanced s deeds { w with writer := some (s, t') } := by
    rw [← List.append_nil deeds]
    exact balanced.write seen (Deed.explain_nil rows) (own_write w s t') rfl
  unfold World.changeDirectory
  split
  · exact balanced
  next t read =>
    have seen := (tables_eq_ok read).1
    split
    · split
      · exact written _ seen rfl
      · exact written _ seen rfl
    · exact balanced

theorem retains_own (w : World) (s : SessionName) : Retains s (w.own s) w where
  rows t own := ⟨t, by rw [own]; rfl, rfl⟩
  written := id

theorem retains_of_idle (idle : w.own s = none) : Retains s none w where
  rows t own := by cases idle.symm.trans own
  written := nofun

theorem Retains.spares (retains : Retains s base w) (spared : Spares s w w') :
    Retains s base w' where
  rows t own := by
    have before := spared.own.symm.trans own
    rw [spared.committed t (own_eq_some_iff.mp before)]
    exact retains.rows t before
  written some := (congrArg Option.isSome spared.own).trans (retains.written some)

theorem Retains.view (retains : Retains s base w) (seen : w.view s = some t) :
    ∃ c, base.or w.committed = some c ∧ t.reactions = c.reactions := by
  cases written : w.own s with
  | none =>
    cases base with
    | none => exact ⟨t, (view_of_own_none written).symm.trans seen, rfl⟩
    | some t₀ =>
      have some := retains.written rfl
      rw [written] at some
      cases some
  | some t' =>
    obtain rfl := Option.some.inj ((view_of_own written).symm.trans seen)
    exact retains.rows t' written

theorem Retains.write (retains : Retains s base w) (seen : w.view s = some t)
    (rows : t'.reactions = t.reactions) (stored : w'.own s = some t')
    (same : w'.committed = w.committed) : Retains s base w' where
  rows t₁ own := by
    obtain rfl := Option.some.inj (stored.symm.trans own)
    obtain ⟨c, before, unchanged⟩ := retains.view seen
    exact ⟨c, same ▸ before, rows.trans unchanged⟩
  written _ := by rw [stored]; rfl

end Balance

structure Reached (s : SessionName) (base : Option Tables) (deeds : List Deed) (p : Progress)
    (w : World) : Prop where
  pending : w.pending s = p.pending
  balanced : Balanced s (deeds ++ p.deeds) w
  retained : p.deeds = [] → Retains s base w

variable {base : Option Tables} {deeds : List Deed} {p : Progress}

theorem reached_start (balanced : Balanced s deeds w) (quiet : w.pending s = []) :
    Reached s (w.own s) deeds ⟨[], []⟩ w where
  pending := quiet
  balanced := by rwa [List.append_nil]
  retained _ := retains_own w s

theorem Reached.spares (reached : Reached s base deeds p w) (spared : Spares s w w') :
    Reached s base deeds p w' where
  pending := spared.pending.trans reached.pending
  balanced := reached.balanced.spares spared
  retained none := (reached.retained none).spares spared

theorem reached_rollback (w : World) (s : SessionName) :
    Reached s none [] ⟨[], []⟩ (w.discard s) where
  pending := by simp
  balanced := balanced_of_idle (own_discard w s)
  retained _ := retains_of_idle (own_discard w s)

theorem Reached.add (reached : Reached s base deeds p w) (k : Key) :
    Reached s base deeds { p with pending := p.pending ++ [k] }
      (w.setPending s (w.pending s ++ [k])) where
  pending := by simp [reached.pending]
  balanced := ⟨reached.balanced.written, reached.balanced.idle⟩
  retained none := ⟨(reached.retained none).rows, (reached.retained none).written⟩

theorem Reached.delete (reached : Reached s base deeds p w) (k : Key) :
    Reached s base deeds (p.step ⟨.deleteReaction k, (w.delete s k).1⟩) (w.delete s k).2 := by
  rcases delete_cases w s k with ⟨t, seen, deleted⟩ | ⟨e, failed⟩
  · rw [deleted]
    have stored := own_write w s (t.deleteWhere (StoredReaction.hasKey k)).1
    by_cases held : t.Holds k
    · have some : ((t.deleteWhere (StoredReaction.hasKey k)).2 : Int) ≠ 0 :=
        Int.natCast_ne_zero.mpr ((t.count_ne_zero_iff k).mpr held)
      rw [Progress.step, if_neg some]
      refine ⟨reached.pending, ?_, fun none => by simp at none⟩
      rw [← List.append_assoc]
      exact reached.balanced.write seen (Deed.explain_delete held) stored rfl
    · have none : ((t.deleteWhere (StoredReaction.hasKey k)).2 : Int) = 0 := by
        by_contra some
        exact held ((t.count_ne_zero_iff k).mp (Int.natCast_ne_zero.mp some))
      rw [Progress.step, if_pos none]
      have rows := Deed.rows_of_deleteWhere held
      refine ⟨reached.pending, ?_, fun none => ?_⟩
      · rw [← List.append_nil (deeds ++ p.deeds)]
        exact reached.balanced.write seen (Deed.explain_nil rows) stored rfl
      · exact (reached.retained none).write seen rows stored rfl
  · rw [failed]
    exact reached

theorem Reached.flush (reached : Reached s base deeds p w) (sound : w.failed s = none)
    (still : (w.flush s).2.failed s = none) :
    Reached s base deeds (p.step ⟨.flush, (w.flush s).1⟩) (w.flush s).2 := by
  obtain ⟨quiet, idle⟩ | ⟨t, t', queued, seen, stored, flushed⟩ | ⟨e, refused⟩ :=
    flush_outcomes sound
  · rw [idle]
    have same : p.step ⟨.flush, .ok ()⟩ = p := by
      obtain ⟨pending, deeds⟩ := p
      obtain rfl : pending = [] := reached.pending.symm.trans quiet
      simp [Progress.step]
    exact same.symm ▸ reached
  · rw [flushed]
    rw [reached.pending] at stored queued
    refine ⟨by simp [Progress.step], ?_, fun none => ?_⟩
    · rw [Progress.step, ← List.append_assoc]
      exact reached.balanced.write seen (Deed.explain_insertAll stored)
        (own_write (w.setPending s []) s t') rfl
    · have stored : p.deeds ++ p.pending.map Deed.reacted = [] := none
      exact absurd (List.map_eq_nil_iff.mp (List.append_eq_nil_iff.mp stored).2) queued
  · simp [refused, failFlush] at still

theorem failed_of_failed_reply {c : Call} (other : c ≠ .rollback)
    (sound : (w.reply s c).2.failed s = none) : w.failed s = none := by
  cases c with
  | deleteReaction k =>
    rcases delete_cases w s k with ⟨t, -, deleted⟩ | ⟨e, failed⟩
    · simpa only [reply, deleted] using sound
    · simpa only [reply, failed] using sound
  | flush =>
    cases failed : w.failed s with
    | none => rfl
    | some e =>
      rw [reply] at sound
      unfold flush at sound
      simp only [failed] at sound
      split at sound
      · exact failed.symm.trans sound
      · exact failed.symm.trans sound
  | rollback => exact absurd rfl other
  | _ => exact sound

def left {α : Type} (c : Call) (none earlier : α) : α :=
  if c = .rollback then none else earlier

theorem reached_reply (reached : w.failed s = none → Reached s base deeds p w) (c : Call)
    (sound : (w.reply s c).2.failed s = none) :
    Reached s (left c none base) (left c [] deeds) (p.step ⟨c, (w.reply s c).1⟩)
      (w.reply s c).2 := by
  by_cases back : c = .rollback
  · subst back
    exact reached_rollback w s
  · have before := failed_of_failed_reply back sound
    have reached := reached before
    rw [left, left, if_neg back, if_neg back]
    cases c with
    | add k => exact reached.add k
    | deleteReaction k => exact reached.delete k
    | flush => exact reached.flush before sound
    | rollback => exact absurd rfl back
    | userKnown user =>
      simp only [reply]
      cases Except.map (fun t : Tables => t.knows user) (w.tables s noUsers) <;> exact reached
    | findReaction k =>
      simp only [reply]
      cases (w.tables s noReactions).bind fun t => t.find k <;> exact reached
    | joinedRows conditions =>
      simp only [reply]
      cases (w.tables s noReactions).bind fun t => t.joined conditions <;> exact reached
    | refresh k =>
      simp only [reply]
      cases w.refresh s k <;> exact reached

end World

end ReactionLedger
