import ReactionLedger.Proofs.Store.Changes

set_option autoImplicit false

namespace ReactionLedger

open Relation (ReflTransGen)

namespace World

def Reachable (w : World) : Prop := ∃ moves, w = initial.after moves

theorem after_append (w : World) (first second : List Move) :
    w.after (first ++ second) = (w.after first).after second := List.foldl_append

theorem Reachable.play {w : World} (reached : w.Reachable) (m : Move) : (m.play w).Reachable := by
  obtain ⟨moves, rfl⟩ := reached
  exact ⟨moves ++ [m], by simp [after]⟩

theorem Reachable.after {w : World} (reached : w.Reachable) (moves : List Move) :
    (w.after moves).Reachable := by
  obtain ⟨earlier, rfl⟩ := reached
  exact ⟨earlier ++ moves, (after_append _ _ _).symm⟩

structure Everywhere (P : Tables → Prop) (w : World) : Prop where
  committed : ∀ t, w.committed = some t → P t
  written : ∀ s t, w.writer = some (s, t) → P t

theorem Everywhere.view {P : Tables → Prop} {w : World} {s : SessionName} {t : Tables}
    (held : w.Everywhere P) (seen : w.view s = some t) : P t := by
  rcases view_cases seen with own | stored
  · exact held.written s t own
  · exact held.committed t stored

theorem Everywhere.discard {P : Tables → Prop} {w : World} (held : w.Everywhere P)
    (s : SessionName) : (w.discard s).Everywhere P where
  committed t stored := held.committed t (by simpa using stored)
  written r t own := by
    rw [writer_discard] at own
    exact held.written r t (Option.filter_eq_some_iff.mp own).1

theorem Everywhere.change {P : Tables → Prop} {w w' : World} {actor : Option SessionName}
    (edited : ∀ t t', Tables.Edit t t' → P t → P t') (held : w.Everywhere P)
    (change : Change w actor w') : w'.Everywhere P := by
  cases change with
  | queue s keys => exact ⟨held.committed, held.written⟩
  | @edit s t t' seen free edits =>
    have after : P t' := by
      induction edits with
      | refl => exact held.view seen
      | tail _ last before => exact edited _ _ last before
    refine ⟨held.committed, fun r tables own => ?_⟩
    simp only [Option.some.injEq, Prod.mk.injEq] at own
    exact own.2 ▸ after
  | discard s => exact held.discard s
  | fail s e => exact ⟨held.committed, held.written⟩
  | publish own =>
    refine ⟨fun t stored => ?_, fun r t other => by simp at other⟩
    exact held.written _ t (Option.some.inj stored ▸ own)
  | owner stored idle edit =>
    refine ⟨fun t after => ?_, held.written⟩
    exact Option.some.inj after ▸ edited _ _ edit (held.committed _ stored)
  | tick shows => exact ⟨held.committed, held.written⟩

theorem Everywhere.upset {P : Tables → Prop} {w w' : World} (empty : P .empty)
    (inserted : ∀ t t' d row, t.insert d = .ok (t', row) → P t → P t') (held : w.Everywhere P)
    (upset : Upset w w') : w'.Everywhere P := by
  cases upset with
  | row stored idle insertion =>
    refine ⟨fun t after => ?_, held.written⟩
    exact Option.some.inj after ▸ inserted _ _ _ _ insertion (held.committed _ stored)
  | create missing => exact ⟨fun t after => Option.some.inj after ▸ empty, held.written⟩
  | drop idle => exact ⟨fun t after => by simp at after, held.written⟩
  | clock now => exact ⟨held.committed, held.written⟩

structure KeysUnique (w : World) : Prop where
  committed : ∀ t, w.committed = some t → t.KeysUnique
  written : ∀ s t, w.writer = some (s, t) → t.KeysUnique

theorem KeysUnique.everywhere {w : World} (unique : w.KeysUnique) :
    w.Everywhere Tables.KeysUnique := ⟨unique.committed, unique.written⟩

theorem KeysUnique.view {w : World} (unique : w.KeysUnique) {s : SessionName} {t : Tables}
    (seen : w.view s = some t) : t.KeysUnique := unique.everywhere.view seen

theorem KeysUnique.change {w w' : World} {actor : Option SessionName} (unique : w.KeysUnique)
    (change : Change w actor w') : w'.KeysUnique := by
  have after := unique.everywhere.change (fun _ _ edit unique => unique.edit edit) change
  exact ⟨after.committed, after.written⟩

theorem KeysUnique.upset {w w' : World} (unique : w.KeysUnique) (upset : Upset w w') :
    w'.KeysUnique := by
  have after := unique.everywhere.upset List.nodup_nil (fun t t' d row insertion unique => by
    obtain ⟨rfl, -, -, -, -, -, new⟩ := Tables.insert_inv insertion
    exact unique.append new) upset
  exact ⟨after.committed, after.written⟩

def WritesReadable (w : World) : Prop :=
  ∀ s t, w.writer = some (s, t) →
    ∃ c, w.committed = some c ∧ ∀ r ∈ t.reactions, r ∈ c.reactions ∨ r.Readable

theorem WritesReadable.view {w : World} (readable : w.WritesReadable) {s : SessionName} {t : Tables}
    (seen : w.view s = some t) :
    ∃ c, w.committed = some c ∧ ∀ r ∈ t.reactions, r ∈ c.reactions ∨ r.Readable := by
  rcases view_cases seen with own | stored
  · exact readable s t own
  · exact ⟨t, stored, fun r mem => .inl mem⟩

theorem WritesReadable.change {w w' : World} {actor : Option SessionName}
    (readable : w.WritesReadable) (change : Change w actor w') : w'.WritesReadable := by
  cases change with
  | queue s keys => exact readable
  | edit seen free edits =>
    intro r t own
    simp only [Option.some.injEq, Prod.mk.injEq] at own
    obtain ⟨c, stored, before⟩ := readable.view seen
    refine ⟨c, stored, fun q mem => ?_⟩
    rcases Tables.readable_of_edits edits q (own.2 ▸ mem) with old | new
    · exact before q old
    · exact .inr new
  | discard s =>
    intro r t own
    rw [writer_discard] at own
    simpa using readable r t (Option.filter_eq_some_iff.mp own).1
  | fail s e => exact readable
  | publish own => exact fun r t other => by simp at other
  | owner stored idle edit => exact fun r t own => by simp [idle] at own
  | tick shows => exact readable

theorem WritesReadable.upset {w w' : World} (readable : w.WritesReadable) (upset : Upset w w') :
    w'.WritesReadable := by
  cases upset with
  | row stored idle inserted => exact fun r t own => by simp [idle] at own
  | create missing =>
    intro r t own
    obtain ⟨c, stored, -⟩ := readable r t own
    simp [missing] at stored
  | drop idle => exact fun r t own => by simp [idle] at own
  | clock now => exact readable

theorem Reachable.invariant {P : World → Prop} (start : P initial)
    (change : ∀ w w' actor, P w → Change w actor w' → P w')
    (upset : ∀ w w', P w → Upset w w' → P w') {w : World} (reached : w.Reachable) : P w := by
  obtain ⟨moves, rfl⟩ := reached
  induction moves using List.reverseRecOn with
  | nil => exact start
  | append_singleton moves m ih =>
    rw [after_append]
    rcases m.play_upsets (initial.after moves) with changes | one
    · have along : ∀ w', Changes m.session? (initial.after moves) w' → P w' := by
        intro w' chain
        induction chain with
        | refl => exact ih
        | tail _ last before => exact change _ _ _ before last
      exact along _ changes
    · exact upset _ _ ih one

theorem Reachable.keysUnique {w : World} (reached : w.Reachable) : w.KeysUnique := by
  have start : initial.KeysUnique := by
    refine ⟨fun t stored => ?_, fun s t own => by simp [initial] at own⟩
    rw [← Option.some.inj stored]
    exact List.nodup_nil
  exact reached.invariant start (fun _ _ _ unique change => unique.change change)
    fun _ _ unique upset => unique.upset upset

theorem Reachable.ordered {w : World} (reached : w.Reachable) : w.Everywhere Tables.Ordered := by
  have start : initial.Everywhere Tables.Ordered := by
    refine ⟨fun t stored => ?_, fun s t own => by simp [initial] at own⟩
    exact Option.some.inj stored ▸ Tables.ordered_empty
  refine reached.invariant start
    (fun _ _ _ held change => held.change (fun _ _ edit ordered => ordered.edit edit) change)
    fun _ _ held upset => held.upset Tables.ordered_empty (fun t t' d row insertion ordered => ?_)
      upset
  obtain ⟨rfl, number, -⟩ := Tables.insert_inv insertion
  exact ordered.append number

theorem Reachable.writesReadable {w : World} (reached : w.Reachable) : w.WritesReadable :=
  reached.invariant (fun s t own => by simp [initial] at own)
    (fun _ _ _ readable change => readable.change change)
    fun _ _ readable upset => readable.upset upset

structure Spares (s : SessionName) (w w' : World) : Prop where
  pending : w'.pending s = w.pending s
  failed : w'.failed s = w.failed s
  writer : ∀ t, w'.writer = some (s, t) ↔ w.writer = some (s, t)
  committed : ∀ t, w.writer = some (s, t) → w'.committed = w.committed

theorem Spares.refl (s : SessionName) (w : World) : Spares s w w :=
  ⟨rfl, rfl, fun _ => Iff.rfl, fun _ _ => rfl⟩

theorem Spares.trans {s : SessionName} {w₁ w₂ w₃ : World} (first : Spares s w₁ w₂)
    (second : Spares s w₂ w₃) : Spares s w₁ w₃ where
  pending := second.pending.trans first.pending
  failed := second.failed.trans first.failed
  writer t := (second.writer t).trans (first.writer t)
  committed t own := (second.committed t ((first.writer t).mpr own)).trans (first.committed t own)

theorem Change.spares {w w' : World} {actor : Option SessionName} {s : SessionName}
    (change : Change w actor w') (other : actor ≠ some s) : Spares s w w' := by
  cases change with
  | queue r keys =>
    have ne : s ≠ r := fun same => other (congrArg some same.symm)
    exact ⟨by simp [ne], rfl, fun _ => Iff.rfl, fun _ _ => rfl⟩
  | @edit r t t' seen free edits =>
    have ne : r ≠ s := fun same => other (congrArg some same)
    have away : ∀ tables, w.writer ≠ some (s, tables) := by
      intro tables own
      simp [mayWrite, own, ne.symm] at free
    refine ⟨rfl, rfl, fun tables => ?_, fun tables own => absurd own (away tables)⟩
    simp [ne, away tables]
  | discard r =>
    have ne : s ≠ r := fun same => other (congrArg some same.symm)
    exact ⟨by simp [ne], by simp [ne], fun t => writer_discard_of_ne w r s ne, fun _ _ => by simp⟩
  | fail r e =>
    have ne : s ≠ r := fun same => other (congrArg some same.symm)
    exact ⟨rfl, by simp [ne], fun _ => Iff.rfl, fun _ _ => rfl⟩
  | @publish r t own =>
    have ne : r ≠ s := fun same => other (congrArg some same)
    refine ⟨rfl, rfl, fun tables => ?_, fun tables mine => ?_⟩
    · simp [own, ne]
    · simp [own, ne] at mine
  | owner stored idle edit =>
    exact ⟨rfl, rfl, fun _ => Iff.rfl, fun t own => by simp [idle] at own⟩
  | tick shows => exact ⟨rfl, rfl, fun _ => Iff.rfl, fun _ _ => rfl⟩

theorem Upset.spares {w w' : World} (upset : Upset w w') (readable : w.WritesReadable)
    (s : SessionName) : Spares s w w' := by
  cases upset with
  | row stored idle inserted =>
    exact ⟨rfl, rfl, fun _ => Iff.rfl, fun t own => by simp [idle] at own⟩
  | create missing =>
    refine ⟨rfl, rfl, fun _ => Iff.rfl, fun t own => ?_⟩
    obtain ⟨c, stored, -⟩ := readable s t own
    simp [missing] at stored
  | drop idle => exact ⟨rfl, rfl, fun _ => Iff.rfl, fun t own => by simp [idle] at own⟩
  | clock now => exact ⟨rfl, rfl, fun _ => Iff.rfl, fun _ _ => rfl⟩

theorem Changes.spares {w w' : World} {actor : Option SessionName} {s : SessionName}
    (changes : Changes actor w w') (other : actor ≠ some s) : Spares s w w' := by
  induction changes with
  | refl => exact .refl s w
  | tail _ last before => exact before.trans (last.spares other)

end World

theorem Move.play_spares {m : Move} {w : World} {s : SessionName} (reached : w.Reachable)
    (other : m.session? ≠ some s) : World.Spares s w (m.play w) := by
  rcases m.play_upsets w with changes | upset
  · exact changes.spares other
  · exact upset.spares reached.writesReadable s

theorem Move.play_spares_others {m : Move} {w : World} {s r : SessionName} (reached : w.Reachable)
    (actor : m.session? = some s) (other : r ≠ s) : World.Spares r w (m.play w) :=
  play_spares reached fun same => other (Option.some.inj (same.symm.trans actor))

end ReactionLedger
