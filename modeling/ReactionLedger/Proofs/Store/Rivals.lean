import ReactionLedger.Proofs.Store.Order
import ReactionLedger.Store.Scenario

set_option autoImplicit false

namespace ReactionLedger

namespace World

def Unchanged (w : World) (s : SessionName) : Prop :=
  ∀ t, w.writer = some (s, t) → w.committed = some t

structure Clean (w : World) (s : SessionName) : Prop where
  pending : w.pending s = []
  failed : w.failed s = none
  unchanged : w.Unchanged s

def HeldByRival (w : World) (s : SessionName) : Prop := ∃ r t, w.writer = some (r, t) ∧ r ≠ s

def Rivals (s : SessionName) (w w' : World) : Prop :=
  ∃ moves : List Move, (∀ m ∈ moves, m.Orderly ∧ m.session? ≠ some s) ∧ w' = w.after moves

variable {s r : SessionName} {w w' w₁ w₂ w₃ : World} {t : Tables}

theorem Rivals.refl (s : SessionName) (w : World) : Rivals s w w := ⟨[], by simp, rfl⟩

theorem Rivals.head {m : Move} (orderly : m.Orderly) (other : m.session? ≠ some s)
    (rest : Rivals s (m.play w) w') : Rivals s w w' := by
  obtain ⟨moves, allowed, rfl⟩ := rest
  refine ⟨m :: moves, fun m' mem => ?_, rfl⟩
  rcases List.mem_cons.mp mem with rfl | later
  · exact ⟨orderly, other⟩
  · exact allowed m' later

theorem Rivals.trans (first : Rivals s w₁ w₂) (second : Rivals s w₂ w₃) : Rivals s w₁ w₃ := by
  obtain ⟨moves, allowed, rfl⟩ := first
  induction moves generalizing w₁ with
  | nil => exact second
  | cons m moves ih =>
    obtain ⟨orderly, other⟩ := allowed m List.mem_cons_self
    exact .head orderly other (ih (fun m mem => allowed m (List.mem_cons_of_mem _ mem)) second)

theorem rivals_run {α : Type} (other : r ≠ s) (p : Program α) (w : World) :
    Rivals s w (p.run (perform r) w).state := by
  induction p generalizing w with
  | done outcome => exact .refl s w
  | note entry p ih => exact ih w
  | call c next ih =>
    refine .head (m := .call r c) trivial ?_ (ih _ _)
    simpa [Move.session?] using other

theorem Rivals.keeps {key : Key} (rivals : Rivals s w w') (order : InOrder key w) :
    InOrder key w' ∧ Spares s w w' := by
  obtain ⟨moves, allowed, rfl⟩ := rivals
  induction moves generalizing w with
  | nil => exact ⟨order, .refl s w⟩
  | cons m moves ih =>
    obtain ⟨orderly, other⟩ := allowed m List.mem_cons_self
    have spared := Move.play_spares order.reached other
    obtain ⟨later, rest⟩ :=
      ih (order.play orderly) fun m mem => allowed m (List.mem_cons_of_mem _ mem)
    exact ⟨later, spared.trans rest⟩

theorem Spares.unchanged (spared : Spares s w w') (unchanged : w.Unchanged s) :
    w'.Unchanged s := by
  intro t own
  have before := (spared.writer t).mp own
  exact (spared.committed t before).trans (unchanged t before)

theorem Spares.clean (spared : Spares s w w') (clean : w.Clean s) : w'.Clean s where
  pending := spared.pending.trans clean.pending
  failed := spared.failed.trans clean.failed
  unchanged := spared.unchanged clean.unchanged

theorem clean_discard (w : World) (s : SessionName) : (w.discard s).Clean s where
  pending := by simp
  failed := by simp
  unchanged t own := absurd own (not_writer_discard w s t)

theorem Unchanged.view (unchanged : w.Unchanged s) : w.view s = w.committed := by
  by_cases own : ∃ t, w.writer = some (s, t)
  · obtain ⟨t, own⟩ := own
    rw [view_of_writer own, unchanged t own]
  · exact view_of_not_writer (not_exists.mp own)

theorem Clean.tables (clean : w.Clean s)
    (stored : w.committed = some t) (missing : Failure) : w.tables s missing = .ok t :=
  tables_of_view (clean.unchanged.view.trans stored) clean.failed

end World

namespace Scenario

def Step.Rival (s : SessionName) : Step → Prop
  | .call (some name) _ | .settle (some name) _ => SessionName.named name ≠ s
  | .task t => (Move.task t).Orderly
  | _ => False

theorem Step.Rival.play {s : SessionName} {step : Step} (rival : step.Rival s) (depth : Nat)
    (unnamed : SessionName) (w : World) : World.Rivals s w (play depth unnamed step w).world := by
  cases step with
  | call name request =>
    cases name with
    | none => exact rival.elim
    | some name =>
      simp only [Scenario.play]
      exact World.rivals_run rival _ w
  | settle name how =>
    cases name with
    | none => exact rival.elim
    | some name =>
      simp only [Scenario.play]
      have other : SessionName.named name ≠ s := rival
      refine .head (m := .settle (.named name) how) trivial ?_ (.refl s _)
      simpa [Move.session?] using other
  | task t =>
    simp only [Scenario.play]
    exact .head (m := .task t) rival (by simp [Move.session?]) (.refl s _)
  | contested => exact rival.elim
  | unit => exact rival.elim

theorem rivals_playAll {s : SessionName} {steps : List Step} (rival : ∀ step ∈ steps, step.Rival s)
    (depth : Nat) (unnamed : SessionName) (w : World) :
    World.Rivals s w (playAll depth unnamed steps w).world := by
  induction steps generalizing w with
  | nil =>
    simp only [playAll]
    exact .refl s w
  | cons step steps ih =>
    simp only [playAll]
    have first := (rival step List.mem_cons_self).play depth unnamed w
    exact first.trans (ih (fun step mem => rival step (List.mem_cons_of_mem _ mem)) _)

end Scenario

end ReactionLedger
