import ReactionLedger.Proofs.Concurrency.Sound
import ReactionLedger.Proofs.Journal.Honesty
import ReactionLedger.Proofs.UnitOfWork

set_option autoImplicit false

namespace ReactionLedger

open Dialogue (deeds deeds_append)
open Function (update)
open Scenario (EndMethod)
open Service (Answer Job Vain infos)

namespace Event

def LeavesRows (e : Event) : Prop := e.Orderly ∧ ∀ id, e ≠ .task (.deleteReaction id)

end Event

namespace Task

theorem rows_of_run {t : Task} (leaves : (Event.task t).LeavesRows) {w : World} {c : Tables}
    (stored : w.committed = some c) :
    ∃ c', (t.run w).2.committed = some c' ∧ c'.reactions = c.reactions := by
  have changed (missing : Failure) (number : Option Cell)
      (f : Tables → Except Failure (Tables × Result))
      (rows : ∀ t t' result, f t = .ok (t', result) → t'.reactions = t.reactions) :
      ∃ c', (change w missing number f).2.committed = some c' ∧ c'.reactions = c.reactions := by
    rcases change_cases w missing number f with same | ⟨t, t', result, before, -, made, after⟩
    · rw [same]
      exact ⟨c, stored, rfl⟩
    · obtain rfl := Option.some.inj (before.symm.trans stored)
      exact ⟨t', by rw [after], rows t t' result made⟩
  obtain ⟨orderly, kept⟩ := leaves
  cases t with
  | putUser id name =>
    refine changed _ _ _ fun t t' result made => ?_
    rcases id with _ | id <;> rcases name with _ | name <;> simp [replaceUser] at made
    rw [← made.1]
  | dropUser id =>
    refine changed _ _ _ fun t t' result made => ?_
    rw [← (Prod.mk.inj (Except.ok.inj made)).1]
  | deleteReaction id => exact absurd rfl (kept id)
  | dump => exact ⟨c, by simp [run, stored], rfl⟩
  | setClock now => exact ⟨c, stored, rfl⟩
  | seed => exact orderly.elim
  | insert => exact orderly.elim
  | createTables => exact orderly.elim
  | dropTables => exact orderly.elim

end Task

namespace System

structure Tidy (σ : System) : Prop where
  reached : σ.world.Reachable
  timely : σ.world.Timely
  inPlace : σ.world.InPlace
  quiet : ∀ s, σ.threads s = none → σ.world.pending s = []
  sound : ∀ s, σ.threads s = none → σ.world.failed s = none

theorem tidy_after {events : List Event} (orderly : ∀ e ∈ events, e.Orderly) :
    Tidy (initial.after events) where
  reached := (quiet_after (.unit 0) events).reached
  timely := timely_after fun e mem => (orderly e mem).tellsTime
  inPlace := inPlace_after orderly
  quiet s := (quiet_after s events).free
  sound _ := sound_after orderly

end System

namespace Chronicle

structure Tells (s : SessionName) (h : Chronicle) : Prop where
  free : h.system.threads s = none → h.system.world.Balanced s (deeds (h.transaction s))
  busy : ∀ job rest, h.system.threads s = some ⟨job, rest⟩ → ∃ d, h.calls s = some d ∧
    Underway s (deeds (h.transaction s)) d rest h.system.world

structure Spares (s : SessionName) (h h' : Chronicle) : Prop where
  thread : h'.system.threads s = h.system.threads s
  call : h'.calls s = h.calls s
  transaction : h'.transaction s = h.transaction s
  world : World.Spares s h.system.world h'.system.world

structure Sums (h : Chronicle) : Prop where
  explained : ∃ c, h.system.world.committed = some c ∧
    Deed.Explain (deeds h.effective) .empty c
  honest : ∀ f ∈ h.finished, f.Honest

structure Faithful (h : Chronicle) : Prop extends Sums h where
  tells : ∀ s, Tells s h

variable {s r : SessionName} {h h' : Chronicle} {σ : System}

theorem Tells.spares (tells : Tells s h) (spared : Spares s h h') : Tells s h' where
  free free := by
    rw [spared.transaction]
    exact (tells.free (spared.thread.symm.trans free)).spares spared.world
  busy job rest active := by
    obtain ⟨d, call, underway⟩ := tells.busy job rest (spared.thread.symm.trans active)
    rw [spared.transaction]
    exact ⟨d, spared.call.trans call, underway.spares spared.world⟩

theorem enter_spares {d : Dialogue} {job : Job} {p : Program Answer} (other : r ≠ s)
    (thread : σ.threads r = h.system.threads r)
    (world : World.Spares r h.system.world σ.world) :
    Spares r h (h.enter s d (σ.resume s job p)) := by
  rcases System.resume_cases σ s job p with ⟨outcome, -, turn⟩ | ⟨-, turn⟩
  all_goals
    rw [turn]
    exact ⟨by simp [enter, System.setThread, other, thread], by simp [enter, other],
      by simp [enter, other], world⟩

theorem enter_tells {d : Dialogue} {job : Job} {p : Program Answer}
    (underway : Underway s (deeds (h.transaction s)) d p σ.world)
    (sound : (σ.resume s job p).system.threads s = none → σ.world.failed s = none)
    (honest : ∀ f ∈ h.finished, f.Honest) :
    Tells s (h.enter s d (σ.resume s job p)) ∧
      ∀ f ∈ (h.enter s d (σ.resume s job p)).finished, f.Honest := by
  have later := underway.ahead
  rcases System.resume_cases σ s job p with ⟨outcome, stopped, turn⟩ | ⟨-, turn⟩
  · rw [turn] at sound ⊢
    rw [stopped] at later
    obtain ⟨balanced, told⟩ := later.ended (sound (by simp [System.setThread]))
    refine ⟨⟨fun _ => ?_, fun job rest active => by simp [enter, System.setThread] at active⟩, ?_⟩
    · change σ.world.Balanced s (deeds (update h.transaction s _ s))
      rw [Function.update_self, deeds_append]
      exact balanced
    · intro f mem
      rcases List.mem_append.mp mem with old | new
      · exact honest f old
      · exact List.mem_singleton.mp new ▸ told
  · rw [turn]
    refine ⟨⟨fun free => by simp [enter, System.setThread] at free, fun job rest active => ?_⟩,
      honest⟩
    simp only [enter, System.setThread, if_true, Option.some.injEq, Thread.mk.injEq] at active
    obtain ⟨-, rfl⟩ := active
    exact ⟨_, Function.update_self .., later⟩

theorem enter_faithful {d : Dialogue} {job : Job} {p : Program Answer}
    (underway : Underway s (deeds (h.transaction s)) d p σ.world)
    (tidy : (σ.resume s job p).system.Tidy)
    (others : ∀ r, r ≠ s → Tells r h ∧ σ.threads r = h.system.threads r ∧
      World.Spares r h.system.world σ.world)
    (sums : Sums h) (same : σ.world.committed = h.system.world.committed) :
    Faithful (h.enter s d (σ.resume s job p)) := by
  have sound (free : (σ.resume s job p).system.threads s = none) : σ.world.failed s = none := by
    rw [← System.world_resume σ s job p]
    exact tidy.sound s free
  obtain ⟨tells, honest⟩ := enter_tells underway sound sums.honest
  refine ⟨⟨?_, honest⟩, fun r => ?_⟩
  · rw [system_enter, System.world_resume, same, effective_enter]
    exact sums.explained
  · by_cases own : r = s
    · exact own ▸ tells
    · obtain ⟨before, thread, world⟩ := others r own
      exact before.spares (enter_spares own thread world)

theorem deeds_heed (h : Chronicle) (s : SessionName) (c : Call) :
    deeds ((h.heed s c).transaction s) = World.left c [] (deeds (h.transaction s)) := by
  rw [heed, World.left]
  split
  · simp [forget, deeds]
  · rfl

theorem Sums.heed (sums : Sums h) (s : SessionName) (c : Call) : Sums (h.heed s c) where
  explained := by simpa using sums.explained
  honest := by simpa using sums.honest

theorem heed_spares (other : r ≠ s) (c : Call) : Spares r h (h.heed s c) := by
  rw [heed]
  split
  · exact ⟨rfl, rfl, by simp [forget, other], .refl ..⟩
  · exact ⟨rfl, rfl, rfl, .refl ..⟩

section Steps

variable (faithful : Faithful h) (tidy : h.system.Tidy)
include faithful tidy

theorem faithful_start {job : Job} (tidy' : (h.step (.start s job)).system.Tidy) :
    Faithful (h.step (.start s job)) := by
  cases active : h.system.threads s with
  | some thread => rwa [step_start_busy active]
  | none =>
    rw [step_start active, system_enter] at tidy'
    rw [step_start active]
    have underway := underway_start ((faithful.tells s).free active) (tidy.quiet s active) job
    exact enter_faithful underway tidy' (fun r _ => ⟨faithful.tells r, rfl, .refl ..⟩)
      faithful.toSums rfl

theorem faithful_proceed (tidy' : (h.step (.proceed s)).system.Tidy) :
    Faithful (h.step (.proceed s)) := by
  by_cases serving : ∃ job c next, h.system.threads s = some ⟨job, .call c next⟩
  · obtain ⟨job, c, next, active⟩ := serving
    obtain ⟨d, call, underway⟩ := (faithful.tells s).busy job _ active
    rw [step_proceed active call, system_enter] at tidy'
    rw [step_proceed active call]
    have exchanged := underway.exchange tidy.timely tidy.inPlace
    rw [← deeds_heed] at exchanged
    refine enter_faithful exchanged tidy' (fun r other => ⟨?_, ?_, ?_⟩) (faithful.heed s c) ?_
    · exact (faithful.tells r).spares (heed_spares other c)
    · rw [system_heed]
    · rw [system_heed]
      exact Move.play_spares_others (m := .call s c) tidy.reached rfl other
    · rw [system_heed]
      exact World.committed_reply ..
  · rwa [step_proceed_idle fun job c next active => serving ⟨job, c, next, active⟩]

omit tidy in
-- a session that has ended its transaction has nothing of its own left
theorem settled_faithful {w : World} {effective : List Dialogue}
    (free : h.system.threads s = none) (idle : w.own s = none)
    (spared : ∀ r, r ≠ s → World.Spares r h.system.world w)
    (explained : ∃ c, w.committed = some c ∧ Deed.Explain (deeds effective) .empty c) :
    Faithful { h.forget s with effective, system := { h.system with world := w } } := by
  refine ⟨⟨explained, faithful.honest⟩, fun r => ?_⟩
  by_cases own : r = s
  · subst own
    refine ⟨fun _ => ?_, fun job rest active => by cases free.symm.trans active⟩
    change w.Balanced r (deeds (update h.transaction r [] r))
    rw [Function.update_self]
    exact World.balanced_of_idle idle
  · exact (faithful.tells r).spares ⟨rfl, rfl, by simp [forget, own], spared r own⟩

theorem forgotten_faithful (free : h.system.threads s = none) :
    Faithful
      { h.forget s with system := { h.system with world := h.system.world.discard s } } := by
  refine settled_faithful faithful free (World.own_discard ..) (fun r other => ?_) ?_
  · exact Move.play_spares_others (m := .settle s .rollback) tidy.reached rfl other
  · rw [World.committed_discard]
    exact faithful.explained

theorem faithful_settle {how : EndMethod} : Faithful (h.step (.settle s how)) := by
  cases free : h.system.threads s with
  | some thread => rwa [step_settle_busy free]
  | none =>
    rw [step_settle free]
    cases how with
    | commit =>
      have done := World.commit_eq (tidy.quiet s free) (tidy.sound s free)
      have spared (r : SessionName) (other : r ≠ s) :=
        Move.play_spares_others (m := .settle s .commit) tidy.reached rfl other
      obtain ⟨t, seen⟩ := tidy.inPlace.exists_view s
      obtain ⟨c, committed, since⟩ := ((faithful.tells s).free free).view seen
      obtain ⟨c', same, before⟩ := faithful.explained
      obtain rfl := Option.some.inj (same.symm.trans committed)
      simp only [settle, Move.play, Scenario.settleSession, Scenario.ended, done] at spared ⊢
      refine settled_faithful faithful free (World.own_publish ..) spared ⟨t, ?_, ?_⟩
      · rw [World.committed_publish, seen]
      · rw [deeds_append]
        exact before.append since
    | rollback => exact forgotten_faithful faithful tidy free
    | close => exact forgotten_faithful faithful tidy free

theorem faithful_directory {change : Directory.Change} :
    Faithful (h.step (.directory s change)) := by
  cases free : h.system.threads s with
  | some thread => rwa [step_directory_busy free]
  | none =>
    rw [step_directory free]
    refine ⟨⟨?_, faithful.honest⟩, fun r => ?_⟩
    · change ∃ c, (h.system.world.changeDirectory s change).2.committed = some c ∧ _
      rw [World.committed_changeDirectory]
      exact faithful.explained
    · by_cases own : r = s
      · subst own
        refine ⟨fun _ => ?_, fun job rest active => by cases free.symm.trans active⟩
        exact ((faithful.tells r).free free).changeDirectory change
      · have spared := Move.play_spares_others (m := .directory s change) tidy.reached rfl own
        exact (faithful.tells r).spares ⟨rfl, rfl, rfl, spared⟩

theorem faithful_task {t : Task} (leaves : (Event.task t).LeavesRows) :
    Faithful (h.step (.task t)) := by
  obtain ⟨c, stored, before⟩ := faithful.explained
  obtain ⟨c', committed, rows⟩ := Task.rows_of_run leaves stored
  refine ⟨⟨⟨c', committed, ?_⟩, faithful.honest⟩, fun r => ?_⟩
  · rw [← List.append_nil (deeds _)]
    exact before.append (Deed.explain_nil rows)
  · have spared := Move.play_spares (s := r) tidy.reached (m := .task t) nofun
    exact (faithful.tells r).spares ⟨rfl, rfl, rfl, spared⟩

end Steps

theorem faithful_step (faithful : Faithful h) (tidy : h.system.Tidy) {e : Event}
    (tidy' : (h.step e).system.Tidy) (leaves : e.LeavesRows) : Faithful (h.step e) := by
  cases e with
  | start s job => exact faithful_start faithful tidy tidy'
  | proceed s => exact faithful_proceed faithful tidy tidy'
  | directory s change => exact faithful_directory faithful tidy
  | settle s how => exact faithful_settle faithful tidy
  | task t => exact faithful_task faithful tidy leaves

theorem start_faithful : Faithful start where
  explained := ⟨.empty, rfl, Deed.explain_nil rfl⟩
  honest f mem := absurd mem List.not_mem_nil
  tells s :=
    { free := fun _ => World.balanced_of_idle (w := .initial) rfl
      busy := fun job rest active => by
        have idle : start.system.threads s = none := rfl
        cases idle.symm.trans active }

theorem faithful_after {events : List Event} (leaves : ∀ e ∈ events, e.LeavesRows) :
    Faithful (start.after events) := by
  induction events using List.reverseRecOn with
  | nil => exact start_faithful
  | append_singleton events e ih =>
    have before : ∀ f ∈ events, f.LeavesRows := fun f mem => leaves f (List.mem_append_left _ mem)
    have tidy (events : List Event) (leaves : ∀ f ∈ events, f.LeavesRows) :
        (start.after events).system.Tidy := by
      rw [system_after]
      exact System.tidy_after fun f mem => (leaves f mem).1
    have tidy' := tidy _ leaves
    rw [after_concat] at tidy' ⊢
    exact faithful_step (ih before) (tidy _ before) tidy' (leaves e (by simp))

theorem committed_proceed (σ : System) (s : SessionName) :
    (σ.step (.proceed s)).system.world.committed = σ.world.committed := by
  unfold System.step
  dsimp only
  split
  next job c next active =>
    rw [System.world_resume]
    exact World.committed_reply ..
  next => rfl

/-- For each key the deeds that took effect alternate and balance with the committed rows, and a
call that recorded none has left its session's rows as they were. -/
theorem journal_accounts_for_rows (events : List Event) (leaves : ∀ e ∈ events, e.LeavesRows) :
    let h := start.after events
    h.system = System.initial.after events ∧
    (∃ t, h.system.world.committed = some t ∧
      ∀ key, Deed.Account (h.effective.filterMap Dialogue.deed?) t key) ∧
    (∀ d ∈ h.effective, h.EndedWell d) ∧
    (∀ f ∈ h.finished,
      (infos f.journal = [] ∨ ∃ deed a, f.job.deed? = some deed ∧ infos f.journal = [deed.entry] ∧
        f.outcome = .ok a) ∧
      ((∃ e, f.outcome = .error e) ∨ (∃ x ∈ f.exchanges, Vain x) → infos f.journal = []) ∧
      (infos f.journal = [] → f.after.Retains f.session (f.base f.session))) ∧
    ∀ s, (h.system.step (.proceed s)).system.world.committed = h.system.world.committed := by
  intro h
  have faithful := faithful_after leaves
  refine ⟨system_after events, ?_, (sourced_after events).effective, fun f mem => ?_,
    fun s => committed_proceed _ s⟩
  · obtain ⟨t, committed, explain⟩ := faithful.explained
    exact ⟨t, committed, explain.account⟩
  · have honest := faithful.honest f mem
    refine ⟨?_, ?_, honest.silent⟩
    · exact honest.records.imp_right fun ⟨deed, a, own, recorded, done, _⟩ =>
        ⟨deed, a, own, recorded, done⟩
    · intro idle
      rcases honest.records with quiet | ⟨deed, a, -, -, done, useful⟩
      · exact quiet
      · rcases idle with ⟨e, raised⟩ | ⟨x, made, vain⟩
        · cases done.symm.trans raised
        · exact absurd vain (useful x made)

namespace Recorded

def own : SessionName := .named "own"

def view : Option Uuid := some (.ofNat 1)

def comment : Option Uuid := some (.ofNat 2)

def key : Key := ⟨view, comment, "like", some "ann"⟩

def addition : List Event :=
  .start own (.add view comment "like" (some "ann")) :: List.replicate 5 (.proceed own)

def removal : List Event :=
  .start own (.remove view comment "like" (some "ann")) :: List.replicate 2 (.proceed own)

def history : List Event :=
  .task (.putUser (some "ann") (some "Ann")) :: addition ++ [.settle own .commit] ++
    removal ++ [.settle own .rollback] ++ addition ++ removal ++ [.settle own .commit]

theorem undone_removal_does_not_count :
    let h := start.after history
    h.effective.filterMap Dialogue.deed? = [.reacted key, .removed key] ∧
    h.effective.map (fun d => (infos d.journal).length) = [1, 0, 1] ∧
    h.system.world.committed = some ⟨[], [⟨"ann", "Ann"⟩]⟩ ∧
    Deed.Account [.reacted key, .removed key] ⟨[], [⟨"ann", "Ann"⟩]⟩ key ∧
    ∀ f ∈ h.finished, infos f.journal = [] → f.after.Retains f.session (f.base f.session) := by
  intro h
  have leaves : ∀ e ∈ history, e.LeavesRows := by
    simp [history, addition, removal, Event.LeavesRows, Event.Orderly, Move.Orderly,
      Move.KeepsTime]
  have told : h.effective.filterMap Dialogue.deed? = [.reacted key, .removed key] := by
    decide +kernel
  have committed : h.system.world.committed = some ⟨[], [⟨"ann", "Ann"⟩]⟩ := by decide +kernel
  obtain ⟨-, ⟨t, stored, account⟩, -, finished, -⟩ := journal_accounts_for_rows history leaves
  obtain rfl := Option.some.inj (stored.symm.trans committed)
  refine ⟨told, by decide +kernel, committed, ?_, fun f mem => (finished f mem).2.2⟩
  exact told ▸ account key

end Recorded

end Chronicle

end ReactionLedger
