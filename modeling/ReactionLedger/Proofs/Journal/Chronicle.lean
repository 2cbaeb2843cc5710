import Mathlib.Logic.Function.Basic
import ReactionLedger.Proofs.Journal.Holdings

/-!
Histories with what their calls have recorded.  A call takes effect when it ended well and its
session then commits before it rolls back.
-/

set_option autoImplicit false

namespace ReactionLedger

open Function (update)
open Scenario (EndMethod)
open Service (Answer Job)

structure Dialogue where
  job : Job
  -- the world when the call began
  before : World
  exchanges : List Exchange
  journal : Journal

namespace Dialogue

def deed? (d : Dialogue) : Option Deed := d.job.deed?.filter fun deed => deed.entry ∈ d.journal

def rolledBack (d : Dialogue) : Bool := d.exchanges.any fun x => x.1 = .rollback

def base (d : Dialogue) (s : SessionName) : Option Tables :=
  if d.rolledBack then none else d.before.own s

def exchange (d : Dialogue) (x : Exchange) : Dialogue := { d with exchanges := d.exchanges ++ [x] }

def record (d : Dialogue) (journal : Journal) : Dialogue :=
  { d with journal := d.journal ++ journal }

end Dialogue

structure Finished extends Dialogue where
  session : SessionName
  outcome : Except Failure Answer
  after : World

structure Chronicle where
  system : System
  -- the calls under way
  calls : SessionName → Option Dialogue
  -- the calls that ended well since a session has last committed or rolled back
  transaction : SessionName → List Dialogue
  -- the calls that took effect, in the order of the commits
  effective : List Dialogue
  finished : List Finished

namespace Chronicle

def start : Chronicle := ⟨.initial, fun _ => none, fun _ => [], [], []⟩

def enter (h : Chronicle) (s : SessionName) (d : Dialogue) (turn : Turn) : Chronicle :=
  let d := d.record turn.journal
  match turn.returned with
  | none => { h with system := turn.system, calls := update h.calls s (some d) }
  | some r =>
    { h with
      system := turn.system
      calls := update h.calls s none
      transaction := update h.transaction s (h.transaction s ++ if r.outcome.isOk then [d] else [])
      finished := h.finished ++ [⟨d, s, r.outcome, turn.system.world⟩] }

def forget (h : Chronicle) (s : SessionName) : Chronicle :=
  { h with transaction := update h.transaction s [] }

def heed (h : Chronicle) (s : SessionName) (c : Call) : Chronicle :=
  if c = .rollback then h.forget s else h

def settle (h : Chronicle) (s : SessionName) : EndMethod → Chronicle
  | .commit =>
    match h.system.world.commit s with
    | (.ok (), _) => { h.forget s with effective := h.effective ++ h.transaction s }
    | (.error _, _) => h
  | .rollback | .close => h.forget s

def track (h : Chronicle) (e : Event) : Chronicle :=
  { h with system := (h.system.step e).system }

def step (h : Chronicle) (e : Event) : Chronicle :=
  match e with
  | .start s job =>
    match h.system.threads s with
    | none => h.enter s ⟨job, h.system.world, [], []⟩ (h.system.step e)
    | some _ => h.track e
  | .proceed s =>
    match h.system.threads s, h.calls s with
    | some ⟨_, .call c _⟩, some d =>
      (h.heed s c).enter s (d.exchange ⟨c, (h.system.world.reply s c).1⟩) (h.system.step e)
    | _, _ => h.track e
  | .settle s how => if (h.system.threads s).isNone then (h.settle s how).track e else h.track e
  | .directory .. | .task _ => h.track e

def after (h : Chronicle) (events : List Event) : Chronicle := events.foldl step h

theorem after_concat (h : Chronicle) (events : List Event) (e : Event) :
    h.after (events ++ [e]) = (h.after events).step e := List.foldl_append

variable {h : Chronicle} {s : SessionName} {job : Job}

@[simp]
theorem system_enter (h : Chronicle) (s : SessionName) (d : Dialogue) (turn : Turn) :
    (h.enter s d turn).system = turn.system := by
  unfold enter
  dsimp only
  split <;> rfl

@[simp]
theorem effective_enter (h : Chronicle) (s : SessionName) (d : Dialogue) (turn : Turn) :
    (h.enter s d turn).effective = h.effective := by
  unfold enter
  dsimp only
  split <;> rfl

@[simp]
theorem system_heed (h : Chronicle) (s : SessionName) (c : Call) :
    (h.heed s c).system = h.system := by
  unfold heed
  split <;> rfl

@[simp]
theorem effective_heed (h : Chronicle) (s : SessionName) (c : Call) :
    (h.heed s c).effective = h.effective := by
  unfold heed
  split <;> rfl

@[simp]
theorem finished_heed (h : Chronicle) (s : SessionName) (c : Call) :
    (h.heed s c).finished = h.finished := by
  unfold heed
  split <;> rfl

@[simp]
theorem system_settle (h : Chronicle) (s : SessionName) (how : EndMethod) :
    (h.settle s how).system = h.system := by
  unfold settle
  split
  · split <;> rfl
  · rfl
  · rfl

theorem system_step (h : Chronicle) (e : Event) :
    (h.step e).system = (h.system.step e).system := by
  unfold step
  split
  · split
    · exact system_enter ..
    · rfl
  · split
    · exact system_enter ..
    · rfl
  · split
    · exact congrArg (fun σ => (System.step σ _).system) (system_settle ..)
    · rfl
  · rfl
  · rfl

theorem system_after (events : List Event) :
    (start.after events).system = System.initial.after events := by
  induction events using List.reverseRecOn with
  | nil => rfl
  | append_singleton events e ih =>
    rw [after_concat, system_step, ih, System.after, System.after, List.foldl_append]
    rfl

def EndedWell (h : Chronicle) (d : Dialogue) : Prop :=
  ∃ f ∈ h.finished, f.toDialogue = d ∧ ∃ a, f.outcome = .ok a

structure Sourced (h : Chronicle) : Prop where
  transaction : ∀ s, ∀ d ∈ h.transaction s, h.EndedWell d
  effective : ∀ d ∈ h.effective, h.EndedWell d

theorem Sourced.forget (sourced : Sourced h) (s : SessionName) : Sourced (h.forget s) where
  transaction r d mem := by
    by_cases own : r = s
    · simp [Chronicle.forget, own] at mem
    · exact sourced.transaction r d (by simpa [Chronicle.forget, own] using mem)
  effective := sourced.effective

theorem Sourced.heed (sourced : Sourced h) (s : SessionName) (c : Call) :
    Sourced (h.heed s c) := by
  unfold Chronicle.heed
  split
  · exact sourced.forget s
  · exact sourced

theorem Sourced.settle (sourced : Sourced h) (s : SessionName) (how : EndMethod) :
    Sourced (h.settle s how) := by
  unfold Chronicle.settle
  split
  · split
    · refine ⟨(sourced.forget s).transaction, fun d mem => ?_⟩
      rcases List.mem_append.mp mem with old | new
      · exact sourced.effective d old
      · exact sourced.transaction s d new
    · exact sourced
  · exact sourced.forget s
  · exact sourced.forget s

theorem Sourced.enter (sourced : Sourced h) (s : SessionName) (d : Dialogue) (turn : Turn) :
    Sourced (h.enter s d turn) := by
  unfold Chronicle.enter
  dsimp only
  split
  · exact ⟨sourced.transaction, sourced.effective⟩
  next r returned =>
    have kept {d' : Dialogue} {f : Finished} (ended : h.EndedWell d') :
        ∃ g ∈ h.finished ++ [f], g.toDialogue = d' ∧ ∃ a, g.outcome = .ok a := by
      obtain ⟨g, mem, same, done⟩ := ended
      exact ⟨g, List.mem_append_left _ mem, same, done⟩
    refine ⟨fun q d' mem => ?_, fun d' mem => kept (sourced.effective d' mem)⟩
    by_cases own : q = s
    · subst own
      simp only [Function.update_self, List.mem_append] at mem
      rcases mem with old | new
      · exact kept (sourced.transaction q d' old)
      · split at new
        next done =>
          obtain rfl := List.mem_singleton.mp new
          refine ⟨_, List.mem_append_right _ List.mem_cons_self, rfl, ?_⟩
          cases outcome : r.outcome with
          | ok a => exact ⟨a, rfl⟩
          | error e => simp [outcome, Except.isOk, Except.toBool] at done
        next => cases new
    · simp only [Function.update_of_ne own] at mem
      exact kept (sourced.transaction q d' mem)

theorem Sourced.step (sourced : Sourced h) (e : Event) : Sourced (h.step e) := by
  have tracked {h : Chronicle} (sourced : Sourced h) (e : Event) : Sourced (h.track e) :=
    ⟨sourced.transaction, sourced.effective⟩
  unfold Chronicle.step
  split
  · split
    · exact sourced.enter ..
    · exact tracked sourced _
  · split
    · exact (sourced.heed ..).enter ..
    · exact tracked sourced _
  · split
    · exact tracked (sourced.settle ..) _
    · exact tracked sourced _
  · exact tracked sourced _
  · exact tracked sourced _

theorem sourced_after (events : List Event) : Sourced (start.after events) := by
  induction events using List.reverseRecOn with
  | nil => exact ⟨fun s => nofun, nofun⟩
  | append_singleton events e ih =>
    rw [after_concat]
    exact ih.step e

theorem track_still {e : Event} (still : (h.system.step e).system = h.system) : h.track e = h := by
  rw [track, still]

theorem step_start (free : h.system.threads s = none) :
    h.step (.start s job) =
      h.enter s ⟨job, h.system.world, [], []⟩ (h.system.resume s job job.program) := by
  simp [step, System.step, free]

theorem step_start_busy {thread : Thread} (busy : h.system.threads s = some thread) :
    h.step (.start s job) = h := by
  have still : (h.system.step (.start s job)).system = h.system := by
    simp [System.step, busy, System.still]
  simp [step, busy, track_still still]

theorem step_proceed {c : Call} {next : Except Failure c.Reply → Program Answer} {d : Dialogue}
    (active : h.system.threads s = some ⟨job, .call c next⟩) (call : h.calls s = some d) :
    let reply := h.system.world.reply s c
    h.step (.proceed s) = (h.heed s c).enter s (d.exchange ⟨c, reply.1⟩)
      (System.resume { h.system with world := reply.2 } s job (next reply.1)) := by
  simp [step, System.step, active, call]

theorem step_proceed_idle
    (idle : ∀ job c next, h.system.threads s ≠ some ⟨job, .call c next⟩) :
    h.step (.proceed s) = h := by
  have still : (h.system.step (.proceed s)).system = h.system := by
    unfold System.step
    dsimp only
    split
    next active => exact absurd active (idle _ _ _)
    next => rfl
  unfold step
  dsimp only
  split
  next active _ => exact absurd active (idle _ _ _)
  next => exact track_still still

theorem step_settle {how : EndMethod} (free : h.system.threads s = none) :
    h.step (.settle s how) =
      { h.settle s how with
        system := { h.system with world := (Move.settle s how).play h.system.world } } := by
  simp [step, track, System.step, System.move, System.still, free]

theorem step_settle_busy {how : EndMethod} {thread : Thread}
    (busy : h.system.threads s = some thread) : h.step (.settle s how) = h := by
  simp [step, track, System.step, System.still, busy]

theorem step_directory {change : Directory.Change} (free : h.system.threads s = none) :
    h.step (.directory s change) =
      { h with
        system := { h.system with world := (Move.directory s change).play h.system.world } } := by
  simp [step, track, System.step, System.move, System.still, free]

theorem step_directory_busy {change : Directory.Change} {thread : Thread}
    (busy : h.system.threads s = some thread) : h.step (.directory s change) = h := by
  simp [step, track, System.step, System.still, busy]

end Chronicle

end ReactionLedger
