import ReactionLedger.Proofs.Session.Paths
import ReactionLedger.Proofs.Store.Flushing
import ReactionLedger.Proofs.Store.Invariants
import ReactionLedger.Store.Interleaving

set_option autoImplicit false

namespace ReactionLedger

namespace World

variable (w : World) (s : SessionName)

theorem committed_flush : (w.flush s).2.committed = w.committed := by
  unfold flush
  split
  · rfl
  · split
    · rfl
    · simp [failFlush]
    · split
      · split <;> simp [write, failFlush]
      · simp [failFlush]

theorem committed_reply (c : Call) : (w.reply s c).2.committed = w.committed := by
  cases c with
  | deleteReaction k =>
    rcases delete_cases w s k with ⟨t, -, deleted⟩ | ⟨e, failed⟩
    · simp only [reply, deleted]
    · simp only [reply, failed]
  | flush => exact committed_flush w s
  | rollback => exact committed_discard w s
  | _ => rfl

theorem committed_changeDirectory (c : Directory.Change) :
    (w.changeDirectory s c).2.committed = w.committed := by
  unfold changeDirectory
  split
  · rfl
  · split
    · split <;> rfl
    · rfl

variable {w s}

theorem commit_cases (w : World) (s : SessionName) :
    (∃ w', w.commit s = (.ok (), w') ∧ w'.committed = (w.flush s).2.view s) ∨
    ∃ f w', w.commit s = (.error f, w') ∧ w'.committed = w.committed := by
  unfold commit
  split
  · exact .inr ⟨_, w, rfl, rfl⟩
  · split
    next flushed => exact .inl ⟨_, rfl, by rw [committed_publish, flushed]⟩
    next flushed => exact .inr ⟨_, _, rfl, by rw [← committed_flush w s, flushed]⟩

end World

theorem Move.committed_play {m : Move} {w : World} {s : SessionName} (own : m.session? = some s)
    (other : m ≠ .settle s .commit) : (m.play w).committed = w.committed := by
  cases m with
  | call r c => exact World.committed_reply w r c
  | directory r change => exact World.committed_changeDirectory w r change
  | settle r how =>
    obtain rfl : r = s := Option.some.inj own
    cases how with
    | commit => exact absurd rfl other
    | rollback => exact World.committed_discard w r
    | close => exact World.committed_discard w r
  | task t => cases own

namespace UnitOfWork

variable {σ : Type} {world : σ → World} {s : SessionName} {e : Ending σ}

/-- The methods end the session's work on the store, each of them failing as it likes.  A commit
that fails has stored nothing, and a session that is closed has lost what it had not committed. -/
structure Serves (world : σ → World) (s : SessionName) (e : Ending σ) : Prop where
  commits : ∀ u, (e.commit u).1 = .ok () → (world u).commit s = (.ok (), world (e.commit u).2)
  refuses : ∀ u f, (e.commit u).1 = .error f →
    (world (e.commit u).2).committed = (world u).committed
  undoes : ∀ u, (world (e.rollback u).2).committed = (world u).committed
  closes : ∀ u, world (e.close u).2 = (world u).discard s

theorem serves_ending (s : SessionName) (failing : List Scenario.EndMethod) :
    Serves id s (Scenario.ending s failing) where
  commits w done := by
    by_cases fails : Scenario.EndMethod.commit ∈ failing
    · simp [Scenario.ending, fails] at done
    · simp only [Scenario.ending, fails, if_false, id] at done ⊢
      exact Prod.ext done rfl
  refuses w f failed := by
    by_cases fails : Scenario.EndMethod.commit ∈ failing
    · simp [Scenario.ending, fails]
    · simp only [Scenario.ending, fails, if_false, id] at failed ⊢
      obtain ⟨w', done, -⟩ | ⟨f', w', refused, kept⟩ := w.commit_cases s
      · rw [done] at failed
        cases failed
      · rw [refused]
        exact kept
  undoes w := by
    by_cases fails : Scenario.EndMethod.rollback ∈ failing <;>
      simp [Scenario.ending, fails, World.rollback]
  closes w := by
    by_cases fails : Scenario.EndMethod.close ∈ failing <;>
      simp [Scenario.ending, fails, World.rollback]

theorem settle_cases (e : Ending σ) (body : Except Failure Unit) (u : σ) :
    (body = .ok () ∧ (e.commit u).1 = .ok () ∧ settle e body u = (.ok (), (e.commit u).2)) ∨
    (∃ f, body = .ok () ∧ (e.commit u).1 = .error f ∧
      settle e body u = (.error f, (e.rollback (e.commit u).2).2)) ∨
    ∃ f, body = .error f ∧ settle e body u = (.error f, (e.rollback u).2) := by
  unfold settle
  cases body with
  | error f => exact .inr (.inr ⟨f, rfl, rfl⟩)
  | ok done =>
    rcases e.commit u with ⟨f | done, v⟩
    · exact .inr (.inl ⟨f, rfl, rfl, rfl⟩)
    · exact .inl ⟨rfl, rfl, rfl⟩

def verdict (e : Ending σ) (body : Except Failure Unit) (u : σ) : Except Failure Unit :=
  body.bind fun () => (e.commit u).1

theorem settle_fst (e : Ending σ) (body : Except Failure Unit) (u : σ) :
    (settle e body u).1 = verdict e body u := by
  obtain ⟨rfl, done, settled⟩ | ⟨f, rfl, refused, settled⟩ | ⟨f, rfl, settled⟩ :=
    settle_cases e body u
  · rw [settled]
    exact done.symm
  · rw [settled]
    exact refused.symm
  · rw [settled]
    rfl

theorem finish_eq (e : Ending σ) (body : Except Failure Unit) (u : σ) :
    finish e body u =
      let last := e.close (e.close (settle e body u).2).2
      (last.1.bind fun () => verdict e body u, last.2) := by
  rw [← settle_fst]
  unfold finish
  obtain ⟨outcome, v⟩ := settle e body u
  dsimp only
  rcases e.close (e.close v).2 with ⟨f | done, w⟩ <;> rfl

theorem verdict_of_finish {body : Except Failure Unit} {u v : σ}
    (finished : finish e body u = (.ok (), v)) : verdict e body u = .ok () := by
  rw [finish_eq] at finished
  have ended := (Prod.mk.inj finished).1
  cases last : (e.close (e.close (settle e body u).2).2).1 with
  | error f =>
    rw [last] at ended
    cases ended
  | ok done =>
    rw [last] at ended
    exact ended

theorem committed_settle_ok (serves : Serves world s e) {body : Except Failure Unit} {u : σ}
    (ended : verdict e body u = .ok ()) :
    (world (settle e body u).2).committed = ((world u).flush s).2.view s := by
  obtain ⟨rfl, done, settled⟩ | ⟨f, rfl, refused, -⟩ | ⟨f, rfl, -⟩ := settle_cases e body u
  · have committed := serves.commits u done
    obtain ⟨w', stored, seen⟩ | ⟨f, w', refused, -⟩ := (world u).commit_cases s
    · obtain ⟨-, same⟩ := Prod.mk.inj (committed.symm.trans stored)
      rw [settled, same, seen]
    · cases committed.symm.trans refused
  · cases ended.symm.trans refused
  · cases ended

theorem committed_settle_error (serves : Serves world s e) {body : Except Failure Unit} {u : σ}
    {f : Failure} (ended : verdict e body u = .error f) :
    (world (settle e body u).2).committed = (world u).committed := by
  obtain ⟨rfl, done, -⟩ | ⟨f, rfl, refused, settled⟩ | ⟨f, rfl, settled⟩ := settle_cases e body u
  · cases ended.symm.trans done
  · rw [settled, serves.undoes, serves.refuses u f refused]
  · rw [settled, serves.undoes]

theorem finish_closes (serves : Serves world s e) (body : Except Failure Unit) (u : σ) :
    ∃ w : World, world (finish e body u).2 = w.discard s ∧
      (world (finish e body u).2).committed = (world (settle e body u).2).committed := by
  have closed : world (finish e body u).2 = ((world (settle e body u).2).discard s).discard s := by
    rw [finish_eq, serves.closes, serves.closes]
  refine ⟨_, closed, ?_⟩
  rw [closed, World.committed_discard, World.committed_discard]

end UnitOfWork

def Program.moves {α : Type} (p : Program α) (s : SessionName) (w : World) : List Move :=
  (p.trace (World.perform s) w).map fun exchange => .call s exchange.1

theorem World.after_moves {α : Type} (p : Program α) (s : SessionName) (w : World) :
    w.after (p.moves s w) = (p.run (World.perform s) w).state := by
  induction p generalizing w with
  | done outcome => rfl
  | note entry p ih => exact ih w
  | call c next ih => exact ih _ _

theorem World.committed_after {w : World} {s : SessionName} {moves : List Move}
    (own : ∀ m ∈ moves, m.session? = some s) (uncommitting : ∀ m ∈ moves, m ≠ .settle s .commit) :
    (w.after moves).committed = w.committed := by
  induction moves using List.reverseRecOn with
  | nil => rfl
  | append_singleton earlier m ih =>
    rw [after_append]
    have unchanged := ih (fun m mem => own m (by simp [mem]))
      fun m mem => uncommitting m (by simp [mem])
    exact (Move.committed_play (own m (by simp)) (uncommitting m (by simp))).trans unchanged

namespace UnitOfWork

variable {σ : Type} {world : σ → World} {s : SessionName} {e : Ending σ}

/-- A unit stores all that its session has done when its body and its commit end well, and none of
it otherwise. -/
theorem units_are_atomic (serves : Serves world s e) (start : World) (moves : List Move)
    (uncommitting : ∀ m ∈ moves, m ≠ .settle s .commit) (u : σ)
    (reached : world u = start.after moves) (body : Except Failure Unit) :
    let ended := finish e body u
    let last := e.close (e.close (settle e body u).2).2
    ended.1 = (last.1.bind fun () => verdict e body u) ∧
    (verdict e body u = .ok () →
      (world ended.2).committed = ((start.after moves).flush s).2.view s) ∧
    (∀ f, verdict e body u = .error f →
      (world ended.2).committed = (start.after moves).committed) ∧
    (∀ earlier m later, moves = earlier ++ m :: later → m.session? = some s →
      (start.after (earlier ++ [m])).committed = (start.after earlier).committed) ∧
    ((∀ m ∈ moves, m.session? = some s) →
      (start.after moves).committed = start.committed) ∧
    (world ended.2).pending s = [] ∧ (world ended.2).failed s = none ∧
      ∀ t, (world ended.2).writer ≠ some (s, t) := by
  intro ended last
  obtain ⟨w, closed, kept⟩ := finish_closes serves body u
  refine ⟨?_, ?_, ?_, ?_, ?_, ?_⟩
  · exact congrArg Prod.fst (finish_eq e body u)
  · intro well
    rw [kept, committed_settle_ok serves well, reached]
  · intro f failed
    rw [kept, committed_settle_error serves failed, reached]
  · rintro earlier m later rfl own
    rw [World.after_append]
    exact Move.committed_play own (uncommitting m (by simp))
  · exact fun own => World.committed_after own uncommitting
  · change (world (finish e body u).2).pending s = [] ∧ _
    rw [closed]
    exact ⟨by simp, by simp, fun t => World.not_writer_discard w s t⟩

namespace Served

def main : SessionName := .unit 0

def users : List User := [⟨"ann", "Ann"⟩]

def start : World := World.initial.after [.task (.putUser (some "ann") (some "Ann"))]

def addition : Program Reaction :=
  Service.addReaction (some (.ofNat 1)) (some (.ofNat 2)) "like" (some "ann")

def row : StoredReaction :=
  ⟨1, (Uuid.ofNat 1).compact, (Uuid.ofNat 2).compact, "like", "ann", .text "2024-05-01 12:00:00"⟩

def boom : Failure := .value "boom"

theorem addition_commits :
    (((addition.run (World.perform main) start).state).commit main).1 = .ok () := by
  have well : (((addition.run (World.perform main) start).state).commit main).1.isOk = true := by
    decide +kernel
  rcases ended : (((addition.run (World.perform main) start).state).commit main).1 with f | done
  · rw [ended] at well
    cases well
  · rfl

theorem addition_stored_or_lost :
    let w := (addition.run (World.perform main) start).state
    let ending := Scenario.ending main [.rollback]
    (finish ending (.ok ()) w).1 = .ok () ∧
    (finish ending (.ok ()) w).2.committed = some ⟨[row], users⟩ ∧
    (finish ending (.error boom) w).1 = .error boom ∧
    (finish ending (.error boom) w).2.committed = some ⟨[], users⟩ := by
  intro w ending
  have reached : w = start.after (addition.moves main start) := (World.after_moves _ _ _).symm
  have calls (m : Move) (mem : m ∈ addition.moves main start) : ∃ c, m = .call main c := by
    obtain ⟨exchange, -, rfl⟩ := List.mem_map.mp mem
    exact ⟨_, rfl⟩
  have uncommitting (m : Move) (mem : m ∈ addition.moves main start) :
      m ≠ .settle main .commit := by
    obtain ⟨c, rfl⟩ := calls m mem
    nofun
  have own (m : Move) (mem : m ∈ addition.moves main start) : m.session? = some main := by
    obtain ⟨c, rfl⟩ := calls m mem
    rfl
  have atomic := units_are_atomic (serves_ending main [.rollback]) start _ uncommitting w reached
  have committed : verdict ending (.ok ()) w = .ok () := addition_commits
  obtain ⟨stored, shown, -⟩ := atomic (.ok ())
  obtain ⟨thrown, -, kept, -, lost, -⟩ := atomic (.error boom)
  refine ⟨stored.trans committed, (shown committed).trans ?_, thrown.trans rfl, ?_⟩
  · rw [← reached]
    decide +kernel
  · exact (kept boom rfl).trans ((lost own).trans rfl)

def closing : Ending World := Scenario.ending main [.close]

theorem closing_hides_ending :
    let w := (addition.run (World.perform main) start).state
    let stored := finish closing (.ok ()) w
    let thrown := finish closing (.error boom) w
    Serves id main closing ∧
    verdict closing (.ok ()) w = .ok () ∧ stored.2.committed = some ⟨[row], users⟩ ∧
    stored.1 = .error (.runtime "close failed") ∧
    verdict closing (.error boom) w = .error boom ∧ thrown.2.committed = some ⟨[], users⟩ ∧
    thrown.1 = .error (.runtime "close failed") := by
  refine ⟨serves_ending main [.close], addition_commits, by decide +kernel, ?_, rfl,
    by decide +kernel, ?_⟩
  · rw [finish_eq]
    rfl
  · rw [finish_eq]
    rfl

end Served

end UnitOfWork

end ReactionLedger
