import ReactionLedger.Proofs.Session.Paths
import ReactionLedger.Service.Writing
import ReactionLedger.Session.Script

set_option autoImplicit false

namespace ReactionLedger

namespace Program

variable {α β : Type}

def rollbackWarning (e : Failure) : Entry := ⟨.warning, "Rollback failed: " ++ e.message⟩

/-- After a rollback the program goes on in one way, whatever the reply; a failure is warned of
first.  There are no other warnings. -/
inductive Tolerates : Program α → Prop
  | done (outcome : Except Failure α) : Tolerates (.done outcome)
  | note {entry : Entry} {p : Program α} (calm : entry.level ≠ .warning) (rest : Tolerates p) :
      Tolerates (.note entry p)
  | call {c : Call} {next : Except Failure c.Reply → Program α} (other : c ≠ .rollback)
      (rest : ∀ reply, Tolerates (next reply)) : Tolerates (.call c next)
  | rollback {next : Except Failure Unit → Program α} {p : Program α} (worked : next (.ok ()) = p)
      (failed : ∀ e, next (.error e) = .note (rollbackWarning e) p) (rest : Tolerates p) :
      Tolerates (.call .rollback next)

theorem Tolerates.bind {p : Program α} {f : α → Program β} (first : Tolerates p)
    (rest : ∀ a, Tolerates (f a)) : Tolerates (p >>= f) := by
  change Tolerates (p.bind f)
  induction first with
  | done outcome =>
    cases outcome with
    | ok a => exact rest a
    | error e => exact .done _
  | note calm _ ih => exact .note calm ih
  | call other _ ih => exact .call other ih
  | @rollback next p worked failed _ ih =>
    exact .rollback (congrArg (Program.bind · f) worked)
      (fun e => congrArg (Program.bind · f) (failed e)) ih

theorem Tolerates.handle {p : Program α} {rescue : Failure → Program α} (first : Tolerates p)
    (rest : ∀ e, Tolerates (rescue e)) : Tolerates (p.handle rescue) := by
  induction first with
  | done outcome =>
    cases outcome with
    | ok a => exact .done _
    | error e => exact rest e
  | note calm _ ih => exact .note calm ih
  | call other _ ih => exact .call other ih
  | @rollback next p worked failed _ ih =>
    exact .rollback (congrArg (Program.handle · rescue) worked)
      (fun e => congrArg (Program.handle · rescue) (failed e)) ih

theorem tolerates_perform (c : Call) (other : c ≠ .rollback) : Tolerates (perform c) :=
  .call other fun reply => .done reply

theorem tolerates_record (level : LogLevel) (calm : level ≠ .warning) (text : String) :
    Tolerates (record level text) := .note calm (.done _)

end Program

namespace Script

open Program (Tolerates rollbackWarning)

def withRollbacks (s : Script) (steps : List Step) : Script :=
  { s with queue := fun m => if m = .rollback then steps else s.queue m }

def Alike (s s' : Script) : Prop := ∀ m, m ≠ .rollback → s.queue m = s'.queue m

variable {α : Type} {s s' : Script}

theorem alike_withRollbacks (s : Script) (steps : List Step) : Alike s (s.withRollbacks steps) :=
  fun _ other => (if_neg other).symm

theorem Alike.advance (alike : Alike s s') (m : Method) : Alike (s.advance m) (s'.advance m) := by
  intro n other
  simp only [Script.advance]
  split
  next same => rw [alike m (same ▸ other)]
  next => exact alike n other

theorem method_ne_rollback {c : Call} (other : c ≠ .rollback) : c.method ≠ .rollback := by
  cases c <;> simp_all [Call.method]

theorem Alike.outcome (alike : Alike s s') {c : Call} (other : c ≠ .rollback) :
    (perform c s).outcome = (perform c s').outcome := by
  simp only [perform, next, alike _ (method_ne_rollback other)]

def failedRollback? : Exchange → Option Failure
  | ⟨.rollback, .error e⟩ => some e
  | _ => none

theorem failedRollback?_other {c : Call} (other : c ≠ .rollback) (reply : Except Failure c.Reply) :
    failedRollback? ⟨c, reply⟩ = none := by
  cases c with
  | rollback => exact absurd rfl other
  | _ => rfl

section Rollback

variable {next : Except Failure Unit → Program α} {p : Program α} (worked : next (.ok ()) = p)
variable (failed : ∀ e, next (.error e) = .note (rollbackWarning e) p) (s : Script)
include worked failed

theorem trace_rollback : (Program.call .rollback next).trace perform s =
    ⟨.rollback, (perform .rollback s).outcome⟩ :: p.trace perform (s.advance .rollback) := by
  rw [Program.trace]
  rcases (perform .rollback s).outcome with e | done
  · rw [failed]
    rfl
  · rw [← worked]
    rfl

theorem run_rollback : (Program.call .rollback next).run perform s =
    { p.run perform (s.advance .rollback) with
      journal := (failedRollback? ⟨.rollback, (perform .rollback s).outcome⟩).toList.map
        rollbackWarning ++ (p.run perform (s.advance .rollback)).journal } := by
  rw [Program.run]
  rcases (perform .rollback s).outcome with e | done
  · rw [failed]
    rfl
  · rw [← worked]
    rfl

end Rollback

def calm (journal : Journal) : Journal := journal.filter fun entry => entry.level ≠ .warning

theorem calm_append_warnings (failures : List Failure) (journal : Journal) :
    calm (failures.map rollbackWarning ++ journal) = calm journal := by
  simp [calm, rollbackWarning]

def warnings (journal : Journal) : Journal := journal.filter fun entry => entry.level = .warning

theorem warnings_append (failures : List Failure) (journal : Journal) :
    warnings (failures.map rollbackWarning ++ journal) =
      failures.map rollbackWarning ++ warnings journal := by
  have all : (failures.map rollbackWarning).filter (fun entry => entry.level = .warning) =
      failures.map rollbackWarning := by
    rw [List.filter_eq_self]
    simp [rollbackWarning]
  simp only [warnings, List.filter_append, all]

structure Agree (p : Program α) (s s' : Script) : Prop where
  calls : (p.trace perform s).map Sigma.fst = (p.trace perform s').map Sigma.fst
  outcome : (p.run perform s).outcome = (p.run perform s').outcome
  journal : calm (p.run perform s).journal = calm (p.run perform s').journal

theorem agree_of_alike {p : Program α} (tolerates : Tolerates p) (alike : Alike s s') :
    Agree p s s' := by
  induction tolerates generalizing s s' with
  | done outcome => exact ⟨rfl, rfl, rfl⟩
  | note _ _ ih =>
    obtain ⟨calls, outcome, journal⟩ := ih alike
    refine ⟨calls, outcome, ?_⟩
    simp only [Program.run, calm, List.filter_cons]
    rw [← calm, ← calm, journal]
  | @call c next other _ ih =>
    have reply := alike.outcome other
    obtain ⟨calls, outcome, journal⟩ := ih (perform c s).outcome (alike.advance c.method)
    refine ⟨?_, ?_, ?_⟩
    · rw [Program.trace, Program.trace, ← reply]
      exact congrArg (c :: ·) calls
    · rw [Program.run, Program.run, ← reply]
      exact outcome
    · rw [Program.run, Program.run, ← reply]
      exact journal
  | rollback worked failed _ ih =>
    obtain ⟨calls, outcome, journal⟩ := ih (alike.advance .rollback)
    refine ⟨?_, ?_, ?_⟩
    · rw [trace_rollback worked failed, trace_rollback worked failed]
      exact congrArg (Call.rollback :: ·) calls
    · rw [run_rollback worked failed, run_rollback worked failed]
      exact outcome
    · rw [run_rollback worked failed, run_rollback worked failed, calm_append_warnings,
        calm_append_warnings]
      exact journal

theorem warnings_of_run {p : Program α} (tolerates : Tolerates p) (s : Script) :
    warnings (p.run perform s).journal =
      ((p.trace perform s).filterMap failedRollback?).map rollbackWarning := by
  induction tolerates generalizing s with
  | done outcome => rfl
  | note calm _ ih =>
    simp only [Program.run, warnings, List.filter_cons, calm, decide_false]
    exact ih s
  | @call c next other _ ih =>
    rw [Program.run, Program.trace, List.filterMap_cons_none (failedRollback?_other other _)]
    exact ih _ _
  | @rollback next p worked failed _ ih =>
    rw [run_rollback worked failed, trace_rollback worked failed, List.filterMap_cons,
      warnings_append, ih]
    cases failedRollback? ⟨.rollback, (perform .rollback s).outcome⟩ <;> rfl

end Script

namespace Service

open Program

variable {α : Type}

theorem tolerates_rollbackQuietly {f : Unit → Program α} (rest : Tolerates (f ())) :
    Tolerates (rollbackQuietly >>= f) := .rollback rfl (fun _ => rfl) rest

theorem tolerates_guarded {failed : String} {body : Program α} (tolerates : Tolerates body) :
    Tolerates (guarded failed body) := by
  refine tolerates.handle fun e => ?_
  split
  · refine tolerates_rollbackQuietly ?_
    exact (tolerates_record .error nofun _).bind fun _ => .done _
  · exact .done _

variable (key : Key)

theorem tolerates_lostRace (conflict : StoreFault) : Tolerates (lostRace key conflict) := by
  refine tolerates_rollbackQuietly ?_
  refine (tolerates_perform (.findReaction key) nofun).bind fun found => ?_
  cases found with
  | none => exact .done _
  | some stored => exact (tolerates_record .debug nofun _).bind fun _ => .done _

theorem tolerates_insertReaction : Tolerates (insertReaction key) := by
  refine (tolerates_perform (.add key) nofun).bind fun _ => Tolerates.bind ?_ fun conflict? => ?_
  · refine ((tolerates_perform .flush nofun).bind fun _ => .done _).handle fun e => ?_
    split <;> exact .done _
  · cases conflict? with
    | none => exact (tolerates_perform (.refresh key) nofun).bind fun _ => .done _
    | some conflict => exact tolerates_lostRace key conflict

theorem tolerates_storeReaction : Tolerates (storeReaction key) := by
  refine (tolerates_perform (.userKnown key.author) nofun).bind fun known => ?_
  cases known with
  | false => exact .done _
  | true =>
    refine (tolerates_perform (.findReaction key) nofun).bind fun found => ?_
    cases found with
    | none => exact tolerates_insertReaction key
    | some stored => exact (tolerates_record .debug nofun _).bind fun _ => .done _

variable (view comment : Option Uuid) (label : String) (user : Option String)

theorem tolerates_addReaction : Tolerates (addReaction view comment label user) := by
  refine Tolerates.bind (.done _) fun core => ?_
  refine (tolerates_guarded (tolerates_storeReaction _)).bind fun added => ?_
  cases added with
  | before stored => exact .done _
  | now reaction => exact (tolerates_record .info nofun _).bind fun _ => .done _

theorem tolerates_removeReaction : Tolerates (removeReaction view comment label user) := by
  refine Tolerates.bind (tolerates_guarded ?_) fun count => ?_
  · refine (tolerates_perform (.deleteReaction _) nofun).bind fun _ => ?_
    exact (tolerates_perform .flush nofun).bind fun _ => .done _
  · dsimp only
    split
    · exact (tolerates_record .debug nofun _).bind fun _ => .done _
    · exact (tolerates_record .info nofun _).bind fun _ => .done _

section Sealed

attribute [local irreducible] addReaction removeReaction

/-- Whatever its rollbacks reply, a write makes the same calls and ends in the same way, and its
warnings are those of the rollbacks that failed. -/
theorem failing_rollbacks_only_warn (s : Script) (steps : List Script.Step)
    (view comment : Option Uuid) (label : String) (user : Option String) :
    let add := addReaction view comment label user
    let remove := removeReaction view comment label user
    Script.Agree add s (s.withRollbacks steps) ∧ Script.Agree remove s (s.withRollbacks steps) ∧
      Script.warnings (add.run Script.perform s).journal =
        ((add.trace Script.perform s).filterMap Script.failedRollback?).map rollbackWarning ∧
      Script.warnings (remove.run Script.perform s).journal =
        ((remove.trace Script.perform s).filterMap Script.failedRollback?).map rollbackWarning := by
  have adding := tolerates_addReaction view comment label user
  have removing := tolerates_removeReaction view comment label user
  have alike := Script.alike_withRollbacks s steps
  exact ⟨Script.agree_of_alike adding alike, Script.agree_of_alike removing alike,
    Script.warnings_of_run adding s, Script.warnings_of_run removing s⟩

end Sealed

end Service

end ReactionLedger
