import ReactionLedger.Proofs.Session.Paths
import ReactionLedger.Proofs.Session.Results
import ReactionLedger.Service.Job

set_option autoImplicit false

namespace ReactionLedger

def Key.Normal (k : Key) : Prop := Label.Normal k.label

namespace Call

def Normal : Call → Prop
  | .add key => key.Normal
  | _ => True

def Queries (c : Call) : Prop := ∃ conditions, c = .joinedRows conditions

theorem Queries.normal {c : Call} (queries : c.Queries) : c.Normal := by
  obtain ⟨conditions, rfl⟩ := queries
  trivial

end Call

def Entry.Quiet (entry : Entry) : Prop := entry.level ≠ .info

namespace Service

open Program

theorem within_quiet {calls : Call → Prop} {level : LogLevel} {text : String}
    (other : level ≠ .info) : (record level text).Within calls Entry.Quiet := within_record other

theorem within_rollbackQuietly : rollbackQuietly.Within Call.Normal Entry.Quiet :=
  (within_perform (c := .rollback) trivial).handle fun _ => within_quiet (by decide)

theorem within_guarded {α : Type} (failed : String) {body : Program α}
    (within : body.Within Call.Normal Entry.Quiet) :
    (guarded failed body).Within Call.Normal Entry.Quiet := by
  refine within.handle fun e => ?_
  split
  · exact within_rollbackQuietly.bind fun _ => (within_quiet (by decide)).bind fun _ => trivial
  · trivial

theorem within_lostRace (key : Key) (conflict : StoreFault) :
    (lostRace key conflict).Within Call.Normal Entry.Quiet := by
  refine within_rollbackQuietly.bind fun _ => ?_
  refine (within_perform (c := .findReaction key) trivial).bind fun found => ?_
  cases found with
  | none => trivial
  | some stored => exact (within_quiet (by decide)).bind fun _ => trivial

theorem within_insertReaction {key : Key} (normal : key.Normal) :
    (insertReaction key).Within Call.Normal Entry.Quiet := by
  refine (within_perform (c := .add key) normal).bind fun _ => Within.bind ?_ fun conflict? => ?_
  · refine ((within_perform (c := .flush) trivial).bind fun _ => within_done _).handle fun e => ?_
    split <;> trivial
  · cases conflict? with
    | none => exact (within_perform (c := .refresh key) trivial).bind fun _ => trivial
    | some conflict => exact within_lostRace key conflict

theorem within_storeReaction (key : Key) (normal : key.Normal) :
    (storeReaction key).Within Call.Normal Entry.Quiet := by
  refine (within_perform (c := .userKnown key.author) trivial).bind fun known => ?_
  cases known with
  | false => trivial
  | true =>
    refine (within_perform (c := .findReaction key) trivial).bind fun found => ?_
    cases found with
    | none => exact within_insertReaction normal
    | some stored => exact (within_quiet (by decide)).bind fun _ => trivial

theorem within_deletion (key : Key) : (deletion key).Within Call.Normal Entry.Quiet := by
  refine (within_perform (c := .deleteReaction key) trivial).bind fun _ => ?_
  exact (within_perform (c := .flush) trivial).bind fun _ => trivial

theorem within_fetchRows (conditions : List Condition) :
    (fetchRows conditions).Within Call.Queries Entry.Quiet := by
  refine Within.bind ((within_perform ⟨conditions, rfl⟩).handle fun e => ?_) fun raw => ?_
  · rw [readFailed]
    split
    · exact (within_quiet (by decide)).bind fun _ => trivial
    · trivial
  · split
    · trivial
    · rw [decodeFailed]
      split
      · exact (within_quiet (by decide)).bind fun _ => trivial
      · trivial

theorem within_listComment (comment : Option Uuid) :
    (listComment comment).Within Call.Queries Entry.Quiet := by
  refine (within_fetchRows _).bind fun rows => ?_
  exact Within.bind trivial fun groups => (within_quiet (by decide)).bind fun _ => trivial

theorem within_listView (view comment : Option Uuid) :
    (listView view comment).Within Call.Queries Entry.Quiet :=
  (within_fetchRows _).bind fun _ => Within.bind trivial fun _ => trivial

variable (view comment : Option Uuid) (label : String) (user : Option String)

theorem within_addReaction :
    (addReaction view comment label user).Within Call.Normal fun _ => True := by
  rw [addReaction]
  cases accepted : Label.normalize label with
  | error fault => trivial
  | ok core =>
    have normal := Label.normal_of_normalize accepted
    have body := within_guarded "Failed to add reaction"
      (within_storeReaction ⟨view, comment, core, user⟩ normal)
    refine (body.mono (fun _ => id) fun _ _ => trivial).bind fun added => ?_
    cases added with
    | before stored => trivial
    | now reaction => exact (within_record trivial).bind fun _ => trivial

theorem within_removeReaction :
    (removeReaction view comment label user).Within Call.Normal fun _ => True := by
  have body := within_guarded "Failed to remove reaction"
    (within_deletion ⟨view, comment, Text.trim label, user⟩)
  refine (body.mono (fun _ => id) fun _ _ => trivial).bind fun count => ?_
  dsimp only
  split <;> exact (within_record trivial).bind fun _ => trivial

section Sealed

-- the elaborator would otherwise evaluate the programs in every statement about them
attribute [local irreducible] addReaction removeReaction listComment listView

theorem Job.within (job : Job) : job.program.Within Call.Normal fun _ => True := by
  cases job with
  | listComment comment =>
    have listing := within_listComment comment
    exact (listing.mono (fun _ => Call.Queries.normal) fun _ _ => trivial).bind fun _ => trivial
  | listView view comment =>
    have listing := within_listView view comment
    exact (listing.mono (fun _ => Call.Queries.normal) fun _ _ => trivial).bind fun _ => trivial
  | add view comment label user => exact (within_addReaction ..).bind fun _ => trivial
  | remove view comment label user => exact (within_removeReaction ..).bind fun _ => trivial

end Sealed

end Service

end ReactionLedger
