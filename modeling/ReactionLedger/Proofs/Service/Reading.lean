import ReactionLedger.Proofs.Label
import ReactionLedger.Proofs.Session.Paths
import ReactionLedger.Service.Job

set_option autoImplicit false

namespace ReactionLedger.Service

open Program

def Reads (key : Key) (reaction : Reaction) : Exchange → Prop
  | ⟨.findReaction k, reply⟩ => k = key ∧ reply = .ok (some reaction)
  | ⟨.refresh k, reply⟩ => k = key ∧ reply = .ok reaction
  | _ => False

def EndsReading (key : Key) : Post Reaction := fun calls _ outcome =>
  ∀ reaction, outcome = .ok reaction → ∃ x, calls.getLast? = some x ∧ Reads key reaction x

def AddsReading (key : Key) : Post Added := fun calls journal outcome =>
  EndsReading key calls journal (outcome.map Added.reaction)

variable (key : Key) (calls : List Exchange) (journal : Journal)

theorem addsReading_error (e : Failure) : AddsReading key calls journal (.error e) := by
  intro reaction made
  simp [Except.map] at made

theorem addsReading_found (stored : Reaction) :
    AddsReading key (calls ++ [⟨.findReaction key, .ok (some stored)⟩]) journal
      (.ok (.before stored)) := by
  intro reaction same
  refine ⟨⟨.findReaction key, .ok (some stored)⟩, List.getLast?_concat, rfl, ?_⟩
  simpa [Except.map, Added.reaction] using same

theorem addsReading_refreshed (stored : Reaction) :
    AddsReading key (calls ++ [⟨.refresh key, .ok stored⟩]) journal (.ok (.now stored)) := by
  intro reaction same
  refine ⟨⟨.refresh key, .ok stored⟩, List.getLast?_concat, rfl, ?_⟩
  simpa [Except.map, Added.reaction] using same

theorem rollbackQuietly_ensures {post : Post Unit}
    (resumed : ∀ reply journal, post (calls ++ [⟨.rollback, reply⟩]) journal (.ok ())) :
    rollbackQuietly.Ensures post calls journal := by
  rw [rollbackQuietly, ensures_handle, ensures_perform .rollback]
  rintro (e | done)
  · exact resumed _ _
  · exact resumed _ _

theorem lostRace_reads (conflict : StoreFault) :
    (lostRace key conflict).Ensures (AddsReading key) calls journal := by
  rw [lostRace, ensures_bind]
  apply rollbackQuietly_ensures
  intro reply journal
  rw [before_ok, ensures_bind, ensures_perform]
  rintro (e | _ | stored)
  · exact addsReading_error _ _ journal e
  · exact addsReading_error _ _ journal (.store conflict)
  · exact addsReading_found _ _ journal stored

theorem insertReaction_reads : (insertReaction key).Ensures (AddsReading key) calls journal := by
  have refreshed (calls : List Exchange) :
      (do return .now (← perform (.refresh key)) : Program Added).Ensures (AddsReading key) calls
        journal := by
    rw [ensures_bind, ensures_perform]
    rintro (e | stored)
    · exact addsReading_error _ _ journal e
    · exact addsReading_refreshed _ _ journal stored
  rw [insertReaction, ensures_bind, ensures_perform (.add key)]
  rintro (e | done)
  · exact addsReading_error _ _ journal _
  rw [before_ok, ensures_bind, ensures_handle, ensures_bind, ensures_perform .flush]
  rintro (e | flushed)
  · rw [before_error, guarding_error]
    split
    · exact lostRace_reads _ _ _ _
    · exact addsReading_error _ _ journal _
  · exact refreshed _

theorem storeReaction_reads : (storeReaction key).Ensures (AddsReading key) calls journal := by
  rw [storeReaction, ensures_bind, ensures_perform (.userKnown key.author)]
  rintro (e | _ | _)
  · exact addsReading_error _ _ journal _
  · exact addsReading_error _ _ journal _
  rw [before_ok, if_pos rfl, ensures_bind, ensures_perform]
  rintro (e | _ | stored)
  · exact addsReading_error _ _ journal _
  · exact insertReaction_reads _ _ _
  · exact addsReading_found _ _ journal stored

def Shielded {α : Type} (failed : String) (post : Post α) : Post α
  | calls, journal, .ok a => post calls journal (.ok a)
  | calls, journal, .error e =>
    if e.isStore then
      ∀ reply journal,
        post (calls ++ [⟨.rollback, reply⟩]) journal (.error (.access failed (some e)))
    else post calls journal (.error e)

theorem shielded_error {α : Type} (failed : String) (post : Post α) (e : Failure) :
    Shielded failed post calls journal (.error e) ↔
      if e.isStore then
        ∀ reply journal,
          post (calls ++ [⟨.rollback, reply⟩]) journal (.error (.access failed (some e)))
      else post calls journal (.error e) := Iff.rfl

theorem ensures_guarded {α : Type} {post : Post α} {failed : String} {body : Program α}
    (ensures : body.Ensures (Shielded failed post) calls journal) :
    (guarded failed body).Ensures post calls journal := by
  rw [guarded, ensures_handle]
  refine ensures.mono fun calls journal outcome held => ?_
  cases outcome with
  | ok a => exact held
  | error e =>
    rw [shielded_error] at held
    rw [guarding_error]
    split
    · next store =>
      rw [if_pos store] at held
      rw [ensures_bind]
      apply rollbackQuietly_ensures
      exact fun reply journal => held reply _
    · next other =>
      rw [if_neg other] at held
      exact held

theorem addReaction_reads (view comment : Option Uuid) (label : String) (user : Option String) :
    (addReaction view comment label user).Ensures
      (EndsReading ⟨view, comment, Text.trim label, user⟩) calls journal := by
  rw [addReaction, ensures_bind]
  cases normal : Label.normalize label with
  | error fault => exact fun reaction made => by simp at made
  | ok core =>
    obtain ⟨rfl, -, -⟩ := (Label.normalize_eq_ok_iff label core).mp normal
    change (guarded _ (storeReaction _) >>= _).Ensures _ _ _
    rw [ensures_bind]
    refine ensures_guarded _ _
      ((storeReaction_reads _ _ _).mono fun calls journal outcome held => ?_)
    rcases outcome with e | stored | stored
    · rw [shielded_error]
      split
      · exact fun reply journal reaction made => by simp at made
      · exact fun reaction made => by simp at made
    · exact held
    · exact held

end ReactionLedger.Service
