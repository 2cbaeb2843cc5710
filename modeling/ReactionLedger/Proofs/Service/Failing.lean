import Mathlib
import ReactionLedger.Proofs.Service.Reading
import ReactionLedger.Proofs.Session.Results
import ReactionLedger.Session.Script

set_option autoImplicit false

namespace ReactionLedger.Service

open Program

inductive Ends {α : Type} (failed : String) : Failure → List Exchange → Except Failure α → Prop
  | wrapped {e : Failure} {reply : Except Failure Unit} (store : e.isStore = true) :
      Ends failed e [⟨.rollback, reply⟩] (.error (.access failed (some e)))
  | passed {e : Failure} (other : e.isStore = false) : Ends failed e [] (.error e)

def Refusal (c : Call) (e : Failure) : Prop :=
  c = .flush ∧ ∃ origin text, e = .store (.integrity origin text)

inductive EndsAdding (failed : String) (key : Key) :
    Call → Failure → List Exchange → Except Failure Reaction → Prop
  | plain {c : Call} {e : Failure} {after : List Exchange} {outcome : Except Failure Reaction}
      (other : ¬ Refusal c e) (ends : Ends failed e after outcome) :
      EndsAdding failed key c e after outcome
  | found {c : Call} {e : Failure} {reply : Except Failure Unit} {stored : Reaction}
      (refused : Refusal c e) :
      EndsAdding failed key c e [⟨.rollback, reply⟩, ⟨.findReaction key, .ok (some stored)⟩]
        (.ok stored)
  | gone {c : Call} {e : Failure} {reply : Except Failure Unit} {after : List Exchange}
      {outcome : Except Failure Reaction} (refused : Refusal c e)
      (ends : Ends failed e after outcome) :
      EndsAdding failed key c e
        (⟨.rollback, reply⟩ :: ⟨.findReaction key, .ok none⟩ :: after) outcome
  | again {c : Call} {e e' : Failure} {reply : Except Failure Unit} {after : List Exchange}
      {outcome : Except Failure Reaction} (refused : Refusal c e)
      (ends : Ends failed e' after outcome) :
      EndsAdding failed key c e
        (⟨.rollback, reply⟩ :: ⟨.findReaction key, .error e'⟩ :: after) outcome

-- rollbacks may fail unseen
def Smooth (calls : List Exchange) : Prop :=
  ∀ c e, (⟨c, .error e⟩ : Exchange) ∈ calls → c = .rollback

theorem smooth_nil : Smooth [] := nofun

theorem Smooth.concat {calls : List Exchange} (smooth : Smooth calls) {c : Call} (a : c.Reply) :
    Smooth (calls ++ [⟨c, .ok a⟩]) := by
  intro c' e mem
  rcases List.mem_append.mp mem with old | new
  · exact smooth c' e old
  · cases List.mem_singleton.mp new

theorem Smooth.suffix {calls rest after : List Exchange} (smooth : Smooth calls) {c : Call}
    {e : Failure} (other : c ≠ .rollback) (suffix : ⟨c, .error e⟩ :: after <:+ calls ++ rest) :
    ⟨c, .error e⟩ :: after <:+ rest := by
  induction calls with
  | nil => exact suffix
  | cons x calls ih =>
    rcases List.suffix_cons_iff.mp suffix with same | later
    · obtain ⟨rfl, -⟩ := List.cons.inj same
      exact absurd (smooth c e List.mem_cons_self) other
    · exact ih (fun c e mem => smooth c e (List.mem_cons_of_mem _ mem)) later

inductive Stores (key : Key) : List Exchange → Except Failure Added → Prop
  | well {calls : List Exchange} {added : Added} (smooth : Smooth calls) :
      Stores key calls (.ok added)
  | stranger {calls : List Exchange} (smooth : Smooth calls) :
      Stores key calls (.error (.unknownUser key.author))
  | failed {calls : List Exchange} {c : Call} {e : Failure} (smooth : Smooth calls)
      (own : c ≠ .rollback) (other : ¬ Refusal c e) :
      Stores key (calls ++ [⟨c, .error e⟩]) (.error e)
  | lost {calls : List Exchange} {origin : Origin} {text : String} {reply : Except Failure Unit}
      {found : Except Failure (Option Reaction)} (smooth : Smooth calls) :
      Stores key
        (calls ++ [⟨.flush, .error (.store (.integrity origin text))⟩, ⟨.rollback, reply⟩,
          ⟨.findReaction key, found⟩])
        (reread (.integrity origin text) found)

inductive Deletes : List Exchange → Except Failure Int → Prop
  | well {calls : List Exchange} {count : Int} (smooth : Smooth calls) : Deletes calls (.ok count)
  | failed {calls : List Exchange} {c : Call} {e : Failure} (smooth : Smooth calls)
      (own : c ≠ .rollback) : Deletes (calls ++ [⟨c, .error e⟩]) (.error e)

variable {key : Key} {calls : List Exchange} {journal : Journal}

theorem lostRace_stores (smooth : Smooth calls) (origin : Origin) (text : String) :
    (lostRace key (.integrity origin text)).Ensures
      (fun calls _ outcome => Stores key calls outcome)
      (calls ++ [⟨.flush, .error (.store (.integrity origin text))⟩]) journal := by
  rw [lostRace, ensures_bind]
  apply rollbackQuietly_ensures
  intro reply journal
  rw [before_ok, ensures_bind, ensures_perform]
  intro found
  have lost : Stores key (calls ++ [⟨.flush, .error (.store (.integrity origin text))⟩,
      ⟨.rollback, reply⟩, ⟨.findReaction key, found⟩]) (reread (.integrity origin text) found) :=
    .lost smooth
  rw [List.append_assoc, List.append_assoc]
  rcases found with e | _ | stored <;> exact lost

theorem not_refusal {c : Call} {e : Failure} (other : c ≠ .flush) : ¬ Refusal c e :=
  fun refused => other refused.1

theorem insertReaction_stores (smooth : Smooth calls) :
    (insertReaction key).Ensures (fun calls _ outcome => Stores key calls outcome) calls
      journal := by
  rw [insertReaction, ensures_bind, ensures_perform (.add key)]
  rintro (e | done)
  · exact .failed smooth (by simp) (not_refusal (by simp))
  have smooth₁ : Smooth (calls ++ [⟨.add key, .ok done⟩]) := smooth.concat done
  rw [before_ok, ensures_bind, ensures_handle, ensures_bind, ensures_perform .flush]
  rintro (e | flushed)
  · rw [before_error, guarding_error]
    split
    · exact lostRace_stores smooth₁ _ _
    · next other =>
      refine .failed smooth₁ (by simp) fun refused => ?_
      obtain ⟨-, origin, text, same⟩ := refused
      exact other origin text same
  · change Ensures _ (Program.perform (.refresh key) >>= _) _ _
    rw [ensures_bind, ensures_perform]
    rintro (e | stored)
    · exact .failed (smooth₁.concat (c := .flush) flushed) (by simp) (not_refusal (by simp))
    · exact .well ((smooth₁.concat (c := .flush) flushed).concat (c := .refresh key) stored)

theorem storeReaction_stores (smooth : Smooth calls) :
    (storeReaction key).Ensures (fun calls _ outcome => Stores key calls outcome) calls
      journal := by
  rw [storeReaction, ensures_bind, ensures_perform (.userKnown key.author)]
  rintro (e | known)
  · exact .failed smooth (by simp) (not_refusal (by simp))
  have smooth₁ : Smooth (calls ++ [⟨.userKnown key.author, .ok known⟩]) := smooth.concat known
  cases known with
  | false => exact .stranger smooth₁
  | true =>
    rw [before_ok, if_pos rfl, ensures_bind, ensures_perform]
    rintro (e | found)
    · exact .failed smooth₁ (by simp) (not_refusal (by simp))
    have smooth₂ := smooth₁.concat (c := .findReaction key) found
    cases found with
    | none => exact insertReaction_stores smooth₂
    | some stored => exact .well smooth₂

theorem deletion_deletes (smooth : Smooth calls) :
    (deletion key).Ensures (fun calls _ outcome => Deletes calls outcome) calls journal := by
  rw [deletion, ensures_bind, ensures_perform]
  rintro (e | count)
  · exact .failed smooth (by simp)
  have smooth₁ : Smooth (calls ++ [⟨.deleteReaction key, .ok count⟩]) := smooth.concat count
  rw [before_ok, ensures_bind, ensures_perform .flush]
  rintro (e | flushed)
  · exact .failed smooth₁ (by simp)
  · exact .well (smooth₁.concat (c := .flush) flushed)

section Accounts

variable {α : Type} (ends : Call → Failure → List Exchange → Except Failure α → Prop)

def Followed (calls : List Exchange) (outcome : Except Failure α) : Prop :=
  ∀ c e after, ⟨c, .error e⟩ :: after <:+ calls → c ≠ .rollback → ends c e after outcome

structure Accounts (excused : Failure → Prop) (calls : List Exchange)
    (outcome : Except Failure α) : Prop where
  failing : Followed ends calls outcome
  smooth : Smooth calls → ∀ e, outcome = .error e → excused e

variable {ends} {excused : Failure → Prop} {outcome : Except Failure α}
variable {after : List Exchange} {c : Call} {e : Failure}

theorem followed_nil : Followed ends [] outcome := by
  intro c e after suffix
  simp at suffix

theorem followed_cons {x : Exchange}
    (head : ∀ c e, x = ⟨c, .error e⟩ → c ≠ .rollback → ends c e after outcome)
    (tail : Followed ends after outcome) : Followed ends (x :: after) outcome := by
  intro c e rest suffix other
  rcases List.suffix_cons_iff.mp suffix with same | later
  · obtain ⟨rfl, rfl⟩ := List.cons.inj same
    exact head c e rfl other
  · exact tail c e rest later other

theorem followed_rollback {reply : Except Failure Unit} (tail : Followed ends after outcome) :
    Followed ends (⟨.rollback, reply⟩ :: after) outcome :=
  followed_cons (fun _ _ same other => absurd (congrArg Sigma.fst same).symm other) tail

theorem followed_ok {a : c.Reply} (tail : Followed ends after outcome) :
    Followed ends (⟨c, .ok a⟩ :: after) outcome :=
  followed_cons (fun _ _ same => by cases same) tail

theorem Smooth.followed (smooth : Smooth calls) (tail : Followed ends after outcome) :
    Followed ends (calls ++ after) outcome :=
  fun c e rest suffix other => tail c e rest (smooth.suffix other suffix) other

theorem accounts_smooth (smooth : Smooth calls) (own : ∀ e, outcome = .error e → excused e) :
    Accounts ends excused calls outcome where
  failing := by
    rw [← List.append_nil calls]
    exact smooth.followed followed_nil
  smooth _ := own

theorem accounts_failed (smooth : Smooth calls) (own : c ≠ .rollback)
    (ended : ends c e after outcome) (tail : Followed ends after outcome) :
    Accounts ends excused (calls ++ ⟨c, .error e⟩ :: after) outcome where
  failing := by
    refine smooth.followed (followed_cons (fun d f same _ => ?_) tail)
    cases same
    exact ended
  smooth all := absurd (all c e (by simp)) own

end Accounts

theorem guarded_deletion (failed : String) :
    (guarded failed (deletion key)).Ensures
      (fun calls _ outcome => Accounts (fun _ => Ends failed) (fun _ => False) calls
        (outcome.map fun count => decide (count ≠ 0))) [] [] := by
  refine ensures_guarded _ _ ((deletion_deletes smooth_nil).mono ?_)
  intro calls journal outcome deletes
  cases deletes with
  | well smooth => exact accounts_smooth smooth nofun
  | @failed calls c e smooth own =>
    rw [shielded_error]
    split
    next store =>
      intro reply journal
      rw [List.append_assoc]
      exact accounts_failed smooth own (.wrapped store) (followed_rollback followed_nil)
    next other => exact accounts_failed smooth own (.passed (by simpa using other)) followed_nil

-- the look-up after a lost race has failed too
theorem accounts_again {failed text : String} {origin : Origin} {reply : Except Failure Unit}
    {e : Failure} {after : List Exchange} {outcome : Except Failure Reaction}
    (smooth : Smooth calls) (ends : Ends failed e after outcome)
    (tail : Followed (EndsAdding failed key) after outcome) :
    Accounts (EndsAdding failed key) (· = .unknownUser key.author)
      (calls ++ ⟨.flush, .error (.store (.integrity origin text))⟩ :: ⟨.rollback, reply⟩ ::
        ⟨.findReaction key, .error e⟩ :: after) outcome := by
  refine accounts_failed smooth nofun (.again ⟨rfl, origin, text, rfl⟩ ends)
    (followed_rollback (followed_cons (fun c f same _ => ?_) tail))
  cases same
  exact .plain nofun ends

theorem guarded_storing (failed : String) :
    (guarded failed (storeReaction key)).Ensures
      (fun calls _ outcome => Accounts (EndsAdding failed key) (· = .unknownUser key.author) calls
        (outcome.map Added.reaction)) [] [] := by
  refine ensures_guarded _ _ ((storeReaction_stores smooth_nil).mono ?_)
  intro calls journal outcome stores
  cases stores with
  | well smooth => exact accounts_smooth smooth nofun
  | stranger smooth => exact accounts_smooth smooth fun e same => (Except.error.inj same).symm
  | @failed calls c e smooth own other =>
    rw [shielded_error]
    split
    next store =>
      intro reply journal
      rw [List.append_assoc]
      exact accounts_failed smooth own (.plain other (.wrapped store))
        (followed_rollback followed_nil)
    next plain =>
      exact accounts_failed smooth own (.plain other (.passed (by simpa using plain))) followed_nil
  | @lost calls origin text reply found smooth =>
    have refused : Refusal .flush (.store (.integrity origin text)) := ⟨rfl, origin, text, rfl⟩
    rcases found with e | _ | stored
    · rw [reread, shielded_error]
      split
      next store =>
        intro reply' journal
        rw [List.append_assoc]
        exact accounts_again smooth (.wrapped store) (followed_rollback followed_nil)
      next other => exact accounts_again smooth (.passed (by simpa using other)) followed_nil
    · rw [reread, shielded_error, if_pos (show (Failure.store _).isStore = true from rfl)]
      intro reply' journal
      rw [List.append_assoc]
      exact accounts_failed smooth nofun (.gone refused (.wrapped rfl))
        (followed_rollback (followed_ok (followed_rollback followed_nil)))
    · exact accounts_failed smooth nofun (.found refused)
        (followed_rollback (followed_ok followed_nil))

theorem accounts_of_addReaction (view comment : Option Uuid) (label : String)
    (user : Option String) :
    (addReaction view comment label user).Ensures
      (fun calls _ outcome => Accounts
        (EndsAdding "Failed to add reaction" ⟨view, comment, Text.trim label, user⟩)
        (fun e => e = .unknownUser user ∨ ∃ fault, e = .label fault) calls outcome) [] [] := by
  have excuse {calls : List Exchange} {outcome : Except Failure Reaction}
      (accounts : Accounts
        (EndsAdding "Failed to add reaction" ⟨view, comment, Text.trim label, user⟩)
        (· = .unknownUser user) calls outcome) :
      Accounts (EndsAdding "Failed to add reaction" ⟨view, comment, Text.trim label, user⟩)
        (fun e => e = .unknownUser user ∨ ∃ fault, e = .label fault) calls outcome :=
    ⟨accounts.failing, fun smooth e same => .inl (accounts.smooth smooth e same)⟩
  rw [addReaction, ensures_bind]
  cases normal : Label.normalize label with
  | error fault =>
    refine accounts_smooth smooth_nil fun e same => .inr ⟨fault, ?_⟩
    exact (Except.error.inj same).symm
  | ok core =>
    obtain ⟨rfl, -, -⟩ := (Label.normalize_eq_ok_iff label core).mp normal
    change (guarded _ (storeReaction _) >>= _).Ensures _ _ _
    rw [ensures_bind]
    refine (guarded_storing "Failed to add reaction").mono fun calls journal outcome accounts => ?_
    rcases outcome with e | stored | stored <;> exact excuse accounts

theorem accounts_of_removeReaction (view comment : Option Uuid) (label : String)
    (user : Option String) :
    (removeReaction view comment label user).Ensures
      (fun calls _ outcome => Accounts (fun _ => Ends "Failed to remove reaction")
        (fun _ => False) calls outcome) [] [] := by
  change (guarded _ (deletion _) >>= _).Ensures _ _ _
  rw [ensures_bind]
  refine (guarded_deletion "Failed to remove reaction").mono
    fun calls journal outcome accounts => ?_
  rcases outcome with e | count
  · exact accounts
  · rw [before_ok]
    split
    next none =>
      rw [none] at accounts
      exact accounts
    next some =>
      rw [Except.map, decide_eq_true some] at accounts
      exact accounts

section Sealed

-- the elaborator would otherwise evaluate the writes in every statement about them
attribute [local irreducible] addReaction removeReaction

/-- After a fault of the store a write rolls back and wraps it, but for an insertion that the tables
refuse; every other failure passes as it is. -/
theorem writes_after_failing_calls {σ : Type} (perform : Performer σ) (s : σ)
    (view comment : Option Uuid) (label : String) (user : Option String) :
    (let add := addReaction view comment label user;
      Accounts (EndsAdding "Failed to add reaction" ⟨view, comment, Text.trim label, user⟩)
        (fun e => e = .unknownUser user ∨ ∃ fault, e = .label fault)
        (add.trace perform s) (add.run perform s).outcome) ∧
    (let remove := removeReaction view comment label user;
      Accounts (fun _ => Ends "Failed to remove reaction") (fun _ => False)
        (remove.trace perform s) (remove.run perform s).outcome) := by
  obtain ⟨-, adding⟩ := (accounts_of_addReaction view comment label user).run perform s
  obtain ⟨-, removing⟩ := (accounts_of_removeReaction view comment label user).run perform s
  exact ⟨adding, removing⟩

namespace Refused

def script : Script := .start fun
  | .execute => [.fail (.system .refused "connection refused")]
  | _ => []

/-- A read counts such a failure as one of the store; a write neither wraps it nor rolls back. -/
theorem addition_passes_system_fault :
    (Failure.system .refused "connection refused").isReadFault = true ∧
      result Script.perform script
          (addReaction (some (.ofNat 1)) (some (.ofNat 2)) "like" (some "ann")) =
        (.error (.system .refused "connection refused"), script.advance .execute) ∧
      (script.advance .execute).calls = [.execute] := by
  have accepted : Label.normalize "like" = .ok "like" := by decide +kernel
  have body : result Script.perform script
      (storeReaction ⟨some (.ofNat 1), some (.ofNat 2), "like", some "ann"⟩) =
        (.error (.system .refused "connection refused"), script.advance .execute) := by
    rw [result_storeReaction]
    rfl
  refine ⟨rfl, ?_, rfl⟩
  rw [result_addReaction _ _ _ _ _ accepted, result_guarded_other _ _ body rfl]
  rfl

end Refused

end Sealed

end ReactionLedger.Service
