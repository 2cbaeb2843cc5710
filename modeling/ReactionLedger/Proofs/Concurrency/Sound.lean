import ReactionLedger.Proofs.Concurrency.Quiet
import ReactionLedger.Proofs.Store.Faults

set_option autoImplicit false

namespace ReactionLedger

open Service (Answer Job)

namespace Service

def troubles : Bool → Exchange → Bool
  | _, ⟨.flush, .error (.store _)⟩ => true
  | _, ⟨.rollback, _⟩ => false
  | troubled, _ => troubled

def faultWatch : Watch where
  step := troubles
  rollback _ _ := rfl
  refused _ _ _ := rfl
  silent _ c _ other := by
    cases c with
    | add key => simp [Call.method] at other
    | flush => simp [Call.method] at other
    | rollback => simp [Call.method] at other
    | _ => rfl
  flushed raised reply low taken := by
    obtain rfl : raised = false := low.elim id fun ⟨_, same⟩ => same
    rcases reply with e | done
    · cases e with
      | store fault => exact absurd rfl (taken fault)
      | _ => rfl
    · rfl

end Service

namespace World

variable {w : World} {s : SessionName}

theorem failed_publish (w : World) (s r : SessionName) :
    (w.publish s).failed r = w.failed r := by
  unfold publish
  split
  · split <;> rfl
  · rfl

theorem failed_changeDirectory (w : World) (s r : SessionName) (c : Directory.Change) :
    (w.changeDirectory s c).2.failed r = w.failed r := by
  unfold changeDirectory
  split
  · rfl
  · split
    · split <;> rfl
    · rfl

theorem troubles_of_isStore {e : Failure} (store : e.isStore = true) (troubled : Bool) :
    Service.troubles troubled ⟨.flush, .error e⟩ = true := by
  cases e with
  | store fault => rfl
  | _ => cases store

theorem failed_reply (timely : w.Timely) {troubled : Bool}
    (told : w.failed s = none ∨ troubled = true) (c : Call) :
    (w.reply s c).2.failed s = none ∨ Service.troubles troubled ⟨c, (w.reply s c).1⟩ = true := by
  cases c with
  | userKnown user => exact told
  | findReaction key => exact told
  | joinedRows conditions => exact told
  | deleteReaction key =>
    rcases delete_cases w s key with ⟨t, -, deleted⟩ | ⟨e, failed⟩
    · simp only [reply, deleted]
      exact told
    · simp only [reply, failed]
      exact told
  | add key => exact told
  | flush =>
    simp only [reply]
    unfold flush
    split
    · exact told
    · split
      · exact .inr rfl
      · exact .inr rfl
      · split
        · split
          · exact told
          · next refused =>
            exact .inr (troubles_of_isStore (isStore_of_insertAll timely refused) _)
        · exact .inr rfl
  | refresh key => exact told
  | rollback => exact .inl (by simp [reply])

end World

namespace System

theorem tended_after {events : List Event} (telling : ∀ e ∈ events, e.TellsTime)
    (s : SessionName) :
    Tended Service.faultWatch (fun w => w.failed s = none) s (initial.after events) := by
  induction events using List.reverseRecOn with
  | nil => exact ⟨fun _ => rfl, nofun⟩
  | append_singleton events e ih =>
    have before : ∀ f ∈ events, f.TellsTime :=
      fun f mem => telling f (List.mem_append_left _ mem)
    have quiet := quiet_after s events
    rw [after, List.foldl_append]
    refine tended_step (ih before) quiet.reached ?_ ?_ ?_ ?_ e
    · exact fun troubled c told => World.failed_reply (timely_after before) told c
    · exact fun w spared sound => spared.failed.trans sound
    · exact fun change sound => (World.failed_changeDirectory _ _ _ _).trans sound
    · intro free how sound
      cases how with
      | commit =>
        have done := congrArg Prod.snd (World.commit_eq (quiet.free free) sound)
        exact (congrArg (World.failed · s) done).trans ((World.failed_publish _ s s).trans sound)
      | rollback => exact (World.failed_discard _ _ _).trans (if_pos rfl)
      | close => exact (World.failed_discard _ _ _).trans (if_pos rfl)

theorem unfailed_after {events : List Event} (telling : ∀ e ∈ events, e.TellsTime) {s : SessionName}
    (free : (initial.after events).threads s = none) :
    (initial.after events).world.failed s = none := (tended_after telling s).free free

theorem sound_after {events : List Event} (orderly : ∀ e ∈ events, e.Orderly) {s : SessionName}
    (free : (initial.after events).threads s = none) :
    (initial.after events).world.failed s = none :=
  unfailed_after (fun e mem => (orderly e mem).tellsTime) free

end System

end ReactionLedger
