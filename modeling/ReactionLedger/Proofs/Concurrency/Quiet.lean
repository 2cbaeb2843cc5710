import ReactionLedger.Proofs.Concurrency.Watching
import ReactionLedger.Proofs.Store.Flushing

set_option autoImplicit false

namespace ReactionLedger

open Program (Post)
open Service (Answer Job)

namespace Service

open Program

def awaits : Bool → Exchange → Bool
  | _, ⟨.add _, .ok _⟩ => true
  | pending, ⟨.flush, .error (.store (.inactive _))⟩ => pending
  | _, ⟨.flush, _⟩ => false
  | _, ⟨.rollback, _⟩ => false
  | pending, _ => pending

def awaiting (calls : List Exchange) : Bool := calls.foldl awaits false

def Clears {α : Type} : Post α := fun calls _ _ => awaiting calls = false

def pendingWatch : Watch where
  step := awaits
  rollback _ _ := rfl
  refused _ _ _ := rfl
  silent _ c _ other := by
    cases c with
    | add key => simp [Call.method] at other
    | flush => simp [Call.method] at other
    | rollback => simp [Call.method] at other
    | _ => rfl
  flushed _ reply _ taken := by
    rcases reply with e | done
    · cases e with
      | store fault => exact absurd rfl (taken fault)
      | _ => rfl
    · rfl

end Service

namespace World

theorem pending_changeDirectory (w : World) (s r : SessionName) (c : Directory.Change) :
    (w.changeDirectory s c).2.pending r = w.pending r := by
  unfold changeDirectory
  split
  · rfl
  · split
    · split <;> rfl
    · rfl

theorem pending_commit {w : World} {s : SessionName} (quiet : w.pending s = []) :
    (w.commit s).2.pending s = [] := by
  unfold commit
  split
  · exact quiet
  · rw [flush_idle quiet]
    dsimp only [publish]
    split
    · split <;> exact quiet
    · exact quiet

theorem pending_reply {w : World} {s : SessionName} {pending : Bool}
    (told : w.pending s = [] ∨ pending = true) (c : Call) :
    (w.reply s c).2.pending s = [] ∨ Service.awaits pending ⟨c, (w.reply s c).1⟩ = true := by
  cases c with
  | userKnown user => exact told
  | findReaction key => exact told
  | joinedRows conditions => exact told
  | deleteReaction key =>
    rcases delete_cases w s key with ⟨t, -, deleted⟩ | ⟨e, failed⟩
    · simp only [reply, deleted]
      exact told
    · simp only [reply, failed]
      exact told
  | add key => exact .inr rfl
  | flush =>
    simp only [reply]
    unfold flush
    split
    · next quiet => exact .inl (List.isEmpty_iff.mp quiet)
    · split
      · exact told
      · exact .inl (by simp [failFlush])
      · split
        · split
          · exact .inl (by simp [write])
          · exact .inl (by simp [failFlush])
        · exact .inl (by simp [failFlush])
  | refresh key => exact told
  | rollback => exact .inl (by simp [reply])

end World

namespace System

structure Quiet (s : SessionName) (σ : System) : Prop where
  reached : σ.world.Reachable
  free : σ.threads s = none → σ.world.pending s = []
  busy : ∀ job rest, σ.threads s = some ⟨job, rest⟩ → ∃ calls journal,
    rest.Ensures Service.Clears calls journal ∧
      (σ.world.pending s = [] ∨ Service.awaiting calls = true)

variable {s : SessionName} {σ : System}

theorem quiet_iff : Quiet s σ ↔ σ.world.Reachable ∧
    Tended Service.pendingWatch (fun w => w.pending s = []) s σ :=
  ⟨fun quiet => ⟨quiet.reached, quiet.free, quiet.busy⟩,
    fun ⟨reached, tended⟩ => ⟨reached, tended.free, tended.busy⟩⟩

theorem quiet_step (quiet : Quiet s σ) (e : Event) : Quiet s (σ.step e).system := by
  obtain ⟨reached, tended⟩ := quiet_iff.mp quiet
  refine quiet_iff.mpr ⟨reachable_step reached e, tended_step tended reached ?_ ?_ ?_ ?_ e⟩
  · exact fun pending c told => World.pending_reply told c
  · exact fun w spared clear => spared.pending.trans clear
  · exact fun change clear => (World.pending_changeDirectory _ _ _ _).trans clear
  · intro _ how clear
    cases how with
    | commit => exact World.pending_commit clear
    | rollback => exact (World.pending_discard _ _ _).trans (if_pos rfl)
    | close => exact (World.pending_discard _ _ _).trans (if_pos rfl)

theorem quiet_after (s : SessionName) (events : List Event) : Quiet s (initial.after events) := by
  induction events using List.reverseRecOn with
  | nil => exact ⟨⟨[], rfl⟩, fun _ => rfl, nofun⟩
  | append_singleton events e ih =>
    rw [after, List.foldl_append]
    exact quiet_step ih e

end System

end ReactionLedger
