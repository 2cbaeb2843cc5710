import ReactionLedger.Proofs.Concurrency.Additions
import ReactionLedger.Proofs.Store.Order

set_option autoImplicit false

namespace ReactionLedger

open Service (Answer Job)

namespace Event

def Orderly : Event → Prop
  | .task t => (Move.task t).Orderly
  | _ => True

def TellsTime : Event → Prop
  | .task t => (Move.task t).TellsTime
  | _ => True

theorem Orderly.tellsTime {e : Event} (orderly : e.Orderly) : e.TellsTime := by
  cases e with
  | task t =>
    refine Move.tellsTime_of_keepsTime ?_
    cases t with
    | setClock now => exact orderly
    | _ => trivial
  | _ => trivial

end Event

namespace System

variable {σ : System}

theorem resume_cases (σ : System) (s : SessionName) (job : Job) (p : Program Answer) :
    (∃ outcome, p.ahead.2 = .done outcome ∧
      σ.resume s job p = ⟨σ.setThread s none, p.ahead.1, some ⟨s, job, outcome⟩⟩) ∨
    (∀ outcome, p.ahead.2 ≠ .done outcome) ∧
      σ.resume s job p = ⟨σ.setThread s (some ⟨job, p.ahead.2⟩), p.ahead.1, none⟩ := by
  unfold resume
  split
  next journal outcome stopped => exact .inl ⟨outcome, by rw [stopped], by rw [stopped]⟩
  next journal rest going same =>
    rw [same]
    exact .inr ⟨fun outcome ended => going outcome ended, rfl⟩

theorem world_resume (σ : System) (s : SessionName) (job : Job) (p : Program Answer) :
    (σ.resume s job p).system.world = σ.world := by
  unfold resume
  split <;> rfl

theorem world_step (σ : System) (e : Event) :
    (σ.step e).system.world = σ.world ∨
      ∃ m : Move, (∀ t, m = .task t → e = .task t) ∧
        (σ.step e).system.world = m.play σ.world := by
  cases e with
  | start s job =>
    simp only [step]
    split
    · exact .inl (world_resume σ s job _)
    · exact .inl rfl
  | proceed s =>
    simp only [step]
    split
    next job c next _ =>
      exact .inr ⟨.call s c, fun t same => (by cases same), world_resume _ s job _⟩
    next => exact .inl rfl
  | directory s change =>
    simp only [step]
    split
    · exact .inr ⟨.directory s change, fun t same => (by cases same), rfl⟩
    · exact .inl rfl
  | settle s how =>
    simp only [step]
    split
    · exact .inr ⟨.settle s how, fun t same => (by cases same), rfl⟩
    · exact .inl rfl
  | task t => exact .inr ⟨.task t, fun t same => Move.task.inj same ▸ rfl, rfl⟩

theorem reachable_step (reached : σ.world.Reachable) (e : Event) :
    (σ.step e).system.world.Reachable := by
  rcases world_step σ e with same | ⟨m, -, played⟩
  · exact same ▸ reached
  · exact played ▸ reached.play m

end System

namespace World

structure InPlace (w : World) : Prop where
  stored : w.committed.isSome = true
  readable : w.Everywhere fun t => ∀ r ∈ t.reactions, r.Readable

theorem InPlace.change {w w' : World} {actor : Option SessionName} (inPlace : w.InPlace)
    (change : Change w actor w') : w'.InPlace where
  stored := isSome_committed inPlace.stored change
  readable := inPlace.readable.change (fun t t' edit before r mem => by
    rcases edit.readable r mem with old | readable
    · exact before r old
    · exact readable) change

theorem InPlace.exists_view {w : World} (inPlace : w.InPlace) (s : SessionName) :
    ∃ t, w.view s = some t := by
  by_cases writes : ∃ t, w.writer = some (s, t)
  · obtain ⟨t, own⟩ := writes
    exact ⟨t, view_of_writer own⟩
  · rw [view_of_not_writer (not_exists.mp writes)]
    exact Option.isSome_iff_exists.mp inPlace.stored

theorem initial_inPlace : initial.InPlace where
  stored := rfl
  readable :=
    ⟨fun t stored => Option.some.inj stored ▸ nofun, fun s t own => by simp [initial] at own⟩

end World

namespace System

theorem holds_after {P : World → Prop} (start : P World.initial)
    (change : ∀ w w' actor, P w → World.Change w actor w' → P w') {events : List Event}
    (orderly : ∀ e ∈ events, e.Orderly) : P (initial.after events).world := by
  induction events using List.reverseRecOn with
  | nil => exact start
  | append_singleton events e ih =>
    have before := ih fun f mem => orderly f (List.mem_append_left _ mem)
    rw [after, List.foldl_append]
    rcases world_step (initial.after events) e with same | ⟨m, own, played⟩
    · exact same ▸ before
    · have orderly' : m.Orderly := by
        cases m with
        | task t =>
          obtain rfl := own t rfl
          exact orderly (.task t) (by simp)
        | _ => trivial
      have along : ∀ w, World.Changes m.session? (initial.after events).world w → P w := by
        intro w changes
        induction changes with
        | refl => exact before
        | tail _ last held => exact change _ _ _ held last
      exact played ▸ along _ (m.play_changes orderly' _)

theorem timely_after {events : List Event} (telling : ∀ e ∈ events, e.TellsTime) :
    (initial.after events).world.Timely := by
  induction events using List.reverseRecOn with
  | nil => exact World.initial_onTime.timely
  | append_singleton events e ih =>
    have before := ih fun f mem => telling f (List.mem_append_left _ mem)
    rw [after, List.foldl_append]
    rcases world_step (initial.after events) e with same | ⟨m, own, played⟩
    · exact before.congr (congrArg World.clock same)
    · have tells : m.TellsTime := by
        cases m with
        | task t =>
          obtain rfl := own t rfl
          exact telling (.task t) (by simp)
        | _ => trivial
      exact played ▸ Move.play_timely tells before

variable {events : List Event} (orderly : ∀ e ∈ events, e.Orderly)
include orderly

theorem inPlace_after : (initial.after events).world.InPlace :=
  holds_after World.initial_inPlace (fun _ _ _ inPlace change => inPlace.change change) orderly

theorem kept_after : (initial.after events).world.Everywhere Tables.Kept :=
  holds_after
    ⟨fun _ stored => Option.some.inj stored ▸ Tables.kept_empty, fun _ _ own => by cases own⟩
    (fun _ _ _ held change => held.change (fun _ _ edit kept => kept.edit edit) change) orderly

theorem onTime_after : (initial.after events).world.OnTime :=
  holds_after World.initial_onTime (fun _ _ _ onTime change => onTime.change change) orderly

end System

end ReactionLedger
