import ReactionLedger.Proofs.Store.Invariants

set_option autoImplicit false

namespace ReactionLedger

namespace Tables

structure Kept (t : Tables) : Prop extends Ordered t where
  unique : t.KeysUnique
  keyed : ∀ r ∈ t.reactions, ∃ k : Key, r.hasKey k = true
  readable : ∀ r ∈ t.reactions, r.Readable

theorem kept_empty : empty.Kept := ⟨ordered_empty, List.nodup_nil, nofun, nofun⟩

theorem Kept.edit {t t' : Tables} (kept : t.Kept) (edit : Edit t t') : t'.Kept where
  toOrdered := kept.toOrdered.edit edit
  unique := kept.unique.edit edit
  keyed r mem := (edit.row r mem).elim (kept.keyed r) And.right
  readable r mem := (edit.row r mem).elim (kept.readable r) And.left

end Tables

namespace World

def OnTime (w : World) : Prop := ∃ text stamp, w.clock = some text ∧ Shows text stamp

theorem initial_onTime : initial.OnTime := ⟨_, _, rfl, ClockText.shows_start⟩

theorem OnTime.congr {w w' : World} (timely : w.OnTime) (same : w'.clock = w.clock) :
    w'.OnTime := by
  obtain ⟨text, stamp, shown, shows⟩ := timely
  exact ⟨text, stamp, same.trans shown, shows⟩

theorem OnTime.change {w w' : World} {actor : Option SessionName} (timely : w.OnTime)
    (change : Change w actor w') : w'.OnTime := by
  cases change with
  | discard s => exact timely.congr (clock_discard w s)
  | tick shows => exact ⟨_, _, rfl, shows⟩
  | _ => exact timely

end World

namespace Task

theorem clock_change (w : World) (missing : Failure) (number : Option Cell)
    (f : Tables → Except Failure (Tables × Result)) :
    (change w missing number f).2.clock = w.clock := by
  rcases change_cases w missing number f with same | ⟨t, t', result, -, -, -, after⟩
  · rw [same]
  · rw [after]

end Task

namespace World

theorem Change.clock {w w' : World} {s : SessionName} (change : Change w (some s) w') :
    w'.clock = w.clock := by
  cases change with
  | discard s => exact clock_discard w s
  | _ => rfl

theorem Changes.clock {w w' : World} {s : SessionName} (changes : Changes (some s) w w') :
    w'.clock = w.clock := by
  induction changes with
  | refl => rfl
  | tail _ last before => exact last.clock.trans before

end World

theorem Move.clock_play {m : Move} (other : ∀ now, m ≠ .task (.setClock now)) (w : World) :
    (m.play w).clock = w.clock := by
  cases m with
  | call s c => exact (World.reply_changes w s c).clock
  | directory s change => exact (World.changeDirectory_changes w s change).clock
  | settle s how =>
    cases how with
    | commit => exact (World.commit_changes w s).clock
    | rollback => exact World.clock_discard w s
    | close => exact World.clock_discard w s
  | task t =>
    cases t with
    | putUser id name => exact Task.clock_change ..
    | dropUser id => exact Task.clock_change ..
    | insert d => exact Task.clock_change ..
    | deleteReaction id => exact Task.clock_change ..
    | seed view comment label author time =>
      simp only [play, Task.run]
      split
      · exact Task.clock_change ..
      · rfl
    | dump =>
      simp only [play, Task.run]
      split <;> rfl
    | createTables =>
      simp only [play, Task.run]
      split <;> rfl
    | dropTables =>
      simp only [play, Task.run]
      split
      · rfl
      · split <;> rfl
    | setClock now => exact absurd rfl (other now)

theorem Move.play_onTime {m : Move} {w : World} (keeps : m.KeepsTime) (timely : w.OnTime) :
    (m.play w).OnTime := by
  by_cases sets : ∃ now, m = .task (.setClock now)
  · obtain ⟨now, rfl⟩ := sets
    obtain ⟨text, stamp, rfl, shows⟩ := keeps
    exact ⟨text, stamp, rfl, shows⟩
  · exact timely.congr (Move.clock_play (not_exists.mp sets) w)

namespace Move

-- a clock that shows nothing is refused by the time column
def TellsTime : Move → Prop
  | .task (.setClock now) => ∀ text, now = some text → ∃ stamp, Shows text stamp
  | _ => True

theorem tellsTime_of_keepsTime {m : Move} (keeps : m.KeepsTime) : m.TellsTime := by
  unfold TellsTime
  split
  next now =>
    obtain ⟨text, stamp, rfl, shows⟩ := keeps
    intro text' same
    exact ⟨stamp, Option.some.inj same ▸ shows⟩
  next => trivial

end Move

namespace World

def Timely (w : World) : Prop := ∀ text, w.clock = some text → ∃ stamp, Shows text stamp

theorem OnTime.timely {w : World} (onTime : w.OnTime) : w.Timely := by
  obtain ⟨text, stamp, shown, shows⟩ := onTime
  intro text' same
  obtain rfl := Option.some.inj (shown.symm.trans same)
  exact ⟨stamp, shows⟩

theorem Timely.congr {w w' : World} (timely : w.Timely) (same : w'.clock = w.clock) :
    w'.Timely :=
  fun text shown => timely text (same ▸ shown)

end World

theorem Move.play_timely {m : Move} {w : World} (tells : m.TellsTime) (timely : w.Timely) :
    (m.play w).Timely := by
  by_cases sets : ∃ now, m = .task (.setClock now)
  · obtain ⟨now, rfl⟩ := sets
    exact tells
  · exact timely.congr (Move.clock_play (not_exists.mp sets) w)

namespace World

structure Legible (key : Key) (w : World) : Prop where
  committed : ∀ t, w.committed = some t → ∀ r ∈ t.reactions, r.hasKey key = true → r.Readable
  written : ∀ s t, w.writer = some (s, t) → ∀ r ∈ t.reactions, r.hasKey key = true → r.Readable

theorem Legible.change {key : Key} {w w' : World} {actor : Option SessionName}
    (legible : Legible key w) (change : Change w actor w') : Legible key w' := by
  have held : w.Everywhere fun t => ∀ r ∈ t.reactions, r.hasKey key = true → r.Readable :=
    ⟨legible.committed, legible.written⟩
  have after := held.change (fun t t' edit before r mem has => by
    rcases edit.readable r mem with old | readable
    · exact before r old has
    · exact readable) change
  exact ⟨after.committed, after.written⟩

theorem Reachable.legible {w : World} {key : Key} {t : Tables} (reached : w.Reachable)
    (stored : w.committed = some t) (absent : ¬ t.Holds key) : Legible key w := by
  refine ⟨fun t' same r mem has => ?_, fun s t' own r mem has => ?_⟩
  · rw [stored, Option.some.injEq] at same
    exact absurd ⟨r, same ▸ mem, has⟩ absent
  · obtain ⟨c, same, old⟩ := reached.writesReadable s t' own
    rw [stored, Option.some.injEq] at same
    rcases old r mem with before | readable
    · exact absurd ⟨r, same ▸ before, has⟩ absent
    · exact readable

structure InOrder (key : Key) (w : World) : Prop where
  reached : w.Reachable
  onTime : w.OnTime
  stored : w.committed.isSome = true
  legible : Legible key w

theorem isSome_committed {w w' : World} {actor : Option SessionName}
    (stored : w.committed.isSome = true) (change : Change w actor w') :
    w'.committed.isSome = true := by
  cases change with
  | discard s => simpa using stored
  | publish own => rfl
  | owner stored idle edit => rfl
  | _ => exact stored

theorem InOrder.play {key : Key} {w : World} {m : Move} (order : InOrder key w)
    (orderly : m.Orderly) : InOrder key (m.play w) := by
  have along : ∀ w', Changes m.session? w w' →
      w'.OnTime ∧ w'.committed.isSome = true ∧ Legible key w' := by
    intro w' changes
    induction changes with
    | refl => exact ⟨order.onTime, order.stored, order.legible⟩
    | tail _ last before =>
      exact ⟨before.1.change last, isSome_committed before.2.1 last, before.2.2.change last⟩
  obtain ⟨onTime, stored, legible⟩ := along _ (m.play_changes orderly w)
  exact ⟨order.reached.play m, onTime, stored, legible⟩

end World

end ReactionLedger
