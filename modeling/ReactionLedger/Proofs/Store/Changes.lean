import ReactionLedger.Proofs.Store.Tables
import ReactionLedger.Store.Interleaving

/-!
What a move can do to a store, said once: every move is a chain of the changes below.  A session's
changes leave the work of all others alone, and only publishing touches the committed tables.
-/

set_option autoImplicit false

namespace ReactionLedger

open Relation (ReflTransGen)

namespace World

section Parts

variable (w : World) (s r : SessionName) (keys : List Key) (e : Option Failure)

@[simp]
theorem view_setPending : (w.setPending s keys).view r = w.view r := rfl

@[simp]
theorem view_setFailed : (w.setFailed s e).view r = w.view r := rfl

@[simp]
theorem mayWrite_setPending : (w.setPending s keys).mayWrite r = w.mayWrite r := rfl

@[simp]
theorem committed_setPending : (w.setPending s keys).committed = w.committed := rfl

@[simp]
theorem committed_setFailed : (w.setFailed s e).committed = w.committed := rfl

@[simp]
theorem writer_setPending : (w.setPending s keys).writer = w.writer := rfl

@[simp]
theorem writer_setFailed : (w.setFailed s e).writer = w.writer := rfl

@[simp]
theorem clock_setPending : (w.setPending s keys).clock = w.clock := rfl

@[simp]
theorem clock_setFailed : (w.setFailed s e).clock = w.clock := rfl

@[simp]
theorem pending_setPending :
    (w.setPending s keys).pending r = if r = s then keys else w.pending r := rfl

@[simp]
theorem failed_setPending : (w.setPending s keys).failed r = w.failed r := rfl

@[simp]
theorem pending_setFailed : (w.setFailed s e).pending r = w.pending r := rfl

@[simp]
theorem failed_setFailed : (w.setFailed s e).failed r = if r = s then e else w.failed r := rfl

@[simp]
theorem committed_discard : (w.discard s).committed = w.committed := by
  unfold discard
  dsimp only
  split <;> rfl

@[simp]
theorem clock_discard : (w.discard s).clock = w.clock := by
  unfold discard
  dsimp only
  split <;> rfl

@[simp]
theorem pending_discard : (w.discard s).pending r = if r = s then [] else w.pending r := by
  unfold discard
  dsimp only
  split <;> rfl

@[simp]
theorem failed_discard : (w.discard s).failed r = if r = s then none else w.failed r := by
  unfold discard
  dsimp only
  split <;> rfl

theorem writer_discard :
    (w.discard s).writer = w.writer.filter fun writer => decide (writer.1 ≠ s) := by
  rcases hw : w.writer with _ | ⟨t, tables⟩
  · simp [discard, hw]
  · by_cases same : t = s <;> simp [discard, hw, same, Option.filter]

theorem writer_discard_of_ne {tables : Tables} (other : r ≠ s) :
    (w.discard s).writer = some (r, tables) ↔ w.writer = some (r, tables) := by
  rw [writer_discard, Option.filter_eq_some_iff]
  simp [other]

theorem not_writer_discard (tables : Tables) : (w.discard s).writer ≠ some (s, tables) := by
  rw [writer_discard]
  intro same
  have kept := (Option.filter_eq_some_iff.mp same).2
  simp at kept

end Parts

theorem view_of_writer {w : World} {s : SessionName} {t : Tables} (own : w.writer = some (s, t)) :
    w.view s = some t := by
  simp [view, own]

theorem view_of_not_writer {w : World} {s : SessionName}
    (clean : ∀ t, w.writer ≠ some (s, t)) : w.view s = w.committed := by
  unfold view
  split
  next r t writer =>
    by_cases same : r = s
    · exact absurd (same ▸ writer) (clean t)
    · rw [if_neg same]
  next => rfl

theorem view_cases {w : World} {s : SessionName} {t : Tables} (seen : w.view s = some t) :
    w.writer = some (s, t) ∨ w.committed = some t := by
  by_cases own : ∃ t, w.writer = some (s, t)
  · obtain ⟨t', own⟩ := own
    have same := (view_of_writer own).symm.trans seen
    exact .inl (Option.some.inj same ▸ own)
  · exact .inr ((view_of_not_writer (not_exists.mp own)).symm.trans seen)

inductive Change (w : World) : Option SessionName → World → Prop
  | queue (s : SessionName) (keys : List Key) : Change w (some s) (w.setPending s keys)
  | edit {s : SessionName} {t t' : Tables} (seen : w.view s = some t) (free : w.mayWrite s = true)
      (edits : ReflTransGen Tables.Edit t t') :
      Change w (some s) { w with writer := some (s, t') }
  | discard (s : SessionName) : Change w (some s) (w.discard s)
  | fail (s : SessionName) (e : Failure) : Change w (some s) (w.setFailed s (some e))
  | publish {s : SessionName} {t : Tables} (own : w.writer = some (s, t)) :
      Change w (some s) { w with committed := some t, writer := none }
  | owner {t t' : Tables} (stored : w.committed = some t) (idle : w.writer = none)
      (edit : Tables.Edit t t') : Change w none { w with committed := some t' }
  | tick {now : String} {stamp : Stamp} (shows : Shows now stamp) :
      Change w none { w with clock := some now }

/-- What only the store's owner does: rows of any content, whole tables, any clock. -/
inductive Upset (w : World) : World → Prop
  | row {t t' : Tables} {d : Draft} {row : StoredReaction} (stored : w.committed = some t)
      (idle : w.writer = none) (inserted : t.insert d = .ok (t', row)) :
      Upset w { w with committed := some t' }
  | create (missing : w.committed = none) : Upset w { w with committed := some .empty }
  | drop (idle : w.writer = none) : Upset w { w with committed := none }
  | clock (now : Option String) : Upset w { w with clock := now }

def Changes (actor : Option SessionName) : World → World → Prop :=
  ReflTransGen fun w w' => Change w actor w'

theorem tables_eq_ok {w : World} {s : SessionName} {missing : Failure} {t : Tables}
    (read : w.tables s missing = .ok t) : w.view s = some t ∧ w.failed s = none := by
  unfold tables at read
  split at read <;> simp_all

theorem tables_of_view {w : World} {s : SessionName} {missing : Failure} {t : Tables}
    (seen : w.view s = some t) (sound : w.failed s = none) : w.tables s missing = .ok t := by
  simp [tables, seen, sound]

theorem flush_changes (w : World) (s : SessionName) : Changes (some s) w (w.flush s).2 := by
  have failing (e : Failure) : Changes (some s) w (w.failFlush s e).2 :=
    .tail (.single (.discard s)) (.fail s e)
  unfold flush
  split
  · exact .refl
  · split
    · exact .refl
    · exact failing _
    · next t seen =>
      split
      · next free =>
        split
        · next t' stored =>
          exact .tail (.single (.queue s [])) (.edit seen free (Tables.edits_of_insertAll stored))
        · exact failing _
      · exact failing _

theorem reply_changes (w : World) (s : SessionName) (c : Call) :
    Changes (some s) w (w.reply s c).2 := by
  cases c with
  | userKnown user => exact .refl
  | findReaction k => exact .refl
  | joinedRows conditions => exact .refl
  | deleteReaction k =>
    simp only [reply, delete]
    split
    · exact .refl
    · next t read =>
      split
      · next free => exact .single (.edit (tables_eq_ok read).1 free (.single (.delete _)))
      · exact .refl
  | add k => exact .single (.queue s _)
  | flush => exact flush_changes w s
  | refresh k => exact .refl
  | rollback => exact .single (.discard s)

theorem commit_changes (w : World) (s : SessionName) : Changes (some s) w (w.commit s).2 := by
  unfold commit
  split
  · exact .refl
  · have flushed := flush_changes w s
    split
    · next w' result =>
      rw [result] at flushed
      simp only [publish]
      split
      · next r t writer =>
        split
        · next same => exact .tail flushed (.publish (same ▸ writer))
        · exact flushed
      · exact flushed
    · next e w' result =>
      rw [result] at flushed
      exact flushed

end World

namespace Directory

theorem Change.nodup_apply {c : Change} {users users' : List User}
    (applied : c.apply users = .ok users') (ids : (users.map User.id).Nodup) :
    (users'.map User.id).Nodup := by
  cases c with
  | enroll user =>
    simp only [apply] at applied
    split at applied
    next => simp at applied
    next new =>
      rw [← Except.ok.inj applied]
      refine nodup_concat ids fun u mem same => new ?_
      exact List.any_eq_true.mpr ⟨u, mem, by simp [same]⟩
  | dismiss id =>
    rw [← Except.ok.inj applied]
    exact nodup_filter ids _

end Directory

namespace World

theorem changeDirectory_changes (w : World) (s : SessionName) (c : Directory.Change) :
    Changes (some s) w (w.changeDirectory s c).2 := by
  unfold changeDirectory
  split
  · exact .refl
  · next t read =>
    have seen := (tables_eq_ok read).1
    split
    · next free =>
      split
      · next users applied =>
        have edit := Tables.Edit.directory (Directory.Change.nodup_apply applied)
        exact .single (.edit seen free (.single edit))
      · exact .single (.edit seen free .refl)
    · exact .refl

end World

namespace Task

theorem change_cases (w : World) (missing : Failure) (number : Option Cell)
    (f : Tables → Except Failure (Tables × Result)) :
    (change w missing number f).2 = w ∨
      ∃ t t' result, w.committed = some t ∧ w.writer = none ∧ f t = .ok (t', result) ∧
        (change w missing number f).2 = { w with committed := some t' } := by
  cases stored : w.committed with
  | none => exact .inl (by simp [change, stored])
  | some t =>
    by_cases large : isTooLarge number = true
    · exact .inl (by simp [change, stored, large])
    · cases writer : w.writer with
      | some own => exact .inl (by simp [change, stored, large, writer])
      | none =>
        cases result : f t with
        | error e => exact .inl (by simp [change, stored, large, writer, result])
        | ok done =>
          exact .inr ⟨t, done.1, done.2, rfl, rfl, result,
            by simp [change, stored, large, writer, result]⟩

theorem insertion_upsets (w : World) (result : Result) (d : Draft) :
    (insertion result d w).2 = w ∨ w.Upset (insertion result d w).2 := by
  rcases change_cases w World.noReactions d.created
      fun t => (t.insert d).map fun inserted => (inserted.1, result) with
    same | ⟨t, t', r, stored, idle, made, after⟩
  · exact .inl same
  · right
    cases inserted : t.insert d with
    | error e => simp [inserted, Except.map] at made
    | ok pair =>
      have target : pair.1 = t' := by
        simp only [inserted, Except.map, Except.ok.injEq, Prod.mk.injEq] at made
        exact made.1
      rw [insertion, after, ← target]
      exact .row stored idle inserted

end Task

namespace Move

def KeepsTime : Move → Prop
  | .task (.setClock now) => ∃ text stamp, now = some text ∧ Shows text stamp
  | _ => True

def Orderly : Move → Prop
  | .task (.seed ..) | .task (.insert _) | .task .createTables | .task .dropTables => False
  | m => m.KeepsTime

open World (Change Changes Upset)

theorem play_changes {m : Move} (orderly : m.Orderly) (w : World) :
    Changes m.session? w (m.play w) := by
  have owned (missing : Failure) (number : Option Cell)
      (f : Tables → Except Failure (Tables × Task.Result))
      (edits : ∀ t t' result, f t = .ok (t', result) → Tables.Edit t t') :
      Changes none w (Task.change w missing number f).2 := by
    rcases Task.change_cases w missing number f with
      same | ⟨t, t', result, stored, idle, made, after⟩
    · rw [same]
      exact .refl
    · rw [after]
      exact .single (.owner stored idle (edits t t' result made))
  cases m with
  | call s c => exact World.reply_changes w s c
  | directory s change => exact World.changeDirectory_changes w s change
  | settle s how =>
    cases how with
    | commit => exact World.commit_changes w s
    | rollback => exact .single (.discard s)
    | close => exact .single (.discard s)
  | task t =>
    cases t with
    | putUser id name =>
      refine owned _ _ _ fun t t' result made => ?_
      rcases id with _ | id <;> rcases name with _ | name <;> simp [Task.replaceUser] at made
      rw [← made.1]
      refine .directory fun ids => Directory.nodup_concat (Directory.nodup_filter ids _) ?_
      intro u mem
      simpa using (List.mem_filter.mp mem).2
    | dropUser id =>
      refine owned _ _ _ fun t t' result made => ?_
      simp only [Task.withoutUser, Except.ok.injEq, Prod.mk.injEq] at made
      rw [← made.1]
      exact .directory fun ids => Directory.nodup_filter ids _
    | deleteReaction id =>
      refine owned _ _ _ fun t t' result made => ?_
      simp only [Except.ok.injEq, Prod.mk.injEq] at made
      rw [← made.1]
      exact .delete _
    | dump =>
      simp only [play, Task.run]
      split <;> exact .refl
    | setClock now =>
      obtain ⟨text, stamp, rfl, shows⟩ := orderly
      exact .single (.tick shows)
    | seed => exact orderly.elim
    | insert => exact orderly.elim
    | createTables => exact orderly.elim
    | dropTables => exact orderly.elim

theorem play_upsets (m : Move) (w : World) :
    Changes m.session? w (m.play w) ∨ Upset w (m.play w) := by
  by_cases orderly : m.Orderly
  · exact .inl (play_changes orderly w)
  · have inserted (result : Task.Result) (d : Draft) :
        Changes none w (Task.insertion result d w).2 ∨ Upset w (Task.insertion result d w).2 := by
      rcases Task.insertion_upsets w result d with same | upset
      · rw [same]
        exact .inl .refl
      · exact .inr upset
    cases m with
    | call s c => exact absurd trivial orderly
    | directory s change => exact absurd trivial orderly
    | settle s how => exact absurd trivial orderly
    | task t =>
      cases t with
      | putUser id name => exact absurd trivial orderly
      | dropUser id => exact absurd trivial orderly
      | deleteReaction id => exact absurd trivial orderly
      | dump => exact absurd trivial orderly
      | setClock now => exact .inr (.clock now)
      | seed view comment label author time =>
        simp only [play, Task.run]
        split
        · exact inserted _ _
        · exact .inl .refl
      | insert d => exact inserted _ d
      | createTables =>
        simp only [play, Task.run]
        split
        · exact .inl .refl
        · next missing => exact .inr (.create (by simpa using missing))
      | dropTables =>
        simp only [play, Task.run]
        split
        · exact .inl .refl
        · split
          · exact .inl .refl
          · next idle => exact .inr (.drop (by simpa using idle))

end Move

end ReactionLedger
