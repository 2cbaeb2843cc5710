import ReactionLedger.Proofs.Session.Results
import ReactionLedger.Proofs.Store.Flushing

set_option autoImplicit false

namespace ReactionLedger

open Program (result)
open Service (addReaction removeReaction insertReaction storeReaction)

namespace World

structure Unhindered (s : SessionName) (t : Tables) (w : World) : Prop where
  seen : w.view s = some t
  quiet : w.pending s = []
  sound : w.failed s = none
  turn : w.mayWrite s = true

namespace Unhindered

variable {w : World} {s : SessionName} {t : Tables}

theorem tables (free : Unhindered s t w) (missing : Failure) : w.tables s missing = .ok t :=
  tables_of_view free.seen free.sound

theorem removal (free : Unhindered s t w) (view comment : Option Uuid) (label : String)
    (user : Option String) :
    let key : Key := ⟨view, comment, Text.trim label, user⟩
    result (perform s) w (removeReaction view comment label user) =
      (.ok (decide (t.Holds key)),
        { w with writer := some (s, (t.deleteWhere (StoredReaction.hasKey key)).1) }) := by
  intro key
  set w' : World :=
    { w with writer := some (s, (t.deleteWhere (StoredReaction.hasKey key)).1) }
  have deleted : perform s (.deleteReaction key) w =
      ⟨.ok ((t.deleteWhere (StoredReaction.hasKey key)).2 : Int), [], w'⟩ := by
    simp only [perform, reply, delete, free.tables, free.turn, if_true]
    rfl
  have flushed : perform s .flush w' = ⟨.ok (), [], w'⟩ := by
    simp only [perform, reply, flush_idle (show w'.pending s = [] from free.quiet)]
  have body : result (perform s) w (Service.deletion key) =
      (.ok ((t.deleteWhere (StoredReaction.hasKey key)).2 : Int), w') := by
    simp only [Service.result_deletion, deleted, flushed]
    rfl
  have counted : decide (((t.deleteWhere (StoredReaction.hasKey key)).2 : Int) ≠ 0) =
      decide (t.Holds key) := by
    rw [decide_eq_decide, ← t.count_ne_zero_iff, Int.natCast_ne_zero]
  rw [Service.result_removeReaction, Service.result_guarded_ok _ _ body, ← counted]
  rfl

theorem storing (free : Unhindered s t w) (key : Key) :
    result (perform s) w (storeReaction key) =
      if t.knows key.author then
        match t.find key with
        | .error e => (.error e, w)
        | .ok (some stored) => (.ok (.before stored), w)
        | .ok none => result (perform s) w (insertReaction key)
      else (.error (.unknownUser key.author), w) := by
  have known : perform s (.userKnown key.author) w = ⟨.ok (t.knows key.author), [], w⟩ := by
    simp [perform, reply, free.tables, Except.map]
  have found : perform s (.findReaction key) w = ⟨t.find key, [], w⟩ := by
    simp [perform, reply, free.tables, Except.bind]
  simp only [Service.result_storeReaction, known, found]
  cases t.knows key.author with
  | false => rfl
  | true => rcases t.find key with e | _ | stored <;> rfl

variable {view comment : Uuid} {label author now : String} {stamp : Stamp} {reaction : Reaction}

theorem insertion (free : Unhindered s t w) (unique : t.KeysUnique) (shown : w.clock = some now)
    (shows : Shows now stamp) :
    let key : Key := ⟨some view, some comment, label, some author⟩
    let row := t.newRow view comment label author now
    ¬ t.Holds key → row.load = .ok reaction →
      result (perform s) w (insertReaction key) = (.ok (.now reaction),
        { (w.setPending s [key]).setPending s [] with
          writer := some (s, { t with reactions := t.reactions ++ [row] }) }) := by
  intro key row absent load
  have added : perform s (.add key) w = ⟨.ok (), [], w.setPending s [key]⟩ := by
    simp [perform, reply, free.quiet]
  have queued : (w.setPending s [key]).pending s = [key] := by simp
  have stored : insertOne w.clock t key =
      .ok { t with reactions := t.reactions ++ [row] } := by
    rw [shown]
    exact Tables.insertOne_absent shows absent
  have flushed := flush_stores queued free.sound free.seen free.turn stored
  set w' : World := { (w.setPending s [key]).setPending s [] with
    writer := some (s, { t with reactions := t.reactions ++ [row] }) }
  have later : Tables.KeysUnique { t with reactions := t.reactions ++ [row] } :=
    unique.edit (.insert stored)
  have found : w'.refresh s key = .ok reaction :=
    refresh_of_mem free.sound (view_of_writer rfl) later
      (List.mem_append_right _ List.mem_cons_self) (Tables.newRow_hasKey ..) load
  have flush : perform s .flush (w.setPending s [key]) = ⟨.ok (), [], w'⟩ := by
    simp only [perform, reply, flushed]
  have refresh : perform s (.refresh key) w' = ⟨.ok reaction, [], w'⟩ := by
    simp only [perform, reply, found]
  rw [Service.result_insertReaction]
  simp only [added, flush, refresh]
  rfl

theorem addition_refused {fault : Label.Fault} (refused : Label.normalize label = .error fault)
    (w : World) (view comment : Option Uuid) (user : Option String) :
    result (perform s) w (addReaction view comment label user) = (.error (.label fault), w) := by
  rw [addReaction, refused]
  rfl

section Accepted

variable {core : String} (free : Unhindered s t w) (accepted : Label.normalize label = .ok core)
include free accepted

theorem addition_of_stranger {user : Option String} (stranger : t.knows user = false)
    (view comment : Option Uuid) :
    result (perform s) w (addReaction view comment label user) =
      (.error (.unknownUser user), w) := by
  have stored := free.storing ⟨view, comment, core, user⟩
  rw [stranger, if_neg (by simp)] at stored
  rw [Service.result_addReaction _ _ _ _ _ accepted]
  simp only [Service.result_guarded_other _ _ stored rfl]
  rfl

theorem addition_of_held {row : StoredReaction} {view comment : Option Uuid}
    {user : Option String} (unique : t.KeysUnique) (known : t.knows user = true)
    (mem : row ∈ t.reactions) (has : row.hasKey ⟨view, comment, core, user⟩ = true)
    (load : row.load = .ok reaction) :
    result (perform s) w (addReaction view comment label user) = (.ok reaction, w) := by
  have stored := free.storing ⟨view, comment, core, user⟩
  rw [if_pos known, Tables.find_of_mem unique mem has, load] at stored
  rw [Service.result_addReaction _ _ _ _ _ accepted]
  simp only [Service.result_guarded_ok _ _ stored]
  rfl

theorem addition_of_absent (unique : t.KeysUnique) (known : t.knows (some author) = true)
    (shown : w.clock = some now) (shows : Shows now stamp)
    (absent : ¬ t.Holds ⟨some view, some comment, core, some author⟩)
    (load : (t.newRow view comment core author now).load = .ok reaction) :
    result (perform s) w (addReaction (some view) (some comment) label (some author)) =
      (.ok reaction, { (w.setPending s [⟨some view, some comment, core, some author⟩]).setPending
          s [] with
        writer := some (s,
          { t with reactions := t.reactions ++ [t.newRow view comment core author now] }) }) := by
  have stored := free.storing ⟨some view, some comment, core, some author⟩
  rw [if_pos known, (Tables.find_eq_none_iff t _).mpr absent] at stored
  have inserted := stored.trans (free.insertion unique shown shows absent load)
  rw [Service.result_addReaction _ _ _ _ _ accepted]
  simp only [Service.result_guarded_ok _ _ inserted]
  rfl

end Accepted

end Unhindered

end World

end ReactionLedger
