import ReactionLedger.Proofs.Concurrency.Orderly
import ReactionLedger.Proofs.Concurrency.Quiet
import ReactionLedger.Proofs.Listing.Answers
import ReactionLedger.Proofs.Listing.Effects

set_option autoImplicit false

namespace ReactionLedger

open Program (result)
open Service (addReaction removeReaction storeReaction)

namespace Tables

variable {t : Tables} {row : StoredReaction} {conditions : List Condition}

theorem pairs_append (ordered : t.Ordered) (number : row.id = t.nextId)
    (outside : conditions.all (Condition.holds row) = false) :
    pairs { t with reactions := t.reactions ++ [row] } conditions = t.pairs conditions := by
  rw [pairs, byNumber_eq (ordered.append number).numbers, pairs, byNumber_eq ordered.numbers,
    List.filter_append, List.filter_singleton, outside]
  simp
  rfl

theorem pairs_deleteWhere (ordered : t.Ordered) (p : StoredReaction → Bool)
    (outside : ∀ q ∈ t.pairs conditions, p q.1 = false) :
    (t.deleteWhere p).1.pairs conditions = t.pairs conditions := by
  have alone : ∀ r ∈ t.reactions.filter (fun r => conditions.all (Condition.holds r)),
      p r = true → t.withAuthor r = [] := by
    intro r mem gone
    by_contra some
    obtain ⟨q, inside⟩ := List.exists_mem_of_ne_nil _ some
    have listed : q ∈ t.pairs conditions := by
      rw [pairs, byNumber_eq ordered.numbers]
      exact List.mem_flatMap.mpr ⟨r, mem, inside⟩
    obtain ⟨u, -, rfl⟩ := List.mem_map.mp inside
    simp [outside _ listed] at gone
  rw [pairs, byNumber_eq (ordered.edit (.delete p)).numbers, pairs, byNumber_eq ordered.numbers,
    deleteWhere, List.filter_comm]
  generalize t.reactions.filter (fun r => conditions.all (Condition.holds r)) = rows at alone
  induction rows with
  | nil => rfl
  | cons r rows ih =>
    have rest := ih fun q mem => alone q (List.mem_cons_of_mem _ mem)
    cases gone : p r with
    | true => simpa [gone, alone r List.mem_cons_self gone] using rest
    | false => simpa [gone, withAuthor] using rest

end Tables

namespace Listing

variable {l : Listing} {t : Tables} {x : Shown}

theorem rows_append (ids : (t.users.map User.id).Nodup) (author : x.author ∈ t.users)
    (covered : l.Covers x.reaction) :
    l.rows { t with reactions := t.reactions ++ [x.reaction] } = insert x (l.rows t) := by
  ext y
  rw [Set.mem_insert_iff]
  constructor
  · rintro ⟨⟨mem, there⟩, shown⟩
    rcases List.mem_append.mp mem with old | new
    · exact .inr ⟨⟨old, there⟩, shown⟩
    · have same : y.reaction = x.reaction := List.mem_singleton.mp new
      have own : y.author.id = x.author.id := by rw [y.own, x.own, same]
      exact .inl (Shown.eq_of_pair same (List.inj_on_of_nodup_map ids there author own))
  · rintro (rfl | ⟨⟨mem, there⟩, shown⟩)
    · exact ⟨⟨List.mem_append_right _ List.mem_cons_self, author⟩, covered⟩
    · exact ⟨⟨List.mem_append_left _ mem, there⟩, shown⟩

theorem rows_deleteWhere {k : Key} (unique : t.KeysUnique) (ids : (t.users.map User.id).Nodup)
    (mem : x ∈ l.rows t) (has : x.reaction.hasKey k = true) :
    l.rows (t.deleteWhere (StoredReaction.hasKey k)).1 = l.rows t \ {x} := by
  ext y
  rw [Set.mem_sdiff, Set.mem_singleton_iff]
  constructor
  · rintro ⟨⟨kept, there⟩, shown⟩
    obtain ⟨old, other⟩ := List.mem_filter.mp kept
    exact ⟨⟨⟨old, there⟩, shown⟩, fun same => by simp [same, has] at other⟩
  · rintro ⟨⟨⟨old, there⟩, shown⟩, apart⟩
    refine ⟨⟨List.mem_filter.mpr ⟨old, ?_⟩, there⟩, shown⟩
    rw [Bool.not_eq_true', ← Bool.not_eq_true]
    intro hasToo
    have same : y.reaction = x.reaction :=
      List.inj_on_of_nodup_map unique old mem.1.1 (StoredReaction.key_eq hasToo has)
    have own : y.author.id = x.author.id := by rw [y.own, x.own, same]
    exact apart (Shown.eq_of_pair same (List.inj_on_of_nodup_map ids there mem.1.2 own))

def Concerns : Listing → Uuid → Uuid → Prop
  | .ofComment c, _, comment => c = comment
  | .ofView v c?, view, comment => v = view ∧ ∀ c ∈ c?, c = comment

theorem covers_iff {view comment : Uuid} {label : String} {user : Option String}
    {row : StoredReaction} (has : row.hasKey ⟨some view, some comment, label, user⟩ = true)
    (l : Listing) : l.Covers row ↔ l.Concerns view comment := by
  obtain ⟨sameView, sameComment, -⟩ := (StoredReaction.hasKey_iff _ _).mp has
  simp only [Option.map_some, Option.some.injEq] at sameView sameComment
  cases l with
  | ofComment c => simp [Covers, Concerns, ← sameComment, eq_comm]
  | ofView v c? => simp [Covers, Concerns, ← sameView, ← sameComment, eq_comm]

end Listing

namespace World

variable {w w' : World} {s : SessionName} {key : Key}

theorem insertion_of_added {reaction : Reaction}
    (stored : result (perform s) w (storeReaction key) = (.ok (.now reaction), w')) :
    ∃ t, w.view s = some t ∧ w.failed s = none ∧ t.knows key.author = true ∧ ¬ t.Holds key ∧
      result (perform s) w (Service.insertReaction key) = (.ok (.now reaction), w') := by
  simp only [Service.result_storeReaction] at stored
  split at stored
  next => simp at stored
  next => simp at stored
  next => simp at stored
  next => simp at stored
  next known found =>
    have knownReply : (w.tables s noUsers).map (fun t => t.knows key.author) = .ok true := known
    cases read : w.tables s noUsers with
    | error e => simp [read, Except.map] at knownReply
    | ok t =>
      obtain ⟨seen, sound⟩ := tables_eq_ok read
      have member : t.knows key.author = true := by simpa [read, Except.map] using knownReply
      have foundReply : (w.tables s noReactions).bind (fun t => t.find key) = .ok none := found
      rw [tables_of_view seen sound] at foundReply
      exact ⟨t, seen, sound, member, (Tables.find_eq_none_iff t key).mp foundReply, stored⟩

-- what is found after a lost race was there before
theorem lostRace_ne_now {fault : StoreFault} {reaction : Reaction}
    (lost : result (perform s) w (Service.lostRace key fault) = (.ok (.now reaction), w')) :
    False := by
  simp only [Service.result_lostRace, Prod.mk.injEq] at lost
  cases found : (perform s (.findReaction key) (perform s .rollback w).state).outcome with
  | error e => simp [found, Service.reread] at lost
  | ok stored? => cases stored? <;> simp [found, Service.reread] at lost

theorem view_of_inserted {t : Tables} {reaction : Reaction} (quiet : w.pending s = [])
    (seen : w.view s = some t) (sound : w.failed s = none) (absent : ¬ t.Holds key)
    (stored : result (perform s) w (Service.insertReaction key) = (.ok (.now reaction), w')) :
    ∃ row, row.id = t.nextId ∧ row.hasKey key = true ∧ row.load = .ok reaction ∧
      w'.view s = some { t with reactions := t.reactions ++ [row] } ∧ w'.failed s = none := by
  have added : perform s (.add key) w = ⟨.ok (), [], w.setPending s [key]⟩ := by
    simp [perform, reply, quiet]
  have queued : (w.setPending s [key]).pending s = [key] := by simp
  have flush : perform s .flush (w.setPending s [key]) =
      ⟨((w.setPending s [key]).flush s).1, [], ((w.setPending s [key]).flush s).2⟩ := rfl
  rcases flush_cases queued sound with ⟨t₁, t', seen', -, inserted, flushed⟩ | ⟨e, failed, -⟩
  · obtain rfl : t = t₁ := Option.some.inj (seen.symm.trans seen')
    obtain ⟨row, rfl, number, has, -, -⟩ := Tables.insertOne_inv inserted
    rw [flushed] at flush
    set w₁ : World := { (w.setPending s [key]).setPending s [] with
      writer := some (s, { t with reactions := t.reactions ++ [row] }) }
    have refresh : perform s (.refresh key) w₁ = ⟨w₁.refresh s key, [], w₁⟩ := rfl
    simp only [Service.result_insertReaction, added, flush, refresh, Prod.mk.injEq] at stored
    obtain ⟨outcome, rfl⟩ := stored
    have read : w₁.refresh s key = .ok reaction := by
      cases refreshed : w₁.refresh s key <;> simp_all [Except.map]
    obtain ⟨t', row', seen', mem, has', load⟩ :=
      row_of_reads (show Service.Reads key reaction ⟨.refresh key, (w₁.reply s _).1⟩ from
        ⟨rfl, read⟩)
    obtain rfl := Option.some.inj ((view_of_writer rfl).symm.trans seen')
    have last : row' = row := by
      rcases List.mem_append.mp mem with old | new
      · exact absurd ⟨row', old, has'⟩ absent
      · exact List.mem_singleton.mp new
    exact ⟨row, number, has, last ▸ load, view_of_writer rfl, sound⟩
  · rw [failed] at flush
    obtain ⟨origin, text, -, lost⟩ :=
      Service.lostRace_of_failed_flush (perform s) w added flush stored
    exact (lostRace_ne_now lost).elim

theorem view_of_removed {view comment : Option Uuid} {label : String} {user : Option String}
    (quiet : w.pending s = [])
    (removed : result (perform s) w (removeReaction view comment label user) = (.ok true, w')) :
    let key : Key := ⟨view, comment, Text.trim label, user⟩
    ∃ t, w.view s = some t ∧ w.failed s = none ∧ t.Holds key ∧
      w'.view s = some (t.deleteWhere (StoredReaction.hasKey key)).1 ∧ w'.failed s = none := by
  intro key
  rw [Service.result_removeReaction] at removed
  rcases inner : result (perform s) w (Service.guarded "Failed to remove reaction"
    (Service.deletion key)) with ⟨e | count, w₁⟩
  · simp [inner, key, Except.map] at removed
  · simp only [inner, key, Except.map, Prod.mk.injEq, Except.ok.injEq, decide_eq_true_eq] at removed
    obtain ⟨nonzero, rfl⟩ := removed
    have deleted := Service.ok_of_guarded (perform s) w inner
    rw [Service.result_deletion] at deleted
    cases read : w.tables s noReactions with
    | error e => simp [perform, reply, delete, read] at deleted
    | ok t =>
      obtain ⟨seen, sound⟩ := tables_eq_ok read
      cases free : w.mayWrite s with
      | false => simp [perform, reply, delete, read, free] at deleted
      | true =>
        set w₂ : World :=
          { w with writer := some (s, (t.deleteWhere (StoredReaction.hasKey key)).1) }
        have flushed : w₂.flush s = (.ok (), w₂) := flush_idle quiet
        have reply : w.delete s key =
            (.ok ((t.deleteWhere (StoredReaction.hasKey key)).2 : Int), w₂) := by
          simp only [delete, read, free, if_true]
          rfl
        simp only [perform, World.reply, reply, flushed, Except.map, Prod.mk.injEq,
          Except.ok.injEq] at deleted
        obtain ⟨counted, rfl⟩ := deleted
        refine ⟨t, seen, sound, (t.count_ne_zero_iff key).mp fun zero => nonzero ?_,
          view_of_writer rfl, sound⟩
        rw [← counted, zero]
        rfl

end World

namespace Listing

variable {l : Listing} {s : SessionName} {w w' : World} {t : Tables} {x : Shown}
variable {groups : List (Group Topic)}

theorem answer_gains (ordered : t.Ordered) (seen : w.view s = some t) (sound : w.failed s = none)
    (seen' : w'.view s = some { t with reactions := t.reactions ++ [x.reaction] })
    (sound' : w'.failed s = none) (number : x.reaction.id = t.nextId) (author : x.author ∈ t.users)
    (covered : l.Covers x.reaction) (answered : l.answer s w = .ok groups) :
    ∃ groups', l.answer s w' = .ok groups' ∧ Gains x.topic x.time x.author groups groups' := by
  obtain ⟨legible, lists⟩ := (answer_eq_ok_iff seen sound ordered.keyed groups).mp answered
  obtain ⟨groups', answered', lists'⟩ := exists_answer (l := l) seen' sound'
    (ordered.append number).keyed fun r mem shown known => by
      rcases List.mem_append.mp mem with old | new
      · exact legible r old shown known
      · rw [List.mem_singleton.mp new]
        exact ⟨x.comment, x.created, x.reads_comment, x.reads_created⟩
  rw [rows_append ordered.ids author covered] at lists'
  refine ⟨groups', answered', lists.gains lists' fun y mem => ?_⟩
  rw [Shown.number, Shown.number, number]
  exact Tables.lt_nextId mem.1.1

theorem answer_loses {k : Key} (ordered : t.Ordered) (unique : t.KeysUnique)
    (seen : w.view s = some t) (sound : w.failed s = none)
    (seen' : w'.view s = some (t.deleteWhere (StoredReaction.hasKey k)).1)
    (sound' : w'.failed s = none) (mem : x ∈ l.rows t) (has : x.reaction.hasKey k = true)
    (answered : l.answer s w = .ok groups) :
    ∃ groups', l.answer s w' = .ok groups' ∧ Loses (l.rows t) x groups groups' := by
  obtain ⟨legible, lists⟩ := (answer_eq_ok_iff seen sound ordered.keyed groups).mp answered
  obtain ⟨groups', answered', lists'⟩ := exists_answer (l := l) seen' sound'
    (ordered.edit (.delete _)).keyed fun r kept => legible r (List.mem_of_mem_filter kept)
  rw [rows_deleteWhere unique ordered.ids mem has] at lists'
  exact ⟨groups', answered', lists.loses lists' mem⟩

theorem exists_answer_of_inPlace (inPlace : w.InPlace) (reached : w.Reachable)
    (sound : w.failed s = none) (l : Listing) : ∃ groups, l.answer s w = .ok groups := by
  obtain ⟨t, seen⟩ := inPlace.exists_view s
  obtain ⟨groups, answered, -⟩ := exists_answer (l := l) seen sound
    (reached.ordered.view seen).keyed fun r mem _ _ =>
      StoredReaction.legible_of_readable (inPlace.readable.view seen r mem)
  exact ⟨groups, answered⟩

section Sealed

attribute [local irreducible] addReaction removeReaction storeReaction

section Single

variable {view comment : Uuid} {label user : String}

theorem answers_after_added {reaction : Reaction} (ordered : ∀ t, w.view s = some t → t.Ordered)
    (quiet : w.pending s = [])
    (stored : result (World.perform s) w
      (storeReaction ⟨some view, some comment, label, some user⟩) = (.ok (.now reaction), w')) :
    ∃ t author stamp, w.view s = some t ∧ author ∈ t.users ∧ author.id = user ∧
      reaction.created = .stamp stamp ∧ ∀ l : Listing,
        (l.Concerns view comment → ∀ groups, l.answer s w = .ok groups →
          ∃ groups', l.answer s w' = .ok groups' ∧
            Gains (comment, label) stamp.moment author groups groups') ∧
        (¬ l.Concerns view comment → l.answer s w' = l.answer s w) := by
  obtain ⟨t, seen, sound, member, absent, inserted⟩ := World.insertion_of_added stored
  obtain ⟨row, number, has, load, seen', sound'⟩ :=
    World.view_of_inserted quiet seen sound absent inserted
  obtain ⟨author, there, same⟩ := List.any_eq_true.mp member
  have known : author.id = user := (Option.some.inj (eq_of_beq same)).symm
  obtain ⟨-, sameComment, sameLabel, sameAuthor⟩ := (StoredReaction.hasKey_iff _ _).mp has
  have own : author.id = row.author := known.trans (Option.some.inj sameAuthor)
  have uuid : StoredReaction.readUuid row.comment = .ok (.uuid comment) := by
    rw [← Option.some.inj sameComment, StoredReaction.readUuid, Uuid.readLenient_compact]
  obtain ⟨-, stamp, -, time⟩ := StoredReaction.legible_of_readable ⟨reaction, load⟩
  have created : reaction.created = .stamp stamp := by
    rw [StoredReaction.load_of_hasKey has time] at load
    rw [← Except.ok.inj load]
  set x : Shown := ⟨row, author, comment, stamp, own, uuid, time⟩
  have topic : x.topic = (comment, label) := congrArg (Prod.mk comment) sameLabel
  refine ⟨t, author, stamp, seen, there, known, created, fun l => ⟨?_, fun other => ?_⟩⟩
  · intro concerned groups answered
    have covered : l.Covers x.reaction := (covers_iff has l).mpr concerned
    obtain ⟨groups', answered', gains⟩ :=
      answer_gains (ordered t seen) seen sound seen' sound' number there covered answered
    exact ⟨groups', answered', topic ▸ gains⟩
  · refine answer_congr seen sound seen' sound' (Tables.pairs_append (ordered t seen) number ?_)
    rw [← Bool.not_eq_true, l.conditions_hold_iff, covers_iff has]
    exact other

theorem answers_after_removed (ordered : ∀ t, w.view s = some t → t.Ordered)
    (unique : ∀ t, w.view s = some t → t.KeysUnique) (quiet : w.pending s = [])
    (removed : result (World.perform s) w
      (removeReaction (some view) (some comment) label (some user)) = (.ok true, w')) :
    let key : Key := ⟨some view, some comment, Text.trim label, some user⟩
    ∃ t, w.view s = some t ∧ ∀ l : Listing,
      (l.Concerns view comment → (∃ author ∈ t.users, author.id = user) →
        ∀ groups, l.answer s w = .ok groups →
          ∃ x ∈ l.rows t, x.reaction.hasKey key = true ∧
            ∃ groups', l.answer s w' = .ok groups' ∧ Loses (l.rows t) x groups groups') ∧
      (¬ (l.Concerns view comment ∧ ∃ author ∈ t.users, author.id = user) →
        l.answer s w' = l.answer s w) := by
  intro key
  obtain ⟨t, seen, sound, ⟨row, mem, has⟩, seen', sound'⟩ := World.view_of_removed quiet removed
  refine ⟨t, seen, fun l => ⟨?_, fun other => ?_⟩⟩
  · rintro concerned ⟨author, there, known⟩ groups answered
    have covered : l.Covers row := (covers_iff has l).mpr concerned
    obtain ⟨-, -, -, sameAuthor⟩ := (StoredReaction.hasKey_iff _ _).mp has
    have own : author.id = row.author := known.trans (Option.some.inj sameAuthor)
    have legible := ((answer_eq_ok_iff seen sound (ordered t seen).keyed groups).mp answered).1
    obtain ⟨read, stamp, uuid, time⟩ := legible row mem covered ⟨author, there, own⟩
    set x : Shown := ⟨row, author, read, stamp, own, uuid, time⟩
    have shown : x ∈ l.rows t := ⟨⟨mem, there⟩, covered⟩
    exact ⟨x, shown, has, answer_loses (ordered t seen) (unique t seen) seen sound seen' sound'
      shown has answered⟩
  · refine answer_congr seen sound seen' sound' (Tables.pairs_deleteWhere (ordered t seen) _ ?_)
    intro q listed
    rw [← Bool.not_eq_true]
    intro hasToo
    obtain ⟨-, there, own, holds⟩ := Tables.mem_pairs.mp listed
    obtain ⟨-, -, -, sameAuthor⟩ := (StoredReaction.hasKey_iff _ _).mp hasToo
    refine other ⟨(covers_iff hasToo l).mp ((l.conditions_hold_iff _).mp holds), q.2, there, ?_⟩
    exact own.trans (Option.some.inj sameAuthor).symm

end Single

/-- A write changes the listings that its view and comment concern by one user of one summary, and
no others. -/
theorem listings_after_a_write (events : List Event) (s : SessionName)
    (free : (System.initial.after events).threads s = none) (view comment : Uuid)
    (label user : String) :
    let w := (System.initial.after events).world
    let key : Key := ⟨some view, some comment, Text.trim label, some user⟩
    (∀ reaction w', result (World.perform s) w
          (addReaction (some view) (some comment) label (some user)) = (.ok reaction, w') →
        (result (World.perform s) w (storeReaction key)).1 = .ok (.now reaction) →
        ∃ t author stamp, w.view s = some t ∧ author ∈ t.users ∧ author.id = user ∧
          reaction.created = .stamp stamp ∧ ∀ l : Listing,
            (l.Concerns view comment → ∀ groups, l.answer s w = .ok groups →
              ∃ groups', l.answer s w' = .ok groups' ∧
                Gains (comment, Text.trim label) stamp.moment author groups groups') ∧
            (¬ l.Concerns view comment → l.answer s w' = l.answer s w)) ∧
    (∀ w', result (World.perform s) w
          (removeReaction (some view) (some comment) label (some user)) = (.ok true, w') →
        ∃ t, w.view s = some t ∧ ∀ l : Listing,
          (l.Concerns view comment → (∃ author ∈ t.users, author.id = user) →
            ∀ groups, l.answer s w = .ok groups →
              ∃ x ∈ l.rows t, x.reaction.hasKey key = true ∧
                ∃ groups', l.answer s w' = .ok groups' ∧ Loses (l.rows t) x groups groups') ∧
          (¬ (l.Concerns view comment ∧ ∃ author ∈ t.users, author.id = user) →
            l.answer s w' = l.answer s w)) ∧
    ((∀ e ∈ events, e.Orderly) → w.failed s = none → ∀ l : Listing,
      ∃ groups, l.answer s w = .ok groups) := by
  intro w key
  have system := System.quiet_after s events
  have quiet := system.free free
  have ordered : ∀ t, w.view s = some t → t.Ordered := fun t => system.reached.ordered.view
  have unique : ∀ t, w.view s = some t → t.KeysUnique := fun t => system.reached.keysUnique.view
  refine ⟨fun reaction w' ended own => ?_,
    fun w' removed => answers_after_removed ordered unique quiet removed,
    fun orderly sound l => exists_answer_of_inPlace (System.inPlace_after orderly) system.reached
      sound l⟩
  obtain ⟨added, -, stored⟩ := Service.stored_of_addReaction (World.perform s) w ended
  rw [stored] at own
  obtain rfl := Except.ok.inj own
  exact answers_after_added ordered quiet stored

namespace Shared

open Service (Added)

def view : Uuid := .ofNat 1

def comment : Uuid := .ofNat 2

def main : SessionName := .named "main"

def history : List Event :=
  [.task (.putUser (some "ann") (some "Ann")), .task (.putUser (some "ben") (some "Ben")),
    .start main (.add (some view) (some comment) "love" (some "ben")), .proceed main,
    .proceed main, .proceed main, .proceed main, .proceed main]

theorem orderly_history : ∀ e ∈ history, e.Orderly := by
  simp [history, Event.Orderly, Move.Orderly, Move.KeepsTime]

def isNow : Added → Bool
  | .now _ => true
  | .before _ => false

theorem listings_of_shared_love :
    let w := (System.initial.after history).world
    (∃ reaction w' author stamp groups groups',
      result (World.perform main) w
        (addReaction (some view) (some comment) "love" (some "ann")) = (.ok reaction, w') ∧
      (ofView view none).answer main w = .ok groups ∧
      (ofView view none).answer main w' = .ok groups' ∧ author.id = "ann" ∧
      Gains (comment, "love") stamp author groups groups') ∧
    ∃ w' t x groups groups',
      result (World.perform main) w
        (removeReaction (some view) (some comment) "love" (some "ben")) = (.ok true, w') ∧
      (ofComment comment).answer main w = .ok groups ∧
      (ofComment comment).answer main w' = .ok groups' ∧ x ∈ (ofComment comment).rows t ∧
      Loses ((ofComment comment).rows t) x groups groups' := by
  intro w
  have free : (System.initial.after history).threads main = none := by
    have idle : ((System.initial.after history).threads main).isNone = true := by decide +kernel
    exact Option.isNone_iff_eq_none.mp idle
  have sound : w.failed main = none := by
    have none : (w.failed main).isNone = true := by decide +kernel
    exact Option.isNone_iff_eq_none.mp none
  have trimmed : Text.trim "love" = "love" := by decide +kernel
  constructor
  · have well : (result (World.perform main) w
        (addReaction (some view) (some comment) "love" (some "ann"))).1.isOk = true := by
      decide +kernel
    have fresh : (result (World.perform main) w (storeReaction
        ⟨some view, some comment, Text.trim "love", some "ann"⟩)).1.toOption.any isNow = true := by
      decide +kernel
    rcases ended : result (World.perform main) w
      (addReaction (some view) (some comment) "love" (some "ann")) with ⟨e | reaction, w'⟩
    · rw [ended] at well
      cases well
    obtain ⟨added, same, stored⟩ := Service.stored_of_addReaction (World.perform main) w ended
    rw [stored] at fresh
    cases added with
    | before r => cases fresh
    | now r =>
      obtain rfl : r = reaction := same
      obtain ⟨additions, -, answers⟩ :=
        listings_after_a_write history main free view comment "love" "ann"
      obtain ⟨groups, answered⟩ := answers orderly_history sound (ofView view none)
      obtain ⟨t, author, stamp, -, -, known, -, effect⟩ :=
        additions r w' ended (by rw [stored])
      obtain ⟨groups', answered', gains⟩ :=
        (effect (ofView view none)).1 ⟨rfl, by simp⟩ groups answered
      exact ⟨r, w', author, stamp.moment, groups, groups', rfl, answered, answered', known,
        trimmed ▸ gains⟩
  · have found : (result (World.perform main) w
        (removeReaction (some view) (some comment) "love" (some "ben"))).1.toOption =
          some true := by
      decide +kernel
    have enrolled : (w.view main).any (fun t => t.users.any fun u => u.id = "ben") = true := by
      decide +kernel
    rcases removed : result (World.perform main) w
      (removeReaction (some view) (some comment) "love" (some "ben")) with ⟨e | found?, w'⟩
    · rw [removed] at found
      cases found
    rw [removed] at found
    obtain rfl : found? = true := Option.some.inj found
    obtain ⟨-, removals, answers⟩ :=
      listings_after_a_write history main free view comment "love" "ben"
    obtain ⟨groups, answered⟩ := answers orderly_history sound (ofComment comment)
    obtain ⟨t, seen, effect⟩ := removals w' removed
    rw [show w.view main = some t from seen] at enrolled
    have known : ∃ author ∈ t.users, author.id = "ben" := by simpa using enrolled
    obtain ⟨x, shown, -, groups', answered', loses⟩ :=
      (effect (ofComment comment)).1 rfl known groups answered
    exact ⟨w', t, x, groups, groups', rfl, answered, answered', shown, loses⟩

end Shared

end Sealed

end Listing

end ReactionLedger
