import Mathlib.Data.List.Nodup
import Mathlib.Logic.Relation
import ReactionLedger.Proofs.Store.Clock
import ReactionLedger.Proofs.Uuid
import ReactionLedger.Store.World

set_option autoImplicit false

namespace ReactionLedger

namespace StoredReaction

def key (r : StoredReaction) : String × String × String × String :=
  (r.view, r.comment, r.label, r.author)

def Readable (r : StoredReaction) : Prop := ∃ reaction, r.load = .ok reaction

theorem hasKey_iff (k : Key) (r : StoredReaction) :
    r.hasKey k = true ↔
      k.view.map Uuid.compact = some r.view ∧ k.comment.map Uuid.compact = some r.comment ∧
        r.label = k.label ∧ k.author = some r.author := by
  simp [hasKey, Condition.holds, and_assoc]

theorem full_of_hasKey {k : Key} {r : StoredReaction} (found : r.hasKey k = true) :
    ∃ view comment label author, k = ⟨some view, some comment, label, some author⟩ := by
  obtain ⟨view, comment, label, author⟩ := k
  rw [hasKey_iff] at found
  obtain ⟨view, rfl, -⟩ := Option.map_eq_some_iff.mp found.1
  obtain ⟨comment, rfl, -⟩ := Option.map_eq_some_iff.mp found.2.1
  exact ⟨view, comment, label, r.author, by rw [← found.2.2.2]⟩

theorem key_eq {k : Key} {r q : StoredReaction} (left : r.hasKey k = true)
    (right : q.hasKey k = true) : r.key = q.key := by
  rw [hasKey_iff] at left right
  have view := Option.some.inj (left.1.symm.trans right.1)
  have comment := Option.some.inj (left.2.1.symm.trans right.2.1)
  have label := left.2.2.1.trans right.2.2.1.symm
  have author := Option.some.inj (left.2.2.2.symm.trans right.2.2.2)
  simp [key, view, comment, label, author]

theorem key_unique {k l : Key} {r : StoredReaction} (left : r.hasKey k = true)
    (right : r.hasKey l = true) : k = l := by
  obtain ⟨view, comment, label, author, rfl⟩ := full_of_hasKey left
  obtain ⟨view', comment', label', author', rfl⟩ := full_of_hasKey right
  simp only [hasKey_iff, Option.map_some, Option.some.injEq] at left right
  obtain ⟨v, c, l, a⟩ := left
  obtain ⟨v', c', l', a'⟩ := right
  rw [Uuid.compact_injective (v.trans v'.symm), Uuid.compact_injective (c.trans c'.symm),
    l.symm.trans l', a.trans a'.symm]

theorem hasKey_congr (k : Key) {r q : StoredReaction} (same : r.key = q.key) :
    r.hasKey k = q.hasKey k := by
  simp only [key, Prod.mk.injEq] at same
  simp [hasKey, Condition.holds, same]

theorem sameKey_iff (r q : StoredReaction) : Tables.sameKey r q = true ↔ r.key = q.key := by
  simp [Tables.sameKey, key, and_assoc]

theorem load_of_hasKey {k : Key} {r : StoredReaction} {created : Value} (found : r.hasKey k = true)
    (read : readTime r.created = .ok created) :
    r.load = .ok { k.reaction with id := .int r.id, created } := by
  obtain ⟨view, comment, label, author⟩ := k
  rw [hasKey_iff] at found
  obtain ⟨viewFound, commentFound, labelFound, authorFound⟩ := found
  obtain ⟨view, rfl, sameView⟩ := Option.map_eq_some_iff.mp viewFound
  obtain ⟨comment, rfl, sameComment⟩ := Option.map_eq_some_iff.mp commentFound
  dsimp only at labelFound authorFound
  subst authorFound
  have readView : readUuid r.view = .ok (.uuid view) := by
    simp [readUuid, ← sameView, Uuid.readLenient_compact]
  have readComment : readUuid r.comment = .ok (.uuid comment) := by
    simp [readUuid, ← sameComment, Uuid.readLenient_compact]
  simp only [load, readView, readComment, read, labelFound]
  rfl

theorem readTime_of_load {r : StoredReaction} {reaction : Reaction} (read : r.load = .ok reaction) :
    ∃ created, readTime r.created = .ok created := by
  simp only [load] at read
  cases view : readUuid r.view with
  | error e => simp [view, bind, Except.bind] at read
  | ok v =>
    cases comment : readUuid r.comment with
    | error e => simp [view, comment, bind, Except.bind] at read
    | ok c =>
      cases created : readTime r.created with
      | error e => simp [view, comment, created, bind, Except.bind] at read
      | ok t => exact ⟨t, rfl⟩

theorem readUuid_not_store (source : String) (f : StoreFault) :
    readUuid source ≠ .error (.store f) := by
  unfold readUuid
  split <;> simp

theorem readTime_not_store (cell : Cell) (f : StoreFault) :
    readTime cell ≠ .error (.store f) := by
  unfold readTime
  split
  · split <;> simp
  · simp

theorem load_not_store (r : StoredReaction) (f : StoreFault) : r.load ≠ .error (.store f) := by
  have view := readUuid_not_store r.view f
  have comment := readUuid_not_store r.comment f
  have created := readTime_not_store r.created f
  cases hv : readUuid r.view <;> cases hc : readUuid r.comment <;> cases ht : readTime r.created <;>
    simp_all [load, bind, Except.bind, pure, Except.pure]

end StoredReaction

namespace Directory

theorem nodup_concat {users : List User} {user : User} (ids : (users.map User.id).Nodup)
    (new : ∀ u ∈ users, u.id ≠ user.id) : ((users ++ [user]).map User.id).Nodup := by
  rw [List.map_append, List.map_cons, List.map_nil]
  refine List.Nodup.append ids (List.nodup_singleton _) ?_
  intro id old last
  obtain ⟨u, there, rfl⟩ := List.mem_map.mp old
  exact new u there (List.mem_singleton.mp last)

theorem nodup_filter {users : List User} (ids : (users.map User.id).Nodup) (p : User → Bool) :
    ((users.filter p).map User.id).Nodup :=
  ids.sublist (List.filter_sublist.map _)

end Directory

namespace Tables

def KeysUnique (t : Tables) : Prop := (t.reactions.map StoredReaction.key).Nodup

def Holds (t : Tables) (k : Key) : Prop := ∃ r ∈ t.reactions, r.hasKey k = true

theorem holds_iff_any (t : Tables) (k : Key) :
    t.Holds k ↔ t.reactions.any (StoredReaction.hasKey k) = true := by
  simp [Holds]

instance (t : Tables) (k : Key) : Decidable (t.Holds k) :=
  decidable_of_iff _ (holds_iff_any t k).symm

theorem filter_hasKey {t : Tables} {k : Key} {r : StoredReaction} (unique : t.KeysUnique)
    (mem : r ∈ t.reactions) (found : r.hasKey k = true) :
    t.reactions.filter (StoredReaction.hasKey k) = [r] := by
  have alone : ∀ q ∈ t.reactions, q.hasKey k = (q == r) := by
    intro q inside
    rw [Bool.eq_iff_iff, beq_iff_eq]
    constructor
    · exact fun has =>
        List.inj_on_of_nodup_map unique inside mem (StoredReaction.key_eq has found)
    · exact fun same => same ▸ found
  rw [List.filter_congr alone, List.filter_beq,
    List.count_eq_one_of_mem (List.Nodup.of_map _ unique) mem, List.replicate_one]

theorem find_of_mem {t : Tables} {k : Key} {r : StoredReaction} (unique : t.KeysUnique)
    (mem : r ∈ t.reactions) (found : r.hasKey k = true) : t.find k = r.load.map some := by
  simp [find, filter_hasKey unique mem found]

theorem find_eq_none_iff (t : Tables) (k : Key) : t.find k = .ok none ↔ ¬ t.Holds k := by
  constructor
  · intro absent held
    obtain ⟨r, mem, found⟩ := held
    have inside : r ∈ t.reactions.filter (StoredReaction.hasKey k) :=
      List.mem_filter.mpr ⟨mem, found⟩
    unfold find at absent
    split at absent
    next rows => simp [rows] at inside
    next q rows => cases load : q.load <;> simp [load, Except.map] at absent
    next => simp at absent
  · intro absent
    have rows : t.reactions.filter (StoredReaction.hasKey k) = [] := by
      simp only [Holds, not_exists, not_and] at absent
      simpa [List.filter_eq_nil_iff] using absent
    simp [find, rows]

theorem mem_of_find {t : Tables} {k : Key} {reaction : Reaction}
    (found : t.find k = .ok (some reaction)) :
    ∃ r ∈ t.reactions, r.hasKey k = true ∧ r.load = .ok reaction := by
  unfold find at found
  split at found
  next => simp at found
  next r rows =>
    have inside : r ∈ t.reactions.filter (StoredReaction.hasKey k) := by simp [rows]
    obtain ⟨mem, has⟩ := List.mem_filter.mp inside
    refine ⟨r, mem, has, ?_⟩
    cases load : r.load <;> simp_all [Except.map]
  next => simp at found

theorem find_not_ambiguous {t : Tables} (k : Key) (unique : t.KeysUnique) :
    t.find k ≠ .error (.store .ambiguous) := by
  by_cases held : t.Holds k
  · obtain ⟨r, mem, found⟩ := held
    rw [find_of_mem unique mem found]
    have plain := StoredReaction.load_not_store r .ambiguous
    cases load : r.load <;> simp_all [Except.map]
  · rw [(find_eq_none_iff t k).mpr held]
    simp

theorem not_holds_deleteWhere (t : Tables) (k : Key) :
    ¬ (t.deleteWhere (StoredReaction.hasKey k)).1.Holds k := by
  rintro ⟨r, mem, has⟩
  have kept := (List.mem_filter.mp mem).2
  simp [has] at kept

section Others

variable {t : Tables} {k other : Key}

theorem holds_deleteWhere_iff (apart : other ≠ k) :
    (t.deleteWhere (StoredReaction.hasKey k)).1.Holds other ↔ t.Holds other := by
  constructor
  · rintro ⟨r, mem, found⟩
    exact ⟨r, List.mem_of_mem_filter mem, found⟩
  · rintro ⟨r, mem, found⟩
    refine ⟨r, List.mem_filter.mpr ⟨mem, ?_⟩, found⟩
    cases has : r.hasKey k with
    | false => rfl
    | true => exact absurd (StoredReaction.key_unique found has) apart

theorem holds_append_iff {row : StoredReaction} (has : row.hasKey k = true) (apart : other ≠ k) :
    Holds { t with reactions := t.reactions ++ [row] } other ↔ t.Holds other := by
  constructor
  · rintro ⟨r, mem, found⟩
    rcases List.mem_append.mp mem with old | last
    · exact ⟨r, old, found⟩
    · obtain rfl := List.mem_singleton.mp last
      exact absurd (StoredReaction.key_unique found has) apart
  · rintro ⟨r, mem, found⟩
    exact ⟨r, List.mem_append_left _ mem, found⟩

end Others

theorem count_ne_zero_iff (t : Tables) (k : Key) :
    (t.deleteWhere (StoredReaction.hasKey k)).2 ≠ 0 ↔ t.Holds k := by
  simp [deleteWhere, Holds, List.countP_eq_zero]

theorem insert_full (t : Tables) (view comment label author : String) (created : Cell) :
    t.insert ⟨some view, some comment, some label, some author, some created⟩ =
      let row : StoredReaction := ⟨t.nextId, view, comment, label, author, created.settle⟩
      if t.reactions.any (sameKey row) then .error duplicate
      else .ok ({ t with reactions := t.reactions ++ [row] }, row) := by
  simp only [insert, column, bind, Except.bind]
  split <;> rfl

theorem full_of_insert {t : Tables} {d : Draft} {result : Tables × StoredReaction}
    (inserted : t.insert d = .ok result) :
    ∃ view comment label author created,
      d = ⟨some view, some comment, some label, some author, some created⟩ := by
  obtain ⟨_ | view, _ | comment, _ | label, _ | author, _ | created⟩ := d
  all_goals first
    | exact ⟨view, comment, label, author, created, rfl⟩
    | simp [insert, column, bind, Except.bind] at inserted

theorem not_any_sameKey {t : Tables} {row : StoredReaction}
    (new : ¬ t.reactions.any (sameKey row) = true) : ∀ r ∈ t.reactions, r.key ≠ row.key := by
  intro r mem same
  apply new
  exact List.any_eq_true.mpr ⟨r, mem, (StoredReaction.sameKey_iff row r).mpr same.symm⟩

theorem insert_inv {t t' : Tables} {d : Draft} {row : StoredReaction}
    (inserted : t.insert d = .ok (t', row)) :
    t' = { t with reactions := t.reactions ++ [row] } ∧ row.id = t.nextId ∧
      d.view = some row.view ∧ d.comment = some row.comment ∧ d.label = some row.label ∧
      d.author = some row.author ∧ ∀ r ∈ t.reactions, r.key ≠ row.key := by
  obtain ⟨view, comment, label, author, created, rfl⟩ := full_of_insert inserted
  rw [insert_full] at inserted
  dsimp only at inserted
  split at inserted
  next => simp at inserted
  next new =>
    simp only [Except.ok.injEq, Prod.mk.injEq] at inserted
    obtain ⟨rfl, rfl⟩ := inserted
    exact ⟨rfl, rfl, rfl, rfl, rfl, rfl, not_any_sameKey new⟩

theorem insertOne_inv {clock : Option String} {t t' : Tables} {k : Key}
    (inserted : World.insertOne clock t k = .ok t') :
    ∃ row : StoredReaction, t' = { t with reactions := t.reactions ++ [row] } ∧
      row.id = t.nextId ∧ row.hasKey k = true ∧ row.Readable ∧
      ∀ r ∈ t.reactions, r.key ≠ row.key := by
  cases insertion : t.insert (k.draft clock) with
  | error e => simp [World.insertOne, insertion, bind, Except.bind] at inserted
  | ok result =>
    obtain ⟨t₁, row⟩ := result
    cases read : StoredReaction.readTime row.created with
    | error e => simp [World.insertOne, insertion, read, bind, Except.bind] at inserted
    | ok created =>
      have result : t₁ = t' := by
        simpa [World.insertOne, insertion, read, bind, Except.bind, pure, Except.pure]
          using inserted
      obtain ⟨appended, number, view, comment, label, author, new⟩ := insert_inv insertion
      have has : row.hasKey k = true := by
        rw [StoredReaction.hasKey_iff]
        exact ⟨view, comment, (Option.some.inj label).symm, author⟩
      exact ⟨row, result ▸ appended, number, has,
        ⟨_, StoredReaction.load_of_hasKey has read⟩, new⟩

def newRow (t : Tables) (view comment : Uuid) (label author now : String) : StoredReaction :=
  ⟨t.nextId, view.compact, comment.compact, label, author, .text now⟩

theorem newRow_hasKey (t : Tables) (view comment : Uuid) (label author now : String) :
    (t.newRow view comment label author now).hasKey
      ⟨some view, some comment, label, some author⟩ = true := by
  simp [StoredReaction.hasKey_iff, newRow]

theorem any_sameKey_newRow (t : Tables) (view comment : Uuid) (label author now : String) :
    t.reactions.any (sameKey (t.newRow view comment label author now)) = true ↔
      t.Holds ⟨some view, some comment, label, some author⟩ := by
  have has := newRow_hasKey t view comment label author now
  simp only [List.any_eq_true, Holds]
  constructor
  · rintro ⟨r, mem, same⟩
    rw [StoredReaction.sameKey_iff] at same
    exact ⟨r, mem, (StoredReaction.hasKey_congr _ same).symm.trans has⟩
  · rintro ⟨r, mem, found⟩
    exact ⟨r, mem, (StoredReaction.sameKey_iff _ r).mpr (StoredReaction.key_eq has found)⟩

section Full

variable {t : Tables} {view comment : Uuid} {label author now : String} {stamp : Stamp}

theorem insertOne_absent (shows : Shows now stamp)
    (absent : ¬ t.Holds ⟨some view, some comment, label, some author⟩) :
    World.insertOne (some now) t ⟨some view, some comment, label, some author⟩ =
      .ok { t with reactions := t.reactions ++ [t.newRow view comment label author now] } := by
  have new := mt (any_sameKey_newRow t view comment label author now).mp absent
  have read : StoredReaction.readTime (.text now) = .ok (.stamp stamp) := by
    simp [StoredReaction.readTime, shows.read]
  unfold newRow at new
  simp only [World.insertOne, Key.draft, Option.map_some, insert_full, shows.kept, bind,
    Except.bind, if_neg new, read, newRow]
  rfl

theorem insertOne_duplicate (shows : Shows now stamp)
    (held : t.Holds ⟨some view, some comment, label, some author⟩) :
    World.insertOne (some now) t ⟨some view, some comment, label, some author⟩ =
      .error duplicate := by
  have same := (any_sameKey_newRow t view comment label author now).mpr held
  unfold newRow at same
  simp only [World.insertOne, Key.draft, Option.map_some, insert_full, shows.kept, bind,
    Except.bind, if_pos same]

end Full

inductive Edit (t : Tables) : Tables → Prop
  | insert {clock : Option String} {k : Key} {t' : Tables}
      (stored : World.insertOne clock t k = .ok t') : Edit t t'
  | delete (p : StoredReaction → Bool) : Edit t (t.deleteWhere p).1
  | directory {users : List User}
      (distinct : (t.users.map User.id).Nodup → (users.map User.id).Nodup) : Edit t { t with users }

theorem insertAll_cons {clock : Option String} {t t' : Tables} {k : Key} {keys : List Key}
    (stored : World.insertAll clock t (k :: keys) = .ok t') :
    ∃ t₁, World.insertOne clock t k = .ok t₁ ∧ World.insertAll clock t₁ keys = .ok t' := by
  cases first : World.insertOne clock t k with
  | error e => simp [World.insertAll, first, bind, Except.bind] at stored
  | ok t₁ => exact ⟨t₁, rfl, by simpa [World.insertAll, first, bind, Except.bind] using stored⟩

theorem edits_of_insertAll {clock : Option String} {t t' : Tables} {keys : List Key}
    (stored : World.insertAll clock t keys = .ok t') : Relation.ReflTransGen Edit t t' := by
  induction keys generalizing t with
  | nil =>
    have same : t = t' := by simpa [World.insertAll, pure, Except.pure] using stored
    rw [same]
  | cons k keys ih =>
    obtain ⟨t₁, first, rest⟩ := insertAll_cons stored
    exact .head (.insert first) (ih rest)

theorem KeysUnique.append {t : Tables} {row : StoredReaction} (unique : t.KeysUnique)
    (new : ∀ r ∈ t.reactions, r.key ≠ row.key) :
    KeysUnique { t with reactions := t.reactions ++ [row] } := by
  simp only [KeysUnique, List.map_append, List.map_cons, List.map_nil]
  refine List.Nodup.append unique (List.nodup_singleton _) ?_
  intro key old last
  obtain ⟨r, mem, rfl⟩ := List.mem_map.mp old
  exact new r mem (List.mem_singleton.mp last)

theorem KeysUnique.filter {t : Tables} (unique : t.KeysUnique) (p : StoredReaction → Bool) :
    (t.deleteWhere p).1.KeysUnique :=
  unique.sublist (List.filter_sublist.map _)

theorem KeysUnique.edit {t t' : Tables} (unique : t.KeysUnique) (edit : Edit t t') :
    t'.KeysUnique := by
  cases edit with
  | insert stored =>
    obtain ⟨row, rfl, -, -, -, new⟩ := insertOne_inv stored
    exact unique.append new
  | delete p => exact unique.filter p
  | directory distinct => exact unique

structure Ordered (t : Tables) : Prop where
  numbers : t.reactions.Pairwise fun a b => a.id < b.id
  ids : (t.users.map User.id).Nodup

theorem le_foldl_max (ns : List Nat) (start : Nat) :
    start ≤ ns.foldl max start ∧ ∀ n ∈ ns, n ≤ ns.foldl max start := by
  induction ns generalizing start with
  | nil => simp
  | cons m ns ih =>
    obtain ⟨from_max, others⟩ := ih (max start m)
    simp only [List.foldl_cons, List.mem_cons, forall_eq_or_imp]
    exact ⟨by omega, by omega, others⟩

theorem lt_nextId {t : Tables} {r : StoredReaction} (mem : r ∈ t.reactions) : r.id < t.nextId := by
  have among : r.id ∈ t.reactions.map StoredReaction.id := List.mem_map_of_mem mem
  exact Nat.lt_succ_of_le ((le_foldl_max _ 0).2 r.id among)

theorem byNumber_eq {t : Tables} (numbers : t.reactions.Pairwise fun a b => a.id < b.id) :
    t.byNumber = t.reactions :=
  List.mergeSort_of_pairwise (numbers.imp fun before => decide_eq_true (le_of_lt before))

theorem ordered_empty : empty.Ordered := ⟨.nil, .nil⟩

theorem Ordered.append {t : Tables} {row : StoredReaction} (ordered : t.Ordered)
    (number : row.id = t.nextId) : Ordered { t with reactions := t.reactions ++ [row] } where
  numbers := by
    rw [List.pairwise_append]
    refine ⟨ordered.numbers, List.pairwise_singleton _ _, fun r mem q last => ?_⟩
    rw [List.mem_singleton.mp last, number]
    exact lt_nextId mem
  ids := ordered.ids

theorem Ordered.edit {t t' : Tables} (ordered : t.Ordered) (edit : Edit t t') : t'.Ordered := by
  cases edit with
  | insert stored =>
    obtain ⟨row, rfl, number, -⟩ := insertOne_inv stored
    exact ordered.append number
  | delete p => exact ⟨ordered.numbers.sublist List.filter_sublist, ordered.ids⟩
  | directory distinct => exact ⟨ordered.numbers, distinct ordered.ids⟩

theorem Edit.row {t t' : Tables} (edit : Edit t t') :
    ∀ r ∈ t'.reactions, r ∈ t.reactions ∨ r.Readable ∧ ∃ k : Key, r.hasKey k = true := by
  intro r mem
  cases edit with
  | @insert clock k _ stored =>
    obtain ⟨row, rfl, -, has, readable, -⟩ := insertOne_inv stored
    rcases List.mem_append.mp mem with old | new
    · exact .inl old
    · rw [List.mem_singleton.mp new]
      exact .inr ⟨readable, k, has⟩
  | delete p => exact .inl (List.mem_of_mem_filter mem)
  | directory distinct => exact .inl mem

theorem Edit.readable {t t' : Tables} (edit : Edit t t') :
    ∀ r ∈ t'.reactions, r ∈ t.reactions ∨ r.Readable :=
  fun r mem => (edit.row r mem).imp_right And.left

theorem readable_of_edits {t t' : Tables} (edits : Relation.ReflTransGen Edit t t') :
    ∀ r ∈ t'.reactions, r ∈ t.reactions ∨ r.Readable := by
  induction edits with
  | refl => exact fun r mem => .inl mem
  | tail _ last ih =>
    intro r mem
    rcases last.readable r mem with old | readable
    · exact ih r old
    · exact .inr readable

end Tables

end ReactionLedger
