import ReactionLedger.Proofs.Grouping
import ReactionLedger.Proofs.Store.Clock

set_option autoImplicit false

namespace ReactionLedger.Grouping

section Items

variable {α ι : Type} [DecidableEq ι]

-- leaving items out does not change which of two others comes first
theorem idxOf_filter_lt_iff {p : ι → Bool} {i j : ι} (left : p i = true) (right : p j = true)
    (items : List ι) :
    (items.filter p).idxOf i < (items.filter p).idxOf j ↔ items.idxOf i < items.idxOf j := by
  induction items with
  | nil => simp
  | cons k items ih =>
    by_cases kept : p k = true
    · simp only [List.filter_cons_of_pos kept, List.idxOf_cons, cond_eq_ite, beq_iff_eq]
      split_ifs <;> omega
    · have other : k ≠ i := fun same => kept (same ▸ left)
      have other' : k ≠ j := fun same => kept (same ▸ right)
      rw [List.filter_cons_of_neg kept, ih, List.idxOf_cons_ne _ other, List.idxOf_cons_ne _ other']
      omega

theorem pairwise_eraseDups (items : List ι) :
    items.eraseDups.Pairwise fun i j => items.idxOf i < items.idxOf j := by
  induction items using classes_induction (ι := ι) id with
  | nil => exact .nil
  | cons k items ih =>
    have others : items.filter (fun j => !j == k) = items.filter fun j => id j ≠ id k :=
      List.filter_congr fun j _ => by simp [Bool.beq_eq_decide_eq]
    rw [List.eraseDups_cons, others, List.pairwise_cons]
    have apart (j : ι) (mem : j ∈ (items.filter fun j => id j ≠ id k).eraseDups) : k ≠ j := by
      have kept := (List.mem_filter.mp (List.mem_eraseDups.mp mem)).2
      exact fun same => by simp [same] at kept
    constructor
    · intro j mem
      rw [List.idxOf_cons_self, List.idxOf_cons_ne _ (apart j mem)]
      omega
    · refine ih.imp_of_mem fun {i j} memi memj before => ?_
      have earlier := (idxOf_filter_lt_iff (by simpa using (apart i memi).symm)
        (by simpa using (apart j memj).symm) items).mp before
      rw [List.idxOf_cons_ne _ (apart i memi), List.idxOf_cons_ne _ (apart j memj)]
      omega

theorem perm_flatMap_filter (f : α → ι) {keys : List ι} (distinct : keys.Nodup) (items : List α)
    (covered : ∀ x ∈ items, f x ∈ keys) :
    (keys.flatMap fun i => items.filter fun x => f x = i).Perm items := by
  induction keys generalizing items with
  | nil =>
    have none : items = [] := List.eq_nil_iff_forall_not_mem.mpr fun x mem => by
      simpa using covered x mem
    rw [none]
    exact .nil
  | cons i keys ih =>
    obtain ⟨new, distinct⟩ := List.nodup_cons.mp distinct
    have rest : (keys.flatMap fun j => items.filter fun x => f x = j).Perm
        (items.filter fun x => !decide (f x = i)) := by
      have same : (keys.flatMap fun j => items.filter fun x => f x = j) =
          keys.flatMap fun j =>
            (items.filter fun x => !decide (f x = i)).filter fun x => f x = j := by
        refine List.flatMap_congr fun j mem => ?_
        have other : j ≠ i := fun same => new (same ▸ mem)
        rw [List.filter_filter]
        refine List.filter_congr fun x _ => ?_
        by_cases own : f x = j <;> simp [own, other]
      rw [same]
      apply ih distinct
      intro x mem
      obtain ⟨there, apart⟩ := List.mem_filter.mp mem
      exact (List.mem_cons.mp (covered x there)).resolve_left (by simpa using apart)
    rw [List.flatMap_cons]
    exact (rest.append_left _).trans (List.filter_append_perm _ items)

end Items

section Groups

variable {κ ι : Type} {key : Row → κ} {identity : κ → ι} {rows members : List Row}
variable {g h : Group κ} {groups groups' : List (Group κ)}

/-- The key is the first row's, the users are all rows' and the time is that of the first row that
attains the earliest instant. -/
structure Describes (key : Row → κ) (members : List Row) (g : Group κ) : Prop where
  shown : members.head?.map key = some g.key
  users : g.users = members.map Row.user
  first : ∃ before row after, members = before ++ row :: after ∧ g.first = row.created ∧
    (∀ r ∈ before, row.created.instant < r.created.instant) ∧
      ∀ r ∈ after, row.created.instant ≤ r.created.instant

theorem describes_ofClass (made : ofClass key members = some g) : Describes key members g := by
  cases members with
  | nil => cases made
  | cons row rows =>
    obtain rfl := Option.some.inj made
    refine ⟨rfl, rfl, ?_⟩
    obtain ⟨before, after, split, later, notSooner⟩ :=
      earliest_parts row.created (rows.map Row.created)
    rw [← List.map_cons, List.map_eq_append_iff] at split
    obtain ⟨early, others, parts, rfl, split⟩ := split
    obtain ⟨least, late, rfl, first, rfl⟩ := List.map_eq_cons_iff.mp split
    exact ⟨early, least, late, parts, first.symm,
      fun r mem => first ▸ later _ (List.mem_map_of_mem mem),
      fun r mem => first ▸ notSooner _ (List.mem_map_of_mem mem)⟩

-- the first of two rows that attain the earliest instant would come before the other
theorem earliest_unique {before after before' after' : List Row} {row row' : Row}
    (split : before ++ row :: after = before' ++ row' :: after')
    (notSooner : ∀ r ∈ after, row.created.instant ≤ r.created.instant)
    (later : ∀ r ∈ before', row'.created.instant < r.created.instant)
    (shorter : before.length ≤ before'.length) : row = row' := by
  obtain ⟨between, rfl⟩ : before <+: before' :=
    List.prefix_of_prefix_length_le (split ▸ List.prefix_append _ _) (List.prefix_append _ _)
      shorter
  rw [List.append_assoc, List.append_cancel_left_eq] at split
  cases between with
  | nil => exact (List.cons.inj split).1
  | cons x between =>
    obtain ⟨rfl, rest⟩ := List.cons.inj split
    have sooner := later row (by simp)
    have behind := notSooner row' (by simp [rest])
    omega

theorem Describes.unique (left : Describes key members g) (right : Describes key members h) :
    g = h := by
  have times : g.first = h.first := by
    obtain ⟨before, row, after, split, first, later, notSooner⟩ := left.first
    obtain ⟨before', row', after', split', first', later', notSooner'⟩ := right.first
    rw [first, first']
    cases Nat.le_total before.length before'.length with
    | inl shorter => rw [earliest_unique (split.symm.trans split') notSooner later' shorter]
    | inr longer => rw [earliest_unique (split'.symm.trans split) notSooner' later longer]
  have keys : g.key = h.key := Option.some.inj (left.shown.symm.trans right.shown)
  have users : g.users = h.users := left.users.trans right.users.symm
  cases g
  cases h
  subst keys times users
  rfl

variable [DecidableEq ι]

def rowsOf (key : Row → κ) (identity : κ → ι) (rows : List Row) (i : ι) : List Row :=
  rows.filter fun row => identity (key row) = i

def firstSeen (key : Row → κ) (identity : κ → ι) (rows : List Row) (i : ι) : Nat :=
  (rows.map fun row => identity (key row)).idxOf i

structure Partitions (key : Row → κ) (identity : κ → ι) (rows : List Row)
    (groups : List (Group κ)) : Prop where
  distinct : (groups.map fun g => identity g.key).Nodup
  covered : ∀ row ∈ rows, ∃ g ∈ groups, identity g.key = identity (key row)
  describes : ∀ g ∈ groups, Describes key (rowsOf key identity rows (identity g.key)) g
  ordered : groups.Pairwise fun g h => g.first.instant < h.first.instant ∨
    g.first.instant = h.first.instant ∧
      firstSeen key identity rows (identity g.key) < firstSeen key identity rows (identity h.key)

theorem head_of_rowsOf {i : ι} {first : Row} {others : List Row}
    (same : rowsOf key identity rows i = first :: others) :
    first ∈ rows ∧ identity (key first) = i := by
  have inside : first ∈ rowsOf key identity rows i := same ▸ List.mem_cons_self
  simpa [rowsOf] using inside

theorem identity_of_ofClass {i : ι} (made : ofClass key (rowsOf key identity rows i) = some g) :
    identity g.key = i := by
  cases same : rowsOf key identity rows i with
  | nil => simp [same, ofClass] at made
  | cons first others =>
    rw [same] at made
    obtain rfl := Option.some.inj made
    exact (head_of_rowsOf same).2

theorem describes_of_mem_group (mem : g ∈ group key identity rows) :
    Describes key (rowsOf key identity rows (identity g.key)) g := by
  obtain ⟨row, -, made⟩ := (mem_group_iff key identity rows g).mp mem
  rw [identity_of_ofClass made]
  exact describes_ofClass made

theorem pairwise_made : ((classes (identity ∘ key) rows).filterMap (ofClass key)).Pairwise
    fun g h => firstSeen key identity rows (identity g.key) <
      firstSeen key identity rows (identity h.key) := by
  rw [classes, List.filterMap_map, List.pairwise_filterMap]
  refine (pairwise_eraseDups _).imp fun {i j} before g made h made' => ?_
  rw [identity_of_ofClass made, identity_of_ofClass made']
  exact before

theorem nodup_group : ((group key identity rows).map fun g => identity g.key).Nodup := by
  rw [group, ((inOrder_perm _).map _).nodup_iff, List.Nodup, List.pairwise_map]
  exact pairwise_made.imp fun before same => absurd before (by rw [same]; omega)

theorem partitions_group (key : Row → κ) (identity : κ → ι) (rows : List Row) :
    Partitions key identity rows (group key identity rows) where
  distinct := nodup_group
  covered _ mem := exists_group_of_row key identity rows mem
  describes _ mem := describes_of_mem_group mem
  ordered := pairwise_inOrder pairwise_made

namespace Partitions

variable (partitions : Partitions key identity rows groups)
include partitions

theorem nodup : groups.Nodup := .of_map _ partitions.distinct

theorem exists_row (mem : g ∈ groups) : ∃ row ∈ rows, identity (key row) = identity g.key := by
  have shown := (partitions.describes g mem).shown
  cases same : rowsOf key identity rows (identity g.key) with
  | nil => simp [same] at shown
  | cons first others => exact ⟨first, head_of_rowsOf same⟩

theorem subset (other : Partitions key identity rows groups') : groups ⊆ groups' := by
  intro g mem
  obtain ⟨row, there, same⟩ := partitions.exists_row mem
  obtain ⟨h, mem', same'⟩ := other.covered row there
  have described := partitions.describes g mem
  rw [← same, ← same'] at described
  exact described.unique (other.describes h mem') ▸ mem'

theorem unique (other : Partitions key identity rows groups') : groups = groups' := by
  have perm : groups.Perm groups' := (List.perm_ext_iff_of_nodup partitions.nodup other.nodup).mpr
    fun g => ⟨fun mem => partitions.subset other mem, fun mem => other.subset partitions mem⟩
  refine perm.eq_of_pairwise (fun g h _ _ before after => ?_) partitions.ordered other.ordered
  omega

theorem perm_users : (groups.flatMap Group.users).Perm (rows.map Row.user) := by
  have shares := perm_flatMap_filter (identity ∘ key) partitions.distinct rows fun row mem => by
    obtain ⟨g, there, same⟩ := partitions.covered row mem
    exact List.mem_map.mpr ⟨g, there, same⟩
  have users : groups.flatMap Group.users =
      (groups.flatMap fun g => rowsOf key identity rows (identity g.key)).map Row.user := by
    rw [List.map_flatMap]
    exact List.flatMap_congr fun g mem => (partitions.describes g mem).users
  rw [users]
  rw [List.flatMap_map] at shares
  exact shares.map Row.user

end Partitions

end Groups

theorem byKey_of_keyable {κ : Type} {key : Row → κ} {parts : κ → List Value} {rows : List Row}
    (keyable : ∀ row ∈ rows, ∀ v ∈ parts (key row), v.unkeyable? = none) :
    byKey key parts rows = .ok (group key (fun k => (parts k).map Value.identity?) rows) := by
  have none : rows.findSome? (fun row => (parts (key row)).findSome? Value.unkeyable?) = none :=
    List.findSome?_eq_none_iff.mpr fun row mem =>
      List.findSome?_eq_none_iff.mpr fun v part => keyable row mem v part
  rw [byKey, none]

/-- For every key the groups are the one sorted partition of the rows. -/
theorem groups_are_the_sorted_partition {κ : Type} (key : Row → κ) (rows : List Row) :
    (∀ {ι : Type} [DecidableEq ι] (identity : κ → ι),
      ((group key identity rows).flatMap Group.users).Perm (rows.map Row.user) ∧
        ∀ groups, Partitions key identity rows groups ↔ groups = group key identity rows) ∧
    ∀ parts : κ → List Value, (∀ row ∈ rows, ∀ v ∈ parts (key row), v.unkeyable? = none) →
      ∃ groups, byKey key parts rows = .ok groups ∧
        (groups.flatMap Group.users).Perm (rows.map Row.user) ∧
          ∀ others, Partitions key (fun k => (parts k).map Value.identity?) rows others ↔
            others = groups := by
  have partitions {ι : Type} [DecidableEq ι] (identity : κ → ι) (groups : List (Group κ)) :
      Partitions key identity rows groups ↔ groups = group key identity rows := by
    constructor
    · exact fun partitions => partitions.unique (partitions_group key identity rows)
    · rintro rfl
      exact partitions_group key identity rows
  constructor
  · intro ι _ identity
    exact ⟨(partitions_group key identity rows).perm_users, partitions identity⟩
  · intro parts keyable
    exact ⟨_, byKey_of_keyable keyable, (partitions_group key _ rows).perm_users, partitions _⟩

namespace Tied

open ClockText

def east : Moment := ⟨start.date, fullHour 10, twoHoursEast⟩

def same : Moment := ⟨start.date, fullHour 8, .zero⟩

def later : Moment := ⟨start.date, fullHour 9, .zero⟩

def row (label : String) (created : Moment) (user : User) : Row :=
  ⟨.uuid (.ofNat 1), .text label, created, user⟩

def rows : List Row :=
  [row "love" later ⟨"ann", "Ann"⟩, row "like" same ⟨"bob", "Bob"⟩,
    row "love" east ⟨"bob", "Bob"⟩, row "love" same ⟨"cy", "Cy"⟩]

theorem groups_of_tied_labels : ∃ groups,
    byKey Row.label (fun label => [label]) rows = .ok groups ∧
      groups.map Group.first = [east, same] ∧
      groups.map (fun g => g.users.map User.id) = [["ann", "bob", "cy"], ["bob"]] ∧
      (groups.flatMap Group.users).Perm (rows.map Row.user) := by
  obtain ⟨groups, made, perm, -⟩ :=
    (groups_are_the_sorted_partition Row.label rows).2 (fun label => [label]) (by decide)
  obtain rfl := Except.ok.inj made
  exact ⟨_, made, by cbv, by cbv, perm⟩

end Tied

end ReactionLedger.Grouping
