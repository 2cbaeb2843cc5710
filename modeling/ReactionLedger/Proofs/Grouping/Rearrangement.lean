import ReactionLedger.Proofs.Grouping.Partition

set_option autoImplicit false

namespace ReactionLedger.Grouping

theorem pair_sublist_of_mem {α : Type} {a b : α} {items : List α} (left : a ∈ items)
    (right : b ∈ items) (apart : a ≠ b) : [a, b].Sublist items ∨ [b, a].Sublist items := by
  obtain ⟨front, back, rfl⟩ := List.append_of_mem left
  have there : b ∈ front ∨ b ∈ back := by simpa [apart.symm] using right
  rcases there with before | after
  · right
    exact (List.singleton_sublist.mpr before).append (List.singleton_sublist.mpr List.mem_cons_self)
  · left
    exact ((List.singleton_sublist.mpr after).cons_cons a).trans (List.sublist_append_right front _)

section Rearranged

variable {κ ι : Type} {key : Row → κ} {identity : κ → ι} {rows rows' members members' : List Row}
variable {g h : Group κ} {groups groups' : List (Group κ)}

theorem Describes.least (described : Describes key members g) :
    ∃ row ∈ members, g.first = row.created ∧
      ∀ r ∈ members, row.created.instant ≤ r.created.instant := by
  obtain ⟨before, row, after, rfl, first, later, notSooner⟩ := described.first
  refine ⟨row, by simp, first, fun r mem => ?_⟩
  rcases List.mem_append.mp mem with early | rest
  · exact le_of_lt (later r early)
  · rcases List.mem_cons.mp rest with rfl | late
    · exact le_rfl
    · exact notSooner r late

theorem Describes.instant_le (described : Describes key members g)
    (described' : Describes key members' h) (inside : members' ⊆ members) :
    g.first.instant ≤ h.first.instant := by
  obtain ⟨row, -, first, least⟩ := described.least
  obtain ⟨row', mem', first', -⟩ := described'.least
  rw [first, first']
  exact least row' (inside mem')

theorem Describes.alike (described : Describes key members g)
    (described' : Describes key members' h) (perm : members.Perm members') :
    g.first.instant = h.first.instant ∧ g.users.Perm h.users := by
  refine ⟨le_antisymm (described.instant_le described' perm.symm.subset)
    (described'.instant_le described perm.subset), ?_⟩
  rw [described.users, described'.users]
  exact perm.map Row.user

variable [DecidableEq ι]

namespace Partitions

variable (partitions : Partitions key identity rows groups)
include partitions

theorem mem_keys_iff (i : ι) : i ∈ groups.map (fun g => identity g.key) ↔
    ∃ row ∈ rows, identity (key row) = i := by
  constructor
  · intro mem
    obtain ⟨g, there, rfl⟩ := List.mem_map.mp mem
    exact partitions.exists_row there
  · rintro ⟨row, mem, rfl⟩
    obtain ⟨g, there, same⟩ := partitions.covered row mem
    exact List.mem_map.mpr ⟨g, there, same⟩

theorem pair_sublist_iff (mem : g ∈ groups) (mem' : h ∈ groups)
    (apart : g.first.instant ≠ h.first.instant) :
    [identity g.key, identity h.key].Sublist (groups.map fun g => identity g.key) ↔
      g.first.instant < h.first.instant := by
  have sooner {g h : Group κ} (apart : g.first.instant ≠ h.first.instant)
      (pair : [g, h].Sublist groups) : g.first.instant < h.first.instant := by
    rcases List.pairwise_iff_forall_sublist.mp partitions.ordered pair with less | ⟨same, -⟩
    · exact less
    · exact absurd same apart
  constructor
  · intro pair
    obtain ⟨found, inside, same⟩ := List.sublist_map_iff.mp pair
    obtain ⟨g', rest, rfl, left, tail⟩ := List.map_eq_cons_iff.mp same.symm
    obtain ⟨h', rfl, right⟩ := List.map_eq_singleton_iff.mp tail
    obtain rfl := List.inj_on_of_nodup_map partitions.distinct (inside.subset (by simp)) mem left
    obtain rfl := List.inj_on_of_nodup_map partitions.distinct (inside.subset (by simp)) mem' right
    exact sooner apart inside
  · intro less
    have different : g ≠ h := fun same => apart (same ▸ rfl)
    rcases pair_sublist_of_mem mem mem' different with pair | turned
    · exact pair.map fun g => identity g.key
    · have more := sooner apart.symm turned
      omega

end Partitions

structure Rearranged (identity : κ → ι) (groups groups' : List (Group κ)) : Prop where
  distinct : (groups.map fun g => identity g.key).Nodup
  keys : (groups.map fun g => identity g.key).Perm (groups'.map fun g => identity g.key)
  alike : ∀ g ∈ groups, ∀ h ∈ groups', identity g.key = identity h.key →
    g.first.instant = h.first.instant ∧ g.users.Perm h.users
  order : ∀ g ∈ groups, ∀ h ∈ groups, g.first.instant ≠ h.first.instant →
    ([identity g.key, identity h.key].Sublist (groups.map fun g => identity g.key) ↔
      [identity g.key, identity h.key].Sublist (groups'.map fun g => identity g.key))

theorem Partitions.rearranged (perm : rows.Perm rows')
    (partitions : Partitions key identity rows groups)
    (partitions' : Partitions key identity rows' groups') :
    Rearranged identity groups groups' := by
  have keys : (groups.map fun g => identity g.key).Perm (groups'.map fun g => identity g.key) := by
    refine (List.perm_ext_iff_of_nodup partitions.distinct partitions'.distinct).mpr fun i => ?_
    rw [partitions.mem_keys_iff, partitions'.mem_keys_iff]
    exact exists_congr fun row => and_congr_left fun _ => perm.mem_iff
  have alike : ∀ g ∈ groups, ∀ h ∈ groups', identity g.key = identity h.key →
      g.first.instant = h.first.instant ∧ g.users.Perm h.users := by
    intro g mem h mem' same
    have described := partitions.describes g mem
    rw [same] at described
    exact described.alike (partitions'.describes h mem') (perm.filter _)
  refine ⟨partitions.distinct, keys, alike, fun g mem h mem' apart => ?_⟩
  have partner {g : Group κ} (mem : g ∈ groups) :
      ∃ g' ∈ groups', identity g'.key = identity g.key ∧ g.first.instant = g'.first.instant := by
    obtain ⟨g', there, same⟩ := List.mem_map.mp (keys.subset (List.mem_map_of_mem mem))
    exact ⟨g', there, same, (alike g mem g' there same.symm).1⟩
  obtain ⟨g', there, same, level⟩ := partner mem
  obtain ⟨h', there', same', level'⟩ := partner mem'
  have apart' : g'.first.instant ≠ h'.first.instant := by rwa [← level, ← level']
  rw [partitions.pair_sublist_iff mem mem' apart, level, level', ← same, ← same']
  exact (partitions'.pair_sublist_iff there there' apart').symm

/-- The rows of each key are in the same order, and so are the first rows of the keys. -/
structure Steady (key : Row → κ) (identity : κ → ι) (rows rows' : List Row) : Prop where
  within : ∀ row ∈ rows,
    rowsOf key identity rows (identity (key row)) = rowsOf key identity rows' (identity (key row))
  across : ∀ row ∈ rows, ∀ other ∈ rows,
    firstSeen key identity rows (identity (key row)) <
        firstSeen key identity rows (identity (key other)) →
      firstSeen key identity rows' (identity (key row)) <
        firstSeen key identity rows' (identity (key other))

theorem Partitions.of_steady (perm : rows.Perm rows') (steady : Steady key identity rows rows')
    (partitions : Partitions key identity rows groups) :
    Partitions key identity rows' groups where
  distinct := partitions.distinct
  covered row mem := partitions.covered row (perm.mem_iff.mpr mem)
  describes g mem := by
    obtain ⟨row, there, same⟩ := partitions.exists_row mem
    have described := partitions.describes g mem
    rw [← same, steady.within row there, same] at described
    exact described
  ordered := by
    refine partitions.ordered.imp_of_mem fun {g h} mem mem' => Or.imp_right (And.imp_right ?_)
    obtain ⟨row, there, same⟩ := partitions.exists_row mem
    obtain ⟨other, there', same'⟩ := partitions.exists_row mem'
    rw [← same, ← same']
    exact steady.across row there other there'

end Rearranged

theorem byKey_of_unkeyable {κ : Type} {key : Row → κ} {parts : κ → List Value} {rows : List Row}
    {row : Row} {v : Value} (mem : row ∈ rows) (part : v ∈ parts (key row))
    (unkeyable : v.unkeyable? ≠ none) :
    ∃ kind, byKey key parts rows = .error (.type ("unhashable type: '" ++ kind ++ "'")) := by
  rw [byKey]
  cases found : rows.findSome? fun row => (parts (key row)).findSome? Value.unkeyable? with
  | none =>
    have keyable := List.findSome?_eq_none_iff.mp (List.findSome?_eq_none_iff.mp found row mem)
    exact absurd (keyable v part) unkeyable
  | some kind => exact ⟨kind, rfl⟩

/-- The order of the rows decides only ties: among groups of one instant, among the users of a
group, and among the ways to write its key and its time. -/
theorem groups_of_rearranged_rows {κ : Type} (key : Row → κ) {rows rows' : List Row}
    (perm : rows.Perm rows') :
    (∀ {ι : Type} [DecidableEq ι] (identity : κ → ι),
      Rearranged identity (group key identity rows) (group key identity rows') ∧
        (Steady key identity rows rows' → group key identity rows = group key identity rows')) ∧
    ∀ parts : κ → List Value,
      (∃ kind kind', byKey key parts rows = .error (.type ("unhashable type: '" ++ kind ++ "'")) ∧
        byKey key parts rows' = .error (.type ("unhashable type: '" ++ kind' ++ "'"))) ∨
      ∃ groups groups', byKey key parts rows = .ok groups ∧ byKey key parts rows' = .ok groups' ∧
        Rearranged (fun k => (parts k).map Value.identity?) groups groups' ∧
          (Steady key (fun k => (parts k).map Value.identity?) rows rows' → groups = groups') := by
  have grouped {ι : Type} [DecidableEq ι] (identity : κ → ι) :
      Rearranged identity (group key identity rows) (group key identity rows') ∧
        (Steady key identity rows rows' →
          group key identity rows = group key identity rows') := by
    have partitions := partitions_group key identity rows
    have partitions' := partitions_group key identity rows'
    exact ⟨partitions.rearranged perm partitions',
      fun steady => (partitions.of_steady perm steady).unique partitions'⟩
  refine ⟨grouped, fun parts => ?_⟩
  by_cases keyable : ∀ row ∈ rows, ∀ v ∈ parts (key row), v.unkeyable? = none
  · right
    have keyable' : ∀ row ∈ rows', ∀ v ∈ parts (key row), v.unkeyable? = none :=
      fun row mem => keyable row (perm.mem_iff.mpr mem)
    exact ⟨_, _, byKey_of_keyable keyable, byKey_of_keyable keyable', grouped _⟩
  · left
    obtain ⟨row, mem, v, part, unkeyable⟩ : ∃ row ∈ rows, ∃ v ∈ parts (key row),
        v.unkeyable? ≠ none := by simpa using keyable
    obtain ⟨kind, failed⟩ := byKey_of_unkeyable mem part unkeyable
    obtain ⟨kind', failed'⟩ := byKey_of_unkeyable (perm.mem_iff.mp mem) part unkeyable
    exact ⟨kind, kind', failed, failed'⟩

namespace Tied

def moved : List Row :=
  [row "love" later ⟨"ann", "Ann"⟩, row "love" east ⟨"bob", "Bob"⟩,
    row "like" same ⟨"bob", "Bob"⟩, row "love" same ⟨"cy", "Cy"⟩]

theorem groups_of_reversed_labels : ∃ groups turned,
    byKey Row.label (fun label => [label]) rows = .ok groups ∧
      byKey Row.label (fun label => [label]) moved = .ok groups ∧
      byKey Row.label (fun label => [label]) rows.reverse = .ok turned ∧
      Rearranged (fun label => [label].map Value.identity?) groups turned ∧
      groups.map Group.first = [east, same] ∧ turned.map Group.first = [same, same] := by
  have steady : Steady Row.label (fun label => [label].map Value.identity?) rows moved := by
    constructor
    · intro row mem
      fin_cases mem <;> rfl
    · decide
  have swapped : rows.Perm moved := .cons _ (.swap _ _ _)
  obtain ⟨_, _, failed, -⟩ | ⟨groups, groups', made, made', -, kept⟩ :=
    (groups_of_rearranged_rows Row.label swapped).2 fun label => [label]
  · cases failed
  obtain ⟨_, _, failed, -⟩ | ⟨others, turned, again, made'', rearranged, -⟩ :=
    (groups_of_rearranged_rows Row.label rows.reverse_perm.symm).2 fun label => [label]
  · cases failed
  obtain rfl := Except.ok.inj (made.symm.trans again)
  refine ⟨groups, turned, made, kept steady ▸ made', made'', rearranged, ?_, ?_⟩
  · obtain rfl := Except.ok.inj made
    cbv
  · obtain rfl := Except.ok.inj made''
    cbv

end Tied

end ReactionLedger.Grouping
