import Mathlib
import ReactionLedger.Grouping

set_option autoImplicit false

namespace ReactionLedger.Grouping

section Classes

variable {α β ι ι' : Type} [DecidableEq ι] [DecidableEq ι']

theorem classes_cons (f : α → ι) (x : α) (xs : List α) :
    classes f (x :: xs) =
      (x :: xs.filter fun y => f y = f x) :: classes f (xs.filter fun y => f y ≠ f x) := by
  have keys : (xs.map f).filter (fun i => !i == f x) = (xs.filter fun y => f y ≠ f x).map f := by
    rw [List.filter_map]
    congr 1
    exact List.filter_congr fun y _ => by simp [Bool.beq_eq_decide_eq]
  rw [classes, List.map_cons, List.eraseDups_cons, keys, List.map_cons, classes]
  congr 1
  · simp
  · refine List.map_congr_left fun i mem => ?_
    obtain ⟨y, other, rfl⟩ := List.mem_map.mp (List.mem_eraseDups.mp mem)
    have apart : f y ≠ f x := by simpa using (List.mem_filter.mp other).2
    rw [List.filter_cons_of_neg (by simpa using Ne.symm apart), List.filter_filter]
    refine List.filter_congr fun z _ => ?_
    by_cases same : f z = f y <;> simp [same, apart]

theorem classes_induction {P : List α → Prop} (f : α → ι) (nil : P [])
    (cons : ∀ x xs, P (xs.filter fun y => f y ≠ f x) → P (x :: xs)) (xs : List α) : P xs := by
  induction hn : xs.length using Nat.strong_induction_on generalizing xs with
  | _ n ih =>
    cases xs with
    | nil => exact nil
    | cons x xs =>
      refine cons x xs (ih _ ?_ _ rfl)
      have shorter := List.length_filter_le (fun y => decide (f y ≠ f x)) xs
      simp only [List.length_cons] at hn
      omega

theorem classes_map (row : α → β) (f : β → ι) (g : α → ι') (xs : List α)
    (same : ∀ x ∈ xs, ∀ y ∈ xs, f (row x) = f (row y) ↔ g x = g y) :
    classes f (xs.map row) = (classes g xs).map (List.map row) := by
  induction xs using classes_induction g with
  | nil => rfl
  | cons x xs ih =>
    have agree (y : α) (mem : y ∈ xs) : f (row y) = f (row x) ↔ g y = g x :=
      same y (List.mem_cons_of_mem _ mem) x List.mem_cons_self
    have first : (xs.map row).filter (fun b => f b = f (row x)) =
        (xs.filter fun y => g y = g x).map row := by
      rw [List.filter_map]
      congr 1
      exact List.filter_congr fun y mem => by simp [agree y mem]
    have others : (xs.map row).filter (fun b => f b ≠ f (row x)) =
        (xs.filter fun y => g y ≠ g x).map row := by
      rw [List.filter_map]
      congr 1
      exact List.filter_congr fun y mem => by simp [agree y mem]
    have rest := ih fun y mem z mem' => same y (List.mem_cons_of_mem _ (List.mem_of_mem_filter mem))
      z (List.mem_cons_of_mem _ (List.mem_of_mem_filter mem'))
    rw [List.map_cons, classes_cons, classes_cons, first, others, rest, List.map_cons,
      List.map_cons]

theorem mem_classes_iff (f : α → ι) (xs c : List α) :
    c ∈ classes f xs ↔ ∃ x ∈ xs, c = xs.filter fun y => f y = f x := by
  simp only [classes, List.mem_map, List.mem_eraseDups]
  constructor
  · rintro ⟨i, ⟨x, mem, rfl⟩, rfl⟩
    exact ⟨x, mem, rfl⟩
  · rintro ⟨x, mem, rfl⟩
    exact ⟨f x, ⟨x, mem, rfl⟩, rfl⟩

theorem pairwise_classes {R : α → α → Prop} (f : α → ι) {xs : List α} (sorted : xs.Pairwise R) :
    (classes f xs).Pairwise fun c d =>
      (∀ x ∈ c, ∀ y ∈ d, f x ≠ f y) ∧ ∀ x ∈ c.head?, ∀ y ∈ d, R x y := by
  induction xs using classes_induction f with
  | nil => exact .nil
  | cons x xs ih =>
    obtain ⟨ahead, rest⟩ := List.pairwise_cons.mp sorted
    rw [classes_cons, List.pairwise_cons]
    refine ⟨fun d inside => ?_, ih (rest.sublist List.filter_sublist)⟩
    obtain ⟨z, -, rfl⟩ := (mem_classes_iff f _ d).mp inside
    have later (y : α) (mem : y ∈ (xs.filter fun y => f y ≠ f x).filter fun y => f y = f z) :
        y ∈ xs ∧ f y ≠ f x := by
      simpa using List.mem_filter.mp (List.mem_of_mem_filter mem)
    refine ⟨fun a mem y mem' same => (later y mem').2 ?_, fun a first y mem' => ?_⟩
    · rcases List.mem_cons.mp mem with rfl | other
      · exact same.symm
      · exact same.symm.trans (by simpa using (List.mem_filter.mp other).2)
    · obtain rfl : x = a := Option.some.inj first
      exact ahead y (later y mem').1

theorem sum_length_classes (f : α → ι) (xs : List α) :
    ((classes f xs).map List.length).sum = xs.length := by
  induction xs using classes_induction f with
  | nil => rfl
  | cons x xs ih =>
    have parts := List.length_eq_length_filter_add (l := xs) fun y => decide (f y = f x)
    have rest : xs.filter (fun y => !decide (f y = f x)) = xs.filter fun y => f y ≠ f x :=
      List.filter_congr fun y _ => by simp
    rw [classes_cons, List.map_cons, List.sum_cons, ih, List.length_cons, List.length_cons]
    rw [rest] at parts
    omega

end Classes

section Order

variable {κ : Type}

theorem inOrder_perm (groups : List (Group κ)) : (inOrder groups).Perm groups :=
  List.mergeSort_perm groups _

theorem filter_inOrder (groups : List (Group κ)) (i : Int) :
    (inOrder groups).filter (fun g => g.first.instant = i) =
      groups.filter fun g => g.first.instant = i := by
  have same : (groups.filter fun g => g.first.instant = i).Pairwise fun g h =>
      decide (g.first.instant ≤ h.first.instant) = true := by
    refine List.pairwise_of_forall_mem_list fun g mem h mem' => ?_
    have left : g.first.instant = i := by simpa using (List.mem_filter.mp mem).2
    have right : h.first.instant = i := by simpa using (List.mem_filter.mp mem').2
    simp [left, right]
  have inside : (groups.filter fun g => g.first.instant = i).Sublist (inOrder groups) :=
    List.sublist_mergeSort (fun a b c => by simpa using le_trans)
      (fun a b => by simpa using le_total _ _) same List.filter_sublist
  have kept := inside.filter fun g => decide (g.first.instant = i)
  rw [List.filter_filter] at kept
  simp only [Bool.and_self] at kept
  refine (kept.eq_of_length ?_).symm
  exact ((inOrder_perm groups).filter _).length_eq.symm

theorem sorted_inOrder (groups : List (Group κ)) :
    (inOrder groups).Pairwise fun g h => g.first.instant ≤ h.first.instant :=
  (List.pairwise_mergeSort (fun a b c => by simpa using le_trans)
    (fun a b => by simpa using le_total _ _) groups).imp fun before => by simpa using before

theorem pairwise_inOrder {B : Group κ → Group κ → Prop} {groups : List (Group κ)}
    (before : groups.Pairwise B) :
    (inOrder groups).Pairwise fun g h =>
      g.first.instant < h.first.instant ∨ g.first.instant = h.first.instant ∧ B g h := by
  rw [List.pairwise_iff_forall_sublist]
  intro g h pair
  have ordered : g.first.instant ≤ h.first.instant :=
    List.pairwise_iff_forall_sublist.mp (sorted_inOrder groups) pair
  rcases lt_or_eq_of_le ordered with sooner | same
  · exact .inl sooner
  · have there := pair.filter fun k => decide (k.first.instant = h.first.instant)
    rw [filter_inOrder] at there
    simp only [List.filter_cons, same, decide_true, if_true, List.filter_nil] at there
    exact .inr ⟨same,
      List.pairwise_iff_forall_sublist.mp before (there.trans List.filter_sublist)⟩

end Order

section Rows

variable {α κ κ' ι : Type}

theorem sum_users_filterMap {make : List α → Option (Group κ)} (none : make [] = none)
    (some : ∀ x xs, ∃ g, make (x :: xs) = some g ∧ g.users.length = (x :: xs).length)
    (cs : List (List α)) :
    ((cs.filterMap make).map fun g => g.users.length).sum = (cs.map List.length).sum := by
  induction cs with
  | nil => rfl
  | cons c cs ih =>
    cases c with
    | nil => rw [List.filterMap_cons_none none, ih, List.map_cons, List.sum_cons, List.length_nil,
        Nat.zero_add]
    | cons x xs =>
      obtain ⟨g, made, users⟩ := some x xs
      rw [List.filterMap_cons_some made, List.map_cons, List.sum_cons, ih, users, List.map_cons,
        List.sum_cons]

def recode (code : κ → κ') (g : Group κ) : Group κ' := ⟨code g.key, g.first, g.users⟩

def groupOf? (row : α → Row) (key : α → κ) : List α → Option (Group κ)
  | [] => none
  | x :: xs => some {
      key := key x
      first := earliest (row x).created (xs.map fun y => (row y).created)
      users := (x :: xs).map fun y => (row y).user }

theorem ofClass_map {row : α → Row} {key : α → κ} {key' : Row → κ'} {code : κ → κ'}
    (keyed : ∀ x, key' (row x) = code (key x)) (c : List α) :
    ofClass key' (c.map row) = (groupOf? row key c).map (recode code) := by
  cases c with
  | nil => rfl
  | cons x xs => simp [ofClass, groupOf?, recode, keyed, Function.comp_def]

def groupsBy [DecidableEq κ] (row : α → Row) (key : α → κ) (xs : List α) : List (Group κ) :=
  inOrder ((classes key xs).filterMap (groupOf? row key))

theorem group_map [DecidableEq κ] [DecidableEq ι] {row : α → Row} {key : α → κ}
    {key' : Row → κ'} {code : κ → κ'} {identity : κ' → ι}
    (keyed : ∀ x, key' (row x) = code (key x)) (xs : List α)
    (same : ∀ x ∈ xs, ∀ y ∈ xs,
      identity (code (key x)) = identity (code (key y)) ↔ key x = key y) :
    group key' identity (xs.map row) = (groupsBy row key xs).map (recode code) := by
  have sorted (groups : List (Group κ)) :
      (inOrder groups).map (recode code) = inOrder (groups.map (recode code)) :=
    List.map_mergeSort fun _ _ _ _ => rfl
  rw [group, classes_map row (identity ∘ key') key xs (by simpa [keyed] using same),
    List.filterMap_map, groupsBy, sorted, List.map_filterMap]
  congr 2
  funext c
  exact ofClass_map keyed c

end Rows

section Keys

variable {κ ι : Type} [DecidableEq ι] (key : Row → κ) (identity : κ → ι) (rows : List Row)

theorem mem_group_iff (g : Group κ) : g ∈ group key identity rows ↔
    ∃ row ∈ rows,
      ofClass key (rows.filter fun r => identity (key r) = identity (key row)) = some g := by
  rw [group, (inOrder_perm _).mem_iff, List.mem_filterMap]
  constructor
  · rintro ⟨c, inside, made⟩
    obtain ⟨row, mem, rfl⟩ := (mem_classes_iff _ _ _).mp inside
    exact ⟨row, mem, made⟩
  · rintro ⟨row, mem, made⟩
    exact ⟨_, (mem_classes_iff _ _ _).mpr ⟨row, mem, rfl⟩, made⟩

theorem exists_row_of_group {g : Group κ} (mem : g ∈ group key identity rows) :
    ∃ row ∈ rows, g.key = key row := by
  obtain ⟨row, -, made⟩ := (mem_group_iff key identity rows g).mp mem
  cases same : rows.filter fun r => identity (key r) = identity (key row) with
  | nil => simp [same, ofClass] at made
  | cons first others =>
    have inside : first ∈ rows := List.mem_of_mem_filter (same ▸ List.mem_cons_self)
    rw [same] at made
    obtain rfl := Option.some.inj made
    exact ⟨first, inside, rfl⟩

theorem exists_group_of_row {row : Row} (mem : row ∈ rows) :
    ∃ g ∈ group key identity rows, identity g.key = identity (key row) := by
  have own : row ∈ rows.filter fun r => identity (key r) = identity (key row) := by simp [mem]
  cases same : rows.filter fun r => identity (key r) = identity (key row) with
  | nil => simp [same] at own
  | cons first others =>
    have level : first ∈ rows.filter fun r => identity (key r) = identity (key row) :=
      same ▸ List.mem_cons_self
    exact ⟨_, (mem_group_iff key identity rows _).mpr ⟨row, mem, by rw [same]; rfl⟩,
      by simpa using (List.mem_filter.mp level).2⟩

theorem sum_users_group :
    ((group key identity rows).map fun g => g.users.length).sum = rows.length := by
  rw [group, ((inOrder_perm _).map _).sum_eq, sum_users_filterMap rfl, sum_length_classes]
  exact fun row rest => ⟨_, rfl, by simp⟩

end Keys

theorem earliest_parts (first : Moment) (others : List Moment) :
    ∃ before after, first :: others = before ++ earliest first others :: after ∧
      (∀ m ∈ before, (earliest first others).instant < m.instant) ∧
      ∀ m ∈ after, (earliest first others).instant ≤ m.instant := by
  induction others using List.reverseRecOn with
  | nil => exact ⟨[], [], rfl, by simp, by simp⟩
  | append_singleton others n ih =>
    obtain ⟨before, after, same, later, notSooner⟩ := ih
    have fold : earliest first (others ++ [n]) =
        if n.instant < (earliest first others).instant then n else earliest first others := by
      rw [earliest, List.foldl_append]
      rfl
    rw [fold]
    split
    next sooner =>
      refine ⟨first :: others, [], rfl, fun m mem => ?_, by simp⟩
      rw [same] at mem
      rcases List.mem_append.mp mem with old | rest
      · exact lt_trans sooner (later m old)
      · rcases List.mem_cons.mp rest with rfl | new
        · exact sooner
        · exact lt_of_lt_of_le sooner (notSooner m new)
    next notSoon =>
      refine ⟨before, after ++ [n], by rw [← List.cons_append, same]; simp, later, fun m mem => ?_⟩
      rcases List.mem_append.mp mem with old | new
      · exact notSooner m old
      · rw [List.mem_singleton.mp new]
        exact not_lt.mp notSoon

end ReactionLedger.Grouping
