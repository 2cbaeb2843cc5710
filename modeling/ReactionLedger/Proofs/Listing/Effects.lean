import ReactionLedger.Proofs.Listing.Specification

set_option autoImplicit false

namespace ReactionLedger

variable {R : Set Shown} {k : Topic} {x : Shown} {rows : List Shown} {g : Group Topic}
variable {groups groups' : List (Group Topic)}

theorem Lists.mem_of_rolls (lists : Lists R groups) (part : Part R g.key rows)
    (rolls : Rolls rows g) : g ∈ groups := by
  obtain ⟨x, mem, -⟩ := rolls.first
  obtain ⟨h, there, key⟩ := List.mem_map.mp ((lists.covers g.key).mpr ⟨x, (part.mem x).mp mem⟩)
  obtain ⟨rows', part', rolls'⟩ := lists.rolled h there
  obtain rfl := part.unique (key ▸ part')
  rwa [rolls.unique rolls' part.ascending key.symm]

theorem Lists.part_nil (lists : Lists R groups) (absent : k ∉ groups.map Group.key) :
    Part R k [] where
  ascending := .nil
  mem x := by
    refine ⟨nofun, fun inside => absurd ((lists.covers k).mpr ⟨x, inside⟩) absent⟩

theorem Part.concat (part : Part R x.topic rows) (last : ∀ y ∈ R, y.number < x.number) :
    Part (insert x R) x.topic (rows ++ [x]) where
  ascending := by
    rw [List.pairwise_append]
    refine ⟨part.ascending, List.pairwise_singleton _ _, fun y mem z there => ?_⟩
    rw [List.mem_singleton.mp there]
    exact last y ((part.mem y).mp mem).1
  mem y := by
    rw [List.mem_append, part.mem, List.mem_singleton, Set.mem_insert_iff]
    constructor
    · rintro (⟨inside, topic⟩ | rfl)
      · exact ⟨.inr inside, topic⟩
      · exact ⟨.inl rfl, rfl⟩
    · rintro ⟨rfl | inside, topic⟩
      · exact .inr rfl
      · exact .inl ⟨inside, topic⟩

theorem Rolls.single (x : Shown) : Rolls [x] ⟨x.topic, x.time, [x.author]⟩ where
  users := rfl
  first := ⟨x, List.mem_cons_self, rfl, fun _ mem => List.mem_singleton.mp mem ▸ .inr ⟨rfl, le_rfl⟩⟩

theorem Rolls.concat (rolls : Rolls rows g) (last : ∀ y ∈ rows, y.number < x.number) :
    Rolls (rows ++ [x])
      ⟨g.key, if x.time.instant < g.first.instant then x.time else g.first,
        g.users ++ [x.author]⟩ where
  users := by rw [rolls.users, List.map_append, List.map_singleton]
  first := by
    obtain ⟨y, mem, first, leads⟩ := rolls.first
    rw [first]
    split
    next sooner =>
      refine ⟨x, by simp, rfl, fun z there => ?_⟩
      rcases List.mem_append.mp there with old | new
      · rcases leads z old with before | ⟨same, -⟩
        · exact .inl (lt_trans sooner before)
        · exact .inl (lt_of_lt_of_eq sooner same)
      · exact List.mem_singleton.mp new ▸ .inr ⟨rfl, le_rfl⟩
    next notSooner =>
      refine ⟨y, List.mem_append_left _ mem, rfl, fun z there => ?_⟩
      rcases List.mem_append.mp there with old | new
      · exact leads z old
      · obtain rfl := List.mem_singleton.mp new
        rcases lt_or_eq_of_le (not_lt.mp notSooner) with before | same
        · exact .inl before
        · exact .inr ⟨same, le_of_lt (last y mem)⟩

/-- The summary of the topic has one more user, and the new time when that is earlier. -/
structure Gains (k : Topic) (time : Moment) (author : User) (groups groups' : List (Group Topic)) :
    Prop where
  others : groups'.filter (fun g => g.key ≠ k) = groups.filter fun g => g.key ≠ k
  once : (groups'.map Group.key).Nodup
  fresh : k ∉ groups.map Group.key → ⟨k, time, [author]⟩ ∈ groups'
  grown : ∀ g ∈ groups, g.key = k →
    ⟨k, if time.instant < g.first.instant then time else g.first, g.users ++ [author]⟩ ∈ groups'

theorem Lists.gains (lists : Lists R groups) (lists' : Lists (insert x R) groups')
    (last : ∀ y ∈ R, y.number < x.number) : Gains x.topic x.time x.author groups groups' where
  others := by
    refine lists'.filter_eq lists (fun k => k ≠ x.topic) fun y other => ?_
    have apart : y ≠ x := fun same => by simp [same] at other
    simp [apart]
  once := lists'.once
  fresh absent := lists'.mem_of_rolls ((lists.part_nil absent).concat last) (.single x)
  grown g mem key := by
    obtain ⟨rows, part, rolls⟩ := lists.rolled g mem
    rw [key] at part
    have grown := rolls.concat fun y inside => last y ((part.mem y).mp inside).1
    rw [key] at grown
    exact lists'.mem_of_rolls (part.concat last) grown

theorem Part.without {before after : List Shown} (part : Part R k (before ++ x :: after)) :
    Part (R \ {x}) k (before ++ after) where
  ascending := part.ascending.sublist ((List.sublist_cons_self _ _).append_left _)
  mem y := by
    have once := (nodup_numbers part.ascending).of_map
    rw [List.nodup_middle, List.nodup_cons] at once
    have all := part.mem y
    rw [List.mem_append, List.mem_cons] at all
    rw [Set.mem_sdiff, Set.mem_singleton_iff, List.mem_append]
    constructor
    · intro mem
      obtain ⟨inside, topic⟩ := all.mp (mem.imp_right .inr)
      exact ⟨⟨inside, fun same => once.1 (List.mem_append.mpr (same ▸ mem))⟩, topic⟩
    · rintro ⟨⟨inside, apart⟩, topic⟩
      rcases all.mpr ⟨inside, topic⟩ with early | rfl | late
      · exact .inl early
      · exact absurd rfl apart
      · exact .inr late

/-- The one entry of a row is gone from its summary, which is gone itself when it had no other. -/
structure Loses (R : Set Shown) (x : Shown) (groups groups' : List (Group Topic)) : Prop where
  others : groups'.filter (fun g => g.key ≠ x.topic) = groups.filter fun g => g.key ≠ x.topic
  once : (groups'.map Group.key).Nodup
  entry : ∃ before after, Part R x.topic (before ++ x :: after) ∧
    (∃ g ∈ groups, g.key = x.topic ∧
      g.users = before.map Shown.author ++ x.author :: after.map Shown.author) ∧
    (x.topic ∈ groups'.map Group.key ↔ before ++ after ≠ []) ∧
    ∀ g ∈ groups', g.key = x.topic → Rolls (before ++ after) g

theorem Lists.loses (lists : Lists R groups) (lists' : Lists (R \ {x}) groups') (mem : x ∈ R) :
    Loses R x groups groups' where
  others := by
    refine lists'.filter_eq lists (fun k => k ≠ x.topic) fun y other => ?_
    have apart : y ≠ x := fun same => by simp [same] at other
    simp [apart]
  once := lists'.once
  entry := by
    obtain ⟨g, there, key⟩ := List.mem_map.mp ((lists.covers x.topic).mpr ⟨x, mem, rfl⟩)
    obtain ⟨rows, part, rolls⟩ := lists.rolled g there
    rw [key] at part
    obtain ⟨before, after, rfl⟩ := List.append_of_mem ((part.mem x).mpr ⟨mem, rfl⟩)
    have rest := part.without
    refine ⟨before, after, part, ⟨g, there, key, ?_⟩, ?_, fun h there' key' => ?_⟩
    · rw [rolls.users, List.map_append, List.map_cons]
    · rw [lists'.covers]
      constructor
      · rintro ⟨y, inside⟩
        exact List.ne_nil_of_mem ((rest.mem y).mpr inside)
      · intro some
        obtain ⟨y, listed⟩ := List.exists_mem_of_ne_nil _ some
        exact ⟨y, (rest.mem y).mp listed⟩
    · obtain ⟨rows', part', rolls'⟩ := lists'.rolled h there'
      rw [key'] at part'
      rwa [rest.unique part']

end ReactionLedger
