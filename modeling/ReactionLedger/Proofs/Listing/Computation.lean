import ReactionLedger.Proofs.Listing.Specification
import ReactionLedger.Proofs.Service.Rollups
import ReactionLedger.Proofs.Session.Results
import ReactionLedger.Proofs.Uuid
import ReactionLedger.Store.World

set_option autoImplicit false

namespace ReactionLedger

open Grouping (classes groupOf? groupsBy)

def Shown.reading (x : Shown) : Reading := ⟨x.comment, x.reaction.label, x.created, x.author⟩

def rollup (xs : List Shown) : List (Group Topic) :=
  groupsBy (fun x => x.reading.row) Shown.topic xs

section Ascending

variable {xs c : List Shown} {g : Group Topic}

theorem rolls_of_groupOf? (ascending : c.Pairwise fun x y => x.number < y.number)
    (made : groupOf? (fun x => x.reading.row) Shown.topic c = some g) :
    Rolls c g ∧ ∃ x rest, c = x :: rest ∧ g.key = x.topic := by
  cases c with
  | nil => simp [groupOf?] at made
  | cons x rest =>
    obtain rfl := Option.some.inj made
    refine ⟨⟨rfl, ?_⟩, x, rest, rfl, rfl⟩
    obtain ⟨before, after, split, later, notSooner⟩ :=
      Grouping.earliest_parts x.time (rest.map Shown.time)
    rw [← List.map_cons, List.map_eq_append_iff] at split
    obtain ⟨early, others, parts, rfl, split⟩ := split
    obtain ⟨y, late, rfl, first, rfl⟩ := List.map_eq_cons_iff.mp split
    rw [parts, List.pairwise_append, List.pairwise_cons] at ascending
    refine ⟨y, parts ▸ by simp, first.symm, fun z mem => ?_⟩
    rw [parts, List.mem_append, List.mem_cons] at mem
    rcases mem with old | rfl | new
    · exact .inl (first ▸ later _ (List.mem_map_of_mem old))
    · exact .inr ⟨rfl, le_rfl⟩
    · rcases lt_or_eq_of_le (first ▸ notSooner _ (List.mem_map_of_mem new)) with sooner | same
      · exact .inl sooner
      · exact .inr ⟨same, le_of_lt (ascending.2.1.1 z new)⟩

theorem class_spec (ascending : xs.Pairwise fun x y => x.number < y.number)
    (inside : c ∈ classes Shown.topic xs)
    (made : groupOf? (fun x => x.reading.row) Shown.topic c = some g) :
    Part {x | x ∈ xs} g.key c ∧ Rolls c g ∧
      ∃ x ∈ c.head?, IsLeast (numbers {x | x ∈ xs} g.key) x.number := by
  obtain ⟨y, there, rfl⟩ := (Grouping.mem_classes_iff _ _ _).mp inside
  have sorted := ascending.filter fun z => decide (z.topic = y.topic)
  obtain ⟨rolls, x, rest, shape, key⟩ := rolls_of_groupOf? sorted made
  have first : x ∈ xs.filter fun z => z.topic = y.topic := shape ▸ List.mem_cons_self
  obtain ⟨member, topic⟩ : x ∈ xs ∧ x.topic = y.topic := by simpa using List.mem_filter.mp first
  have part : Part {x | x ∈ xs} g.key (xs.filter fun z => z.topic = y.topic) :=
    ⟨sorted, fun z => by simp [key, topic]⟩
  refine ⟨part, rolls, x, by simp [shape], ⟨x, member, key.symm, rfl⟩, ?_⟩
  rintro n ⟨z, mem, same, rfl⟩
  have listed := (part.mem z).mpr ⟨mem, same⟩
  rw [shape] at listed sorted
  rcases List.mem_cons.mp listed with rfl | later
  · exact le_rfl
  · exact le_of_lt ((List.pairwise_cons.mp sorted).1 z later)

theorem pairwise_groups (ascending : xs.Pairwise fun x y => x.number < y.number) :
    ((classes Shown.topic xs).filterMap
      (groupOf? (fun x => x.reading.row) Shown.topic)).Pairwise fun g h => g.key ≠ h.key ∧
        ∃ m n, IsLeast (numbers {x | x ∈ xs} g.key) m ∧
          IsLeast (numbers {x | x ∈ xs} h.key) n ∧ m < n := by
  rw [List.pairwise_filterMap]
  refine (Grouping.pairwise_classes Shown.topic ascending).imp_of_mem ?_
  rintro c d inside inside' ⟨apart, ahead⟩ g made h made'
  obtain ⟨part, -, x, first, least⟩ := class_spec ascending inside made
  obtain ⟨part', -, y, first', least'⟩ := class_spec ascending inside' made'
  have left := List.mem_of_mem_head? first
  have right := List.mem_of_mem_head? first'
  refine ⟨?_, _, _, least, least', ahead x first y right⟩
  rw [← ((part.mem x).mp left).2, ← ((part'.mem y).mp right).2]
  exact apart x left y right

theorem lists_rollup (ascending : xs.Pairwise fun x y => x.number < y.number) :
    Lists {x | x ∈ xs} (rollup xs) := by
  have before := pairwise_groups ascending
  have perm := List.mergeSort_perm
    ((classes Shown.topic xs).filterMap (groupOf? (fun x => x.reading.row) Shown.topic))
    fun g h => g.first.instant ≤ h.first.instant
  have made {g : Group Topic} (mem : g ∈ rollup xs) : ∃ c ∈ classes Shown.topic xs,
      groupOf? (fun x => x.reading.row) Shown.topic c = some g :=
    List.mem_filterMap.mp (perm.mem_iff.mp mem)
  refine ⟨?_, fun k => ?_, fun g mem => ?_, ?_⟩
  · refine ((perm.map Group.key).nodup_iff).mpr (List.pairwise_map.mpr ?_)
    exact before.imp fun apart => apart.1
  · constructor
    · intro mem
      obtain ⟨g, there, rfl⟩ := List.mem_map.mp mem
      obtain ⟨c, inside, built⟩ := made there
      obtain ⟨part, -, x, first, -⟩ := class_spec ascending inside built
      exact ⟨x, (part.mem x).mp (List.mem_of_mem_head? first)⟩
    · rintro ⟨x, there, rfl⟩
      have inside := (Grouping.mem_classes_iff Shown.topic xs _).mpr ⟨x, there, rfl⟩
      have listed : x ∈ xs.filter fun y => y.topic = x.topic := by simpa using there
      cases shape : xs.filter fun y => y.topic = x.topic with
      | nil => simp [shape] at listed
      | cons y rest =>
        rw [shape] at inside
        have built : groupOf? (fun x => x.reading.row) Shown.topic (y :: rest) = some _ := rfl
        have topic : y.topic = x.topic := by
          have member : y ∈ xs.filter fun y => y.topic = x.topic := shape ▸ List.mem_cons_self
          simpa using (List.mem_filter.mp member).2
        exact List.mem_map.mpr
          ⟨_, perm.mem_iff.mpr (List.mem_filterMap.mpr ⟨_, inside, built⟩), topic⟩
  · obtain ⟨c, inside, built⟩ := made mem
    obtain ⟨part, rolls, -⟩ := class_spec ascending inside built
    exact ⟨c, part, rolls⟩
  · exact (Grouping.pairwise_inOrder before).imp fun order => order.imp_right fun later =>
      ⟨later.1, later.2.2⟩

end Ascending

end ReactionLedger
