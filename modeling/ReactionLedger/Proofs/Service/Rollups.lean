import ReactionLedger.Proofs.Grouping
import ReactionLedger.Service.Listing
import ReactionLedger.Store.Tables

set_option autoImplicit false

namespace ReactionLedger

structure Reading where
  comment : Uuid
  label : String
  created : Stamp
  author : User

namespace Reading

def values (x : Reading) : List Value :=
  [.uuid x.comment, .text x.label, .stamp x.created, .text x.author.id, .text x.author.name]

def row (x : Reading) : Row := ⟨.uuid x.comment, .text x.label, x.created.moment, x.author⟩

theorem decodeAll_values {α : Type} (reading : α → Reading) (xs : List α) :
    Row.decodeAll (xs.map fun x => (reading x).values) = .ok (xs.map fun x => (reading x).row) := by
  rw [Row.decodeAll, List.mapM_map]
  exact List.mapM_pure

end Reading

namespace StoredReaction

theorem readUuid_cases (source : String) :
    (∃ u, readUuid source = .ok (.uuid u)) ∨ ∃ e, readUuid source = .error e := by
  unfold readUuid
  split
  next u _ => exact .inl ⟨u, rfl⟩
  next => exact .inr ⟨_, rfl⟩

theorem readTime_cases (cell : Cell) :
    (∃ s, readTime cell = .ok (.stamp s)) ∨ ∃ e, readTime cell = .error e := by
  unfold readTime
  split
  · split
    next s _ => exact .inl ⟨s, rfl⟩
    next => exact .inr ⟨_, rfl⟩
  · exact .inr ⟨_, rfl⟩

theorem joined_of_reads {r : StoredReaction} {comment : Uuid} {created : Stamp}
    (uuid : readUuid r.comment = .ok (.uuid comment))
    (time : readTime r.created = .ok (.stamp created)) (u : User) :
    r.joined u = .ok (Reading.values ⟨comment, r.label, created, u⟩) := by
  simp only [joined, uuid, time]
  rfl

theorem reads_of_joined {r : StoredReaction} {u : User} {values : List Value}
    (read : r.joined u = .ok values) :
    ∃ comment created, readUuid r.comment = .ok (.uuid comment) ∧
      readTime r.created = .ok (.stamp created) ∧
      values = Reading.values ⟨comment, r.label, created, u⟩ := by
  obtain ⟨comment, uuid⟩ | ⟨e, failed⟩ := readUuid_cases r.comment
  · obtain ⟨created, time⟩ | ⟨e, failed⟩ := readTime_cases r.created
    · rw [joined_of_reads uuid time] at read
      exact ⟨comment, created, uuid, time, (Except.ok.inj read).symm⟩
    · simp [joined, uuid, failed, bind, Except.bind] at read
  · simp [joined, failed, bind, Except.bind] at read

end StoredReaction

namespace Rollup

open Grouping (groupsBy recode)

variable {α κ : Type} {reading : α → Reading} {key : α → κ}

theorem byLabel_eq [DecidableEq κ] (label : κ → String)
    (labelled : ∀ x, (reading x).label = label (key x))
    (xs : List α)
    (same : ∀ x ∈ xs, ∀ y ∈ xs, label (key x) = label (key y) ↔ key x = key y) :
    byLabel (xs.map fun x => (reading x).row) =
      .ok ((groupsBy (fun x => (reading x).row) key xs).map
        (recode fun k => .text (label k))) := by
  have keyable : (xs.map fun x => (reading x).row).findSome?
      (fun r => [r.label].findSome? Value.unkeyable?) = none := by
    refine List.findSome?_eq_none_iff.mpr fun r mem => ?_
    obtain ⟨x, -, rfl⟩ := List.mem_map.mp mem
    rfl
  rw [byLabel, Grouping.byKey, keyable]
  refine congrArg Except.ok (Grouping.group_map (fun x => ?_) xs fun x mem y mem' => ?_)
  · exact congrArg Value.text (labelled x)
  · simpa [Value.identity?] using same x mem y mem'

theorem byComment_eq [DecidableEq κ] (comment : κ → Uuid) (label : κ → String)
    (keyed : ∀ x, (reading x).comment = comment (key x) ∧ (reading x).label = label (key x))
    (injective : ∀ k l, comment k = comment l → label k = label l → k = l) (xs : List α) :
    byComment (xs.map fun x => (reading x).row) =
      .ok ((groupsBy (fun x => (reading x).row) key xs).map
        (recode fun k => (.uuid (comment k), .text (label k)))) := by
  have keyable : (xs.map fun x => (reading x).row).findSome?
      (fun r => [r.comment, r.label].findSome? Value.unkeyable?) = none := by
    refine List.findSome?_eq_none_iff.mpr fun r mem => ?_
    obtain ⟨x, -, rfl⟩ := List.mem_map.mp mem
    rfl
  rw [byComment, Grouping.byKey, keyable]
  refine congrArg Except.ok (Grouping.group_map (fun x => ?_) xs fun x _ y _ => ?_)
  · obtain ⟨comment, label⟩ := keyed x
    simp [Reading.row, comment, label]
  · constructor
    · intro equal
      have parts : comment (key x) = comment (key y) ∧ label (key x) = label (key y) := by
        simpa [Value.identity?] using equal
      exact injective _ _ parts.1 parts.2
    · intro equal
      rw [equal]

theorem types_recode (label : κ → String) (groups : List (Group κ)) :
    types (groups.map (recode fun k => .text (label k))) =
      .ok (groups.map fun g => ⟨label g.key, g.first, g.users⟩) := by
  rw [types, List.mapM_map]
  exact List.mapM_pure

theorem comments_recode (comment : κ → Uuid) (label : κ → String) (groups : List (Group κ)) :
    comments (groups.map (recode fun k => (.uuid (comment k), .text (label k)))) =
      .ok (groups.map fun g => ⟨⟨label g.key, g.first, g.users⟩, comment g.key⟩) := by
  rw [comments, List.mapM_map]
  exact List.mapM_pure

end Rollup

end ReactionLedger
