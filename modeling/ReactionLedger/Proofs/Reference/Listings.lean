import ReactionLedger.Proofs.Reference.Records
import ReactionLedger.Proofs.Service.Rollups
import ReactionLedger.Proofs.Session.Results

set_option autoImplicit false

namespace ReactionLedger

open List (Forall₂)

namespace Reference

theorem earliest?_eq (first : Moment) (others : List Moment) :
    earliest? (first :: others) = some (Grouping.earliest first others) := by
  obtain ⟨before, after, same, later, notSooner⟩ := Grouping.earliest_parts first others
  rw [earliest?, List.find?_eq_some_iff_append]
  refine ⟨?_, before, after, same, fun m mem => ?_⟩
  · rw [List.all_eq_true]
    intro m mem
    rw [same] at mem
    rcases List.mem_append.mp mem with old | rest
    · exact decide_eq_true (le_of_lt (later m old))
    · rcases List.mem_cons.mp rest with rfl | new
      · exact decide_eq_true le_rfl
      · exact decide_eq_true (notSooner m new)
  · rw [Bool.not_eq_true', List.all_eq_false]
    refine ⟨Grouping.earliest first others, same ▸ by simp, ?_⟩
    simpa using later m mem

def reading (x : Entry × User) : Reading := ⟨x.1.comment, x.1.label, x.1.created, x.2⟩

theorem filter_author {users : List User} (ids : (users.map User.id).Nodup) (author : String) :
    (users.filter fun u => u.id == author) = (users.find? fun u => u.id = author).toList := by
  induction users with
  | nil => rfl
  | cons u users ih =>
    rw [List.map_cons, List.nodup_cons] at ids
    by_cases same : u.id = author
    · have others : (users.filter fun u => u.id == author) = [] := by
        rw [List.filter_eq_nil_iff]
        intro v mem found
        exact ids.1 (List.mem_map.mpr ⟨v, mem, (eq_of_beq found).trans same.symm⟩)
      simp [same, others]
    · simp [same, ih ids.2]

theorem Records.joined {r : StoredReaction} {e : Entry} (records : Records r e) (u : User) :
    r.joined u = .ok (reading (e, u)).values := by
  have comment : StoredReaction.readUuid r.comment = .ok (.uuid e.comment) := by
    simp [StoredReaction.readUuid, records.comment, Uuid.readLenient_compact]
  rw [StoredReaction.joined_of_reads comment records.created, records.label]
  rfl

theorem Keeps.joined {t : Tables} {b : Book} (keeps : Keeps t b) {conditions : List Condition}
    {p : Entry → Bool}
    (agree : ∀ r e, Records r e → conditions.all (Condition.holds r) = p e) :
    t.joined conditions = .ok ((b.shown p).map fun x => (reading x).values) := by
  obtain ⟨rows, users, -, ordered⟩ := keeps
  have found (r : StoredReaction) : t.withAuthor r =
      (b.users.find? fun u => u.id = r.author).toList.map fun u => (r, u) := by
    rw [Tables.withAuthor, filter_author ordered.ids, users]
  rw [Tables.joined, Tables.byNumber_eq ordered.numbers, Book.shown]
  clear ordered
  generalize t.reactions = reactions at rows
  generalize b.entries = entries at rows
  induction rows with
  | nil => rfl
  | @cons r e reactions entries records rest ih =>
    rw [List.filter_cons, List.filter_cons, agree r e records]
    cases p e with
    | false => exact ih
    | true =>
      rw [if_pos rfl, if_pos rfl, List.flatMap_cons, List.mapM_append, ih, List.filterMap_cons,
        found, records.author]
      cases b.users.find? fun u => u.id = e.author with
      | none => rfl
      | some u =>
        have one : ((some u).toList.map fun u => (r, u)).mapM (fun x => x.1.joined x.2) =
            .ok [(reading (e, u)).values] := by
          simp [records.joined u]
        rw [one]
        rfl

section Groups

variable {κ : Type} [DecidableEq κ] {key : Entry → κ}

theorem groupOf?_reading (shown : List (Entry × User)) (k : κ) :
    Grouping.groupOf? (fun x => (reading x).row) (fun x => key x.1)
        (shown.filter fun x => key x.1 = k) = group? key shown k := by
  cases part : shown.filter fun x => key x.1 = k with
  | nil => simp [group?, part, earliest?, Grouping.groupOf?]
  | cons x others =>
    have inside : x ∈ shown.filter fun x => key x.1 = k := by simp [part]
    have same : key x.1 = k := by simpa using (List.mem_filter.mp inside).2
    simp only [group?, part, List.map_cons, earliest?_eq, Option.map_some, Grouping.groupOf?, same]
    rfl

theorem groupsBy_reading (shown : List (Entry × User)) :
    Grouping.groupsBy (fun x => (reading x).row) (fun x => key x.1) shown = groups key shown := by
  rw [Grouping.groupsBy, groups, Grouping.inOrder, Grouping.classes, List.filterMap_map]
  congr 2
  funext k
  exact groupOf?_reading shown k

end Groups

theorem byLabel_reading (shown : List (Entry × User)) :
    Rollup.byLabel (shown.map fun x => (reading x).row) =
      .ok ((groups Entry.label shown).map (Grouping.recode fun label => .text label)) := by
  rw [← groupsBy_reading]
  exact Rollup.byLabel_eq id (fun x => rfl) shown fun x _ y _ => Iff.rfl

theorem byComment_reading (shown : List (Entry × User)) :
    Rollup.byComment (shown.map fun x => (reading x).row) =
      .ok ((groups (fun e => (e.comment, e.label)) shown).map
        (Grouping.recode fun k => (.uuid k.1, .text k.2))) := by
  rw [← groupsBy_reading]
  exact Rollup.byComment_eq Prod.fst Prod.snd (fun x => ⟨rfl, rfl⟩)
    (fun k l comment label => Prod.ext comment label) shown

namespace Keeps

variable {t : Tables} {b : Book} (keeps : Keeps t b)
include keeps

theorem types (comment : Uuid) :
    (do
      let rows ← Service.readRows (t.joined [.comment (some comment)])
      let groups ← Rollup.byLabel rows
      Rollup.types groups) = .ok (b.types comment) := by
  have agree : ∀ r e, Records r e →
      [Condition.comment (some comment)].all (Condition.holds r) =
        decide (e.comment = comment) := by
    intro r e records
    simp [Condition.holds, records.comment, Uuid.compact_beq, eq_comm]
  rw [keeps.joined agree]
  simp only [Service.readRows, Reading.decodeAll_values, bind, Except.bind, byLabel_reading]
  exact Rollup.types_recode id _

theorem comments (view : Uuid) (comment : Option Uuid) :
    (do
      let rows ← Service.readRows (t.joined
        (.view (some view) :: (comment.map fun c => Condition.comment (some c)).toList))
      let groups ← Rollup.byComment rows
      Rollup.comments groups) = .ok (b.comments view comment) := by
  have agree : ∀ r e, Records r e →
      (Condition.view (some view) :: (comment.map fun c => Condition.comment (some c)).toList).all
        (Condition.holds r) = decide (e.view = view ∧ ∀ c ∈ comment, e.comment = c) := by
    intro r e records
    cases comment with
    | none => simp [Condition.holds, records.view, Uuid.compact_beq, eq_comm]
    | some c =>
      simp [Condition.holds, records.view, records.comment, Uuid.compact_beq, eq_comm]
  rw [keeps.joined agree]
  simp only [Service.readRows, Reading.decodeAll_values, bind, Except.bind, byComment_reading]
  exact Rollup.comments_recode Prod.fst Prod.snd _

end Keeps

end Reference

end ReactionLedger
