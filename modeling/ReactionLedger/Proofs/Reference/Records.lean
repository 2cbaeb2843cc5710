import ReactionLedger.Proofs.Reference.Machine
import ReactionLedger.Proofs.Store.Tables

set_option autoImplicit false

namespace ReactionLedger.Reference

open List (Forall₂)

structure Records (row : StoredReaction) (e : Entry) : Prop where
  view : row.view = e.view.compact
  comment : row.comment = e.comment.compact
  label : row.label = e.label
  author : row.author = e.author
  created : StoredReaction.readTime row.created = .ok (.stamp e.created)

namespace Records

variable {row : StoredReaction} {e : Entry}

theorem hasKey_self (records : Records row e) : row.hasKey e.key = true := by
  rw [StoredReaction.hasKey_iff]
  simp [Entry.key, records.view, records.comment, records.label, records.author]

theorem hasKey (records : Records row e) (k : Key) : row.hasKey k = decide (e.key = k) := by
  by_cases same : e.key = k
  · simp [← same, records.hasKey_self]
  · have other : ¬ row.hasKey k = true := fun has =>
      same (StoredReaction.key_unique records.hasKey_self has)
    simpa [same] using other

theorem load (records : Records row e) :
    row.load = .ok { e.reaction with id := .int row.id } :=
  StoredReaction.load_of_hasKey records.hasKey_self records.created

end Records

theorem Book.isSome_member (b : Book) (id : String) :
    (b.member (some id)).isSome = b.users.any fun u => u.id == id := by
  simp only [Book.member, Option.filter]
  split
  next there => exact there.symm
  next absent => simpa using absent

structure Keeps (t : Tables) (b : Book) : Prop where
  rows : Forall₂ Records t.reactions b.entries
  users : t.users = b.users
  keys : (b.entries.map Entry.key).Nodup
  ordered : t.Ordered

theorem mem_of_forall₂ {α β : Type} {R : α → β → Prop} {xs : List α} {ys : List β}
    (related : Forall₂ R xs ys) {x : α} (mem : x ∈ xs) : ∃ y ∈ ys, R x y := by
  induction related with
  | nil => cases mem
  | cons head _ ih =>
    rcases List.mem_cons.mp mem with rfl | inside
    · exact ⟨_, List.mem_cons_self, head⟩
    · obtain ⟨y, there, holds⟩ := ih inside
      exact ⟨y, List.mem_cons_of_mem _ there, holds⟩

theorem nodup_keys {rows : List StoredReaction} {entries : List Entry}
    (related : Forall₂ Records rows entries) (keys : (entries.map Entry.key).Nodup) :
    (rows.map StoredReaction.key).Nodup := by
  induction related with
  | nil => exact List.nodup_nil
  | @cons row e rows entries records rest ih =>
    rw [List.map_cons, List.nodup_cons] at keys ⊢
    refine ⟨fun again => keys.1 ?_, ih keys.2⟩
    obtain ⟨q, inside, same⟩ := List.mem_map.mp again
    obtain ⟨f, there, recordsToo⟩ := mem_of_forall₂ rest inside
    have has : q.hasKey e.key = true :=
      (StoredReaction.hasKey_congr e.key same).trans records.hasKey_self
    refine List.mem_map.mpr ⟨f, there, ?_⟩
    simpa [recordsToo.hasKey] using has

namespace Keeps

variable {t : Tables} {b : Book} (keeps : Keeps t b)
include keeps

theorem row_of_entry {e : Entry} (mem : e ∈ b.entries) : ∃ row ∈ t.reactions, Records row e :=
  mem_of_forall₂ keeps.rows.flip mem

theorem entry_of_row {row : StoredReaction} (mem : row ∈ t.reactions) :
    ∃ e ∈ b.entries, Records row e :=
  mem_of_forall₂ keeps.rows mem

theorem holds_iff (k : Key) : t.Holds k ↔ ∃ e ∈ b.entries, e.key = k := by
  constructor
  · rintro ⟨row, mem, has⟩
    obtain ⟨e, there, records⟩ := keeps.entry_of_row mem
    exact ⟨e, there, by simpa [records.hasKey] using has⟩
  · rintro ⟨e, mem, rfl⟩
    obtain ⟨row, there, records⟩ := keeps.row_of_entry mem
    exact ⟨row, there, records.hasKey_self⟩

theorem keysUnique : t.KeysUnique := nodup_keys keeps.rows keeps.keys

theorem find_none {k : Key} (absent : b.find? k = none) : t.find k = .ok none := by
  rw [Tables.find_eq_none_iff, keeps.holds_iff]
  rintro ⟨e, mem, same⟩
  exact absurd same (by simpa using List.find?_eq_none.mp absent e mem)

theorem find_some {k : Key} {e : Entry} (found : b.find? k = some e) :
    ∃ n, t.find k = .ok (some { e.reaction with id := .int n }) := by
  have same : e.key = k := by simpa using List.find?_some found
  obtain ⟨row, there, records⟩ := keeps.row_of_entry (List.mem_of_find?_eq_some found)
  have has : row.hasKey k = true := same ▸ records.hasKey_self
  refine ⟨row.id, ?_⟩
  rw [Tables.find_of_mem keeps.keysUnique there has, records.load]
  rfl

theorem knows (user : Option String) : t.knows user = (b.member user).isSome := by
  cases user with
  | none => simp [Tables.knows, Book.member]
  | some id =>
    have flip (u : User) : (some id == some u.id) = (u.id == id) := by
      simp [Bool.beq_eq_decide_eq, eq_comm]
    rw [Book.isSome_member, ← keeps.users]
    simp only [Tables.knows, flip]

theorem append {row : StoredReaction} {e : Entry} (records : Records row e)
    (number : row.id = t.nextId) (new : b.find? e.key = none) :
    Keeps { t with reactions := t.reactions ++ [row] } (b.append e) where
  rows := List.rel_append keeps.rows (.cons records .nil)
  users := keeps.users
  keys := by
    simp only [Book.append, List.map_append, List.map_cons, List.map_nil]
    refine List.Nodup.append keeps.keys (List.nodup_singleton _) ?_
    intro k old last
    obtain ⟨f, there, rfl⟩ := List.mem_map.mp old
    have other := List.find?_eq_none.mp new f there
    simp [List.mem_singleton.mp last] at other
  ordered := keeps.ordered.append number

theorem erase (k : Key) : Keeps (t.deleteWhere (StoredReaction.hasKey k)).1 (b.erase k) where
  rows := by
    have same : (Relator.LiftFun Records Iff)
        (fun r => (!r.hasKey k) = true) (fun e => decide (e.key ≠ k) = true) := by
      intro row e records
      simp [records.hasKey]
    exact List.rel_filter same keeps.rows
  users := keeps.users
  keys := keeps.keys.sublist (List.filter_sublist.map _)
  ordered := keeps.ordered.edit (.delete _)

theorem enroll {user : User} (new : b.member (some user.id) = none) :
    Keeps { t with users := b.users ++ [user] } { b with users := b.users ++ [user] } where
  rows := keeps.rows
  users := rfl
  keys := keeps.keys
  ordered := by
    refine ⟨keeps.ordered.numbers, Directory.nodup_concat (keeps.users ▸ keeps.ordered.ids) ?_⟩
    intro u there same
    have none := Book.isSome_member b user.id
    rw [new, Option.isSome_none, eq_comm, List.any_eq_false] at none
    exact none u there (by simpa using same)

theorem dismiss (p : User → Bool) :
    Keeps { t with users := b.users.filter p } { b with users := b.users.filter p } where
  rows := keeps.rows
  users := rfl
  keys := keeps.keys
  ordered := ⟨keeps.ordered.numbers, Directory.nodup_filter (keeps.users ▸ keeps.ordered.ids) _⟩

theorem decide_holds (k : Key) : decide (t.Holds k) = (b.find? k).isSome := by
  have found : (b.find? k).isSome = true ↔ ∃ e ∈ b.entries, e.key = k := by
    simp [Book.find?]
  rw [Bool.eq_iff_iff, found, ← keeps.holds_iff, decide_eq_true_eq]

end Keeps

end ReactionLedger.Reference
