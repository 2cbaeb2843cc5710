import Mathlib
import ReactionLedger.Grouping
import ReactionLedger.Store.Tables

/-!
What the listings are to show, said of the rows alone: one summary for each comment and label that
some row has, with all the authors in the order of the rows' numbers and the earliest time, and the
summaries in the order of their times, those of one instant by their smallest numbers.
-/

set_option autoImplicit false

namespace ReactionLedger

structure Shown where
  reaction : StoredReaction
  author : User
  comment : Uuid
  created : Stamp
  own : author.id = reaction.author
  reads_comment : StoredReaction.readUuid reaction.comment = .ok (.uuid comment)
  reads_created : StoredReaction.readTime reaction.created = .ok (.stamp created)

abbrev Topic := Uuid × String

namespace Shown

def number (x : Shown) : Nat := x.reaction.id

def topic (x : Shown) : Topic := (x.comment, x.reaction.label)

def time (x : Shown) : Moment := x.created.moment

def In (t : Tables) (x : Shown) : Prop := x.reaction ∈ t.reactions ∧ x.author ∈ t.users

-- of equal instants the one with the smaller number leads
def Leads (x y : Shown) : Prop :=
  x.time.instant < y.time.instant ∨ x.time.instant = y.time.instant ∧ x.number ≤ y.number

theorem eq_of_pair {x y : Shown} (reaction : x.reaction = y.reaction)
    (author : x.author = y.author) : x = y := by
  obtain ⟨r, u, c, s, own, uuid, time⟩ := x
  obtain ⟨r', u', c', s', own', uuid', time'⟩ := y
  obtain rfl : r = r' := reaction
  obtain rfl : u = u' := author
  have comment : c = c' := by simpa [uuid] using uuid'
  have created : s = s' := by simpa [time] using time'
  subst comment created
  rfl

theorem leads_antisymm {x y : Shown} (first : x.Leads y) (second : y.Leads x) :
    x.time.instant = y.time.instant ∧ x.number = y.number := by
  unfold Leads at first second
  omega

end Shown

inductive Listing where
  | ofComment (comment : Uuid)
  | ofView (view : Uuid) (comment : Option Uuid)

namespace Listing

def Covers : Listing → StoredReaction → Prop
  | .ofComment comment, r => r.comment = comment.compact
  | .ofView view comment, r => r.view = view.compact ∧ ∀ c ∈ comment, r.comment = c.compact

def rows (l : Listing) (t : Tables) : Set Shown := {x | x.In t ∧ l.Covers x.reaction}

end Listing

/-- The rows on a topic, in ascending order of their numbers. -/
structure Part (R : Set Shown) (k : Topic) (rows : List Shown) : Prop where
  ascending : rows.Pairwise fun x y => x.number < y.number
  mem : ∀ x, x ∈ rows ↔ x ∈ R ∧ x.topic = k

structure Rolls (rows : List Shown) (g : Group Topic) : Prop where
  users : g.users = rows.map Shown.author
  first : ∃ x ∈ rows, g.first = x.time ∧ ∀ y ∈ rows, x.Leads y

def numbers (R : Set Shown) (k : Topic) : Set Nat := {n | ∃ x ∈ R, x.topic = k ∧ x.number = n}

def Precedes (R : Set Shown) (g h : Group Topic) : Prop :=
  g.first.instant < h.first.instant ∨
    g.first.instant = h.first.instant ∧
      ∃ m n, IsLeast (numbers R g.key) m ∧ IsLeast (numbers R h.key) n ∧ m < n

structure Lists (R : Set Shown) (groups : List (Group Topic)) : Prop where
  once : (groups.map Group.key).Nodup
  covers : ∀ k, k ∈ groups.map Group.key ↔ ∃ x ∈ R, x.topic = k
  rolled : ∀ g ∈ groups, ∃ rows, Part R g.key rows ∧ Rolls rows g
  sorted : groups.Pairwise (Precedes R)

variable {R R' : Set Shown} {k : Topic}

theorem nodup_numbers {rows : List Shown}
    (ascending : rows.Pairwise fun x y => x.number < y.number) :
    (rows.map Shown.number).Nodup :=
  List.pairwise_map.mpr (ascending.imp fun before => Nat.ne_of_lt before)

theorem Part.unique {rows rows' : List Shown} (part : Part R k rows) (part' : Part R k rows') :
    rows = rows' := by
  have perm : rows.Perm rows' :=
    (List.perm_ext_iff_of_nodup (nodup_numbers part.ascending).of_map
      (nodup_numbers part'.ascending).of_map).mpr fun x => (part.mem x).trans (part'.mem x).symm
  refine perm.eq_of_pairwise (fun x y _ _ before after => ?_) part.ascending part'.ascending
  exact absurd before (Nat.lt_asymm after)

theorem Part.congr {rows : List Shown} (part : Part R k rows)
    (same : ∀ x : Shown, x.topic = k → (x ∈ R ↔ x ∈ R')) : Part R' k rows where
  ascending := part.ascending
  mem x := by
    rw [part.mem, and_congr_left_iff]
    exact same x

theorem Rolls.unique {rows : List Shown} {g h : Group Topic} (left : Rolls rows g)
    (right : Rolls rows h) (ascending : rows.Pairwise fun x y => x.number < y.number)
    (same : g.key = h.key) : g = h := by
  obtain ⟨x, mem, first, leads⟩ := left.first
  obtain ⟨y, mem', first', leads'⟩ := right.first
  have number := (Shown.leads_antisymm (leads y mem') (leads' x mem)).2
  have equal : x = y := List.inj_on_of_nodup_map (nodup_numbers ascending) mem mem' number
  have times : g.first = h.first := by rw [first, first', equal]
  have users : g.users = h.users := by rw [left.users, right.users]
  cases g
  cases h
  simp_all

theorem Precedes.asymm {g h : Group Topic} (before : Precedes R g h) : ¬ Precedes R h g := by
  rcases before with first | ⟨level, m, n, least, least', less⟩
  · rintro (sooner | ⟨level, -⟩) <;> omega
  · rintro (sooner | ⟨-, i, j, leastH, leastG, less'⟩)
    · omega
    · have left := least.unique leastG
      have right := least'.unique leastH
      omega

theorem Precedes.congr {g h : Group Topic} (before : Precedes R g h)
    (left : numbers R g.key = numbers R' g.key) (right : numbers R h.key = numbers R' h.key) :
    Precedes R' g h := by
  rw [Precedes, left, right] at before
  exact before

theorem Lists.filter_eq {groups groups' : List (Group Topic)} (lists : Lists R groups)
    (lists' : Lists R' groups') (p : Topic → Bool)
    (same : ∀ x : Shown, p x.topic = true → (x ∈ R ↔ x ∈ R')) :
    groups.filter (fun g => p g.key) = groups'.filter fun g => p g.key := by
  have inside {R R' : Set Shown} {groups groups' : List (Group Topic)} (lists : Lists R groups)
      (lists' : Lists R' groups') (same : ∀ x : Shown, p x.topic = true → (x ∈ R ↔ x ∈ R'))
      {g : Group Topic} (mem : g ∈ groups) (shown : p g.key = true) : g ∈ groups' := by
    obtain ⟨x, there, topic⟩ := (lists.covers g.key).mp (List.mem_map_of_mem mem)
    have there' : x ∈ R' := (same x (topic ▸ shown)).mp there
    obtain ⟨h, mem', key⟩ := List.mem_map.mp ((lists'.covers g.key).mpr ⟨x, there', topic⟩)
    obtain ⟨rows, part, rolls⟩ := lists.rolled g mem
    obtain ⟨rows', part', rolls'⟩ := lists'.rolled h mem'
    rw [key] at part'
    obtain rfl := (part.congr fun x topic => same x (topic ▸ shown)).unique part'
    rwa [rolls.unique rolls' part.ascending key.symm]
  have perm : (groups.filter fun g => p g.key).Perm (groups'.filter fun g => p g.key) := by
    refine (List.perm_ext_iff_of_nodup (lists.once.of_map.filter _)
      (lists'.once.of_map.filter _)).mpr fun g => ?_
    rw [List.mem_filter, List.mem_filter]
    constructor
    · exact fun ⟨mem, shown⟩ => ⟨inside lists lists' same mem shown, shown⟩
    · exact fun ⟨mem, shown⟩ =>
        ⟨inside lists' lists (fun x shown => (same x shown).symm) mem shown, shown⟩
  have agree {k : Topic} (shown : p k = true) : numbers R k = numbers R' k := by
    ext n
    refine exists_congr fun x => ?_
    constructor
    · rintro ⟨mem, rfl, number⟩
      exact ⟨(same x shown).mp mem, rfl, number⟩
    · rintro ⟨mem, rfl, number⟩
      exact ⟨(same x shown).mpr mem, rfl, number⟩
  have sorted : (groups.filter fun g => p g.key).Pairwise (Precedes R') := by
    refine (lists.sorted.filter _).imp_of_mem fun {g h} mem mem' before => ?_
    exact before.congr (agree (List.mem_filter.mp mem).2) (agree (List.mem_filter.mp mem').2)
  refine perm.eq_of_pairwise (fun g h _ _ before after => ?_) sorted (lists'.sorted.filter _)
  exact absurd after before.asymm

theorem Lists.unique {groups groups' : List (Group Topic)} (lists : Lists R groups)
    (lists' : Lists R groups') : groups = groups' := by
  have same := lists.filter_eq lists' (fun _ => true) fun x _ => Iff.rfl
  simpa using same

end ReactionLedger
