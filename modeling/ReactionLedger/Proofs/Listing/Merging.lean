import ReactionLedger.Proofs.Listing.Restriction

set_option autoImplicit false

namespace ReactionLedger

section Shares

variable {R : Set Shown} {k : Topic} {rows rows' : List Shown} {g h : Group Topic}
variable {groups : List (Group Topic)} {p : Shown → Bool}

theorem Part.filter (part : Part R k rows) (p : Shown → Bool) :
    Part {x | x ∈ R ∧ p x = true} k (rows.filter p) where
  ascending := part.ascending.filter p
  mem x := by
    rw [List.mem_filter, part.mem]
    exact and_right_comm

theorem Part.rolls_filter (part : Part R k rows)
    (lists : Lists {x | x ∈ R ∧ p x = true} groups) (mem : h ∈ groups) (same : h.key = k) :
    Rolls (rows.filter p) h := by
  obtain ⟨own, ownPart, rolls⟩ := lists.rolled h mem
  rwa [(part.filter p).unique (same ▸ ownPart)]

theorem Rolls.instant_le (rolls : Rolls rows g) (rolls' : Rolls rows' h) (inside : rows' ⊆ rows) :
    g.first.instant ≤ h.first.instant := by
  obtain ⟨x, -, first, leads⟩ := rolls.first
  obtain ⟨y, mem, first', -⟩ := rolls'.first
  rw [first, first']
  rcases leads y (inside mem) with sooner | ⟨same, -⟩
  · exact sooner.le
  · exact same.le

theorem Rolls.exists_leader (rolls : Rolls rows g)
    (ascending : rows.Pairwise fun x y => x.number < y.number) :
    ∃ x ∈ rows, ∀ rows' h, rows' ⊆ rows → x ∈ rows' → Rolls rows' h → g.first = h.first := by
  obtain ⟨x, mem, first, leads⟩ := rolls.first
  refine ⟨x, mem, fun rows' h inside there rolls' => ?_⟩
  obtain ⟨y, mem', first', leads'⟩ := rolls'.first
  have number := (Shown.leads_antisymm (leads y (inside mem')) (leads' x there)).2
  obtain rfl : x = y := List.inj_on_of_nodup_map (nodup_numbers ascending) mem (inside mem') number
  rw [first, first']

theorem sum_length_filter {α ι : Type} [DecidableEq ι] (f : α → ι) (xs : List α) :
    ∑ i ∈ (xs.map f).toFinset, (xs.filter fun x => f x = i).length = xs.length := by
  have counts := Multiset.toFinset_sum_count_eq (↑(xs.map f) : Multiset ι)
  rw [Multiset.coe_card, List.length_map] at counts
  rw [← counts]
  refine Finset.sum_congr rfl fun i _ => ?_
  rw [Multiset.coe_count, List.count_eq_countP, List.countP_map, List.countP_eq_length_filter]
  exact congrArg List.length (List.filter_congr fun x _ => by simp [Bool.beq_eq_decide_eq])

end Shares

namespace Shown

def On (view : Uuid) (x : Shown) : Prop := x.reaction.view = view.compact

instance (view : Uuid) : DecidablePred (On view) := fun x => decEq x.reaction.view view.compact

end Shown

namespace Tables

structure Viewed (t : Tables) : Prop extends Typed t where
  views : ∀ r ∈ t.reactions, ∃ v : Uuid, r.view = v.compact

end Tables

namespace Listing

open Program (result)

def commented (s : SessionName) (w : World) (c : Uuid) : Except Failure (List TypeSummary) :=
  (result (World.perform s) w (Service.listComment (some c))).1

/-- How one summary of a comment is merged.  Its rows are all that the comment has of the label, in
ascending order.  `views` are the views that show the label on the comment, each in one summary. -/
structure Merged (t : Tables) (c : Uuid) (part : Uuid → List CommentSummary) (x : TypeSummary)
    (rows : List Shown) (views : Finset Uuid) (share : Uuid → CommentSummary) : Prop where
  listed : Part ((ofComment c).rows t) (c, x.label) rows
  shares : ∀ v y, y ∈ part v ∧ y.label = x.label ↔ v ∈ views ∧ y = share v
  users : x.users = rows.map Shown.author
  split : ∀ v ∈ views, (share v).users = (rows.filter (Shown.On v)).map Shown.author
  total : ∑ v ∈ views, (share v).users.length = x.users.length
  earliest : ∃ v ∈ views, x.first = (share v).first
  least : ∀ v ∈ views, x.first.instant ≤ (share v).first.instant

section Merge

variable {s : SessionName} {w : World} {t : Tables} {c v : Uuid}

theorem rows_ofView : (ofView v (some c)).rows t =
    {x | x ∈ (ofComment c).rows t ∧ decide (Shown.On v x) = true} := by
  ext x
  constructor
  · rintro ⟨inside, view, comment⟩
    exact ⟨⟨inside, comment c rfl⟩, decide_eq_true view⟩
  · rintro ⟨⟨inside, comment⟩, view⟩
    exact ⟨inside, of_decide_eq_true view, fun d same => Option.some.inj same ▸ comment⟩

theorem answer_ofComment : (ofComment c).answer s w =
    (commented s w c).map (List.map (TypeSummary.group c)) :=
  congrArg Prod.fst (Program.result_bind_pure _ _ _ _)

end Merge

section Parts

variable {t : Tables} {c : Uuid} {whole : List TypeSummary} {part : Uuid → List CommentSummary}
variable (lists : Lists ((ofComment c).rows t) (whole.map (TypeSummary.group c)))
variable (shares : ∀ v, Lists {x | x ∈ (ofComment c).rows t ∧ decide (Shown.On v x) = true}
  ((part v).map CommentSummary.group))

include shares in
theorem comment_of_share {v : Uuid} {y : CommentSummary} (mem : y ∈ part v) : y.comment = c := by
  obtain ⟨x, ⟨there, -⟩, topic⟩ :=
    ((shares v).covers y.group.key).mp (List.mem_map_of_mem (List.mem_map_of_mem mem))
  exact (congrArg Prod.fst topic).symm.trans (x.comment_of_stored there.2)

include shares in
theorem key_of_share {v : Uuid} {y : CommentSummary} (mem : y ∈ part v) :
    y.group.key = (c, y.label) := by
  rw [← comment_of_share shares mem]
  rfl

include lists in
theorem label_mem_iff (label : String) : label ∈ whole.map TypeSummary.label ↔
    ∃ x ∈ (ofComment c).rows t, x.reaction.label = label := by
  have keys : (c, label) ∈ (whole.map (TypeSummary.group c)).map Group.key ↔
      label ∈ whole.map TypeSummary.label := by
    simp [TypeSummary.group]
  rw [← keys, lists.covers]
  refine exists_congr fun x => and_congr_right fun there => ?_
  simp [Shown.topic, x.comment_of_stored there.2]

include shares in
theorem exists_share_iff (v : Uuid) (label : String) : (∃ y ∈ part v, y.label = label) ↔
    ∃ x ∈ (ofComment c).rows t, Shown.On v x ∧ x.reaction.label = label := by
  have keys : (c, label) ∈ ((part v).map CommentSummary.group).map Group.key ↔
      ∃ y ∈ part v, y.label = label := by
    rw [List.map_map, List.mem_map]
    refine exists_congr fun y => and_congr_right fun mem => ?_
    rw [Function.comp_apply, key_of_share shares mem, Prod.mk.injEq]
    exact and_iff_right rfl
  rw [← keys, (shares v).covers]
  constructor
  · rintro ⟨x, ⟨there, on⟩, topic⟩
    exact ⟨x, there, of_decide_eq_true on, congrArg Prod.snd topic⟩
  · rintro ⟨x, there, on, rfl⟩
    exact ⟨x, ⟨there, decide_eq_true on⟩, Prod.ext (x.comment_of_stored there.2) rfl⟩

theorem sum_shares {rows : List Shown} {place : Shown → Uuid} {share : Uuid → CommentSummary}
    (placed : ∀ r ∈ rows, ∀ v, Shown.On v r ↔ place r = v)
    (split : ∀ v ∈ (rows.map place).toFinset,
      (share v).users = (rows.filter (Shown.On v)).map Shown.author) :
    ∑ v ∈ (rows.map place).toFinset, (share v).users.length = rows.length := by
  rw [← sum_length_filter place rows]
  refine Finset.sum_congr rfl fun v there => ?_
  rw [split v there, List.length_map]
  exact congrArg List.length
    (List.filter_congr fun r member => decide_eq_decide.mpr (placed r member v))

include lists shares in
theorem exists_merged (views : ∀ r ∈ t.reactions, ∃ v : Uuid, r.view = v.compact)
    {x : TypeSummary} (mem : x ∈ whole) :
    ∃ rows views share, Merged t c part x rows views share := by
  obtain ⟨rows, listed, rolls⟩ := lists.rolled (x.group c) (List.mem_map_of_mem mem)
  have placed : ∀ r ∈ rows, ∃ v, Shown.On v r :=
    fun r there => views r.reaction ((listed.mem r).mp there).1.1.1
  have : Nonempty Uuid := ⟨c⟩
  choose! place own using placed
  have on_iff {r : Shown} (there : r ∈ rows) (v : Uuid) : Shown.On v r ↔ place r = v := by
    rw [Shown.On, own r there, Uuid.compact_inj]
  have shown : ∀ v ∈ (rows.map place).toFinset, ∃ y ∈ part v, y.label = x.label := by
    intro v inside
    obtain ⟨r, there, rfl⟩ := List.mem_map.mp (List.mem_toFinset.mp inside)
    obtain ⟨covered, topic⟩ := (listed.mem r).mp there
    exact (exists_share_iff shares _ _).mpr ⟨r, covered, own r there, congrArg Prod.snd topic⟩
  have : Nonempty CommentSummary := ⟨x, c⟩
  choose! share inside label using shown
  have rolled {v : Uuid} {y : CommentSummary} (mem : y ∈ part v) (same : y.label = x.label) :
      Rolls (rows.filter (Shown.On v)) y.group :=
    listed.rolls_filter (shares v) (List.mem_map_of_mem mem)
      (by rw [key_of_share shares mem, same]; rfl)
  have each {v : Uuid} (there : v ∈ (rows.map place).toFinset) :
      Rolls (rows.filter (Shown.On v)) (share v).group := rolled (inside v there) (label v there)
  refine ⟨rows, (rows.map place).toFinset, share, listed, fun v y => ?_, rolls.users,
    fun v there => (each there).users, ?_, ?_, fun v there => ?_⟩
  · constructor
    · rintro ⟨there, same⟩
      obtain ⟨r, covered, on, labelled⟩ := (exists_share_iff shares v _).mp ⟨y, there, same⟩
      have member : r ∈ rows :=
        (listed.mem r).mpr ⟨covered, Prod.ext (r.comment_of_stored covered.2) labelled⟩
      have among : v ∈ (rows.map place).toFinset :=
        List.mem_toFinset.mpr ((on_iff member v).mp on ▸ List.mem_map_of_mem member)
      refine ⟨among, CommentSummary.group_injective ?_⟩
      refine (rolled there same).unique (each among) (listed.ascending.filter _) ?_
      rw [key_of_share shares there, key_of_share shares (inside v among), same, label v among]
    · rintro ⟨there, rfl⟩
      exact ⟨inside v there, label v there⟩
  · have users : x.users = rows.map Shown.author := rolls.users
    rw [sum_shares (fun r there => on_iff there) fun v there => (each there).users, users,
      List.length_map]
  · obtain ⟨r, member, leads⟩ := rolls.exists_leader listed.ascending
    have among : place r ∈ (rows.map place).toFinset :=
      List.mem_toFinset.mpr (List.mem_map_of_mem member)
    have own : r ∈ rows.filter (Shown.On (place r)) := by simp [member, own r member]
    exact ⟨place r, among, leads _ _ List.filter_sublist.subset own (each among)⟩
  · have below := rolls.instant_le (each there) List.filter_sublist.subset
    rwa [TypeSummary.group_first, CommentSummary.group_first] at below

include lists shares in
theorem types_of_one_view {v : Uuid} (alone : ∀ x ∈ (ofComment c).rows t, Shown.On v x) :
    whole = (part v).map CommentSummary.toTypeSummary := by
  have same : {x | x ∈ (ofComment c).rows t ∧ decide (Shown.On v x) = true} =
      (ofComment c).rows t := by
    ext x
    exact and_iff_left_of_imp fun there => decide_eq_true (alone x there)
  have groups := lists.unique (same ▸ shares v)
  have restored := congrArg (List.map fun g : Group Topic =>
    (⟨g.key.2, g.first, g.users⟩ : TypeSummary)) groups
  rw [List.map_map, List.map_map] at restored
  exact (List.map_id _).symm.trans restored

end Parts

section Answers

variable {s : SessionName} {w : World} {t : Tables}

theorem exists_commented (seen : w.view s = some t) (sound : w.failed s = none) (typed : t.Typed)
    (c : Uuid) : ∃ whole, commented s w c = .ok whole ∧
      Lists ((ofComment c).rows t) (whole.map (TypeSummary.group c)) := by
  obtain ⟨groups, answered, lists⟩ := answer_of_typed seen sound typed (ofComment c)
  rw [answer_ofComment] at answered
  obtain ⟨whole, shown, rfl⟩ := map_eq_ok_iff.mp answered
  exact ⟨whole, shown, lists⟩

theorem exists_viewed (seen : w.view s = some t) (sound : w.failed s = none) (typed : t.Typed)
    (v : Uuid) (comment : Option Uuid) : ∃ part, viewed s w v comment = .ok part ∧
      Lists ((ofView v comment).rows t) (part.map CommentSummary.group) := by
  obtain ⟨groups, answered, lists⟩ := answer_of_typed seen sound typed (ofView v comment)
  rw [answer_ofView] at answered
  obtain ⟨part, shown, rfl⟩ := map_eq_ok_iff.mp answered
  exact ⟨part, shown, lists⟩

/-- A session that sees well-typed tables is shown of a comment what it is shown of it by the
views, merged; and just that when all of it is on one view. -/
theorem comment_listing_merges_views (seen : w.view s = some t) (sound : w.failed s = none)
    (typed : t.Viewed) (c : Uuid) :
    ∃ whole part, commented s w c = .ok whole ∧ (∀ v, viewed s w v (some c) = .ok (part v)) ∧
      (∀ label, label ∈ whole.map TypeSummary.label ↔
        ∃ v, ∃ y ∈ part v, y.comment = c ∧ y.label = label) ∧
      (∀ x ∈ whole, ∃ rows views share, Merged t c part x rows views share) ∧
      ∀ v, (∀ r, t.Joins (ofComment c) r → r.view = v.compact) →
        whole = (part v).map CommentSummary.toTypeSummary := by
  obtain ⟨whole, answered, lists⟩ := exists_commented seen sound typed.toTyped c
  choose part shown listed using fun v => exists_viewed seen sound typed.toTyped v (some c)
  have shares (v : Uuid) := rows_ofView (t := t) (c := c) (v := v) ▸ listed v
  refine ⟨whole, part, answered, shown, fun label => ?_, fun x mem => ?_, fun v alone => ?_⟩
  · rw [label_mem_iff lists]
    constructor
    · rintro ⟨x, there, rfl⟩
      obtain ⟨v, on⟩ := typed.views x.reaction there.1.1
      obtain ⟨y, mem, label⟩ := (exists_share_iff shares v _).mpr ⟨x, there, on, rfl⟩
      exact ⟨v, y, mem, comment_of_share shares mem, label⟩
    · rintro ⟨v, y, mem, -, label⟩
      obtain ⟨x, there, -, labelled⟩ := (exists_share_iff shares v _).mp ⟨y, mem, label⟩
      exact ⟨x, there, labelled⟩
  · exact exists_merged lists shares typed.views mem
  · refine types_of_one_view lists shares fun x there => ?_
    exact alone x.reaction ⟨there.1.1, there.2, x.author, there.1.2, x.own⟩

end Answers

namespace Twofold

def comment : Uuid := .ofNat 2

def reaction (id view : Nat) (label author time : String) : StoredReaction :=
  ⟨id, (Uuid.ofNat view).compact, comment.compact, label, author, .text time⟩

def tables : Tables where
  reactions := [reaction 1 11 "love" "ann" "2024-05-01 13:00:00",
    reaction 2 12 "love" "ben" "2024-05-01 12:00:00",
    reaction 3 11 "like" "ben" "2024-05-01 12:30:00",
    reaction 4 11 "love" "ben" "2024-05-01 14:00:00"]
  users := [⟨"ann", "Ann"⟩, ⟨"ben", "Ben"⟩]

def world : World := { World.initial with committed := some tables }

theorem viewed_tables : tables.Viewed where
  numbers := by decide
  ids := by decide
  legible := by decide +kernel
  views := by
    have either : ∀ r ∈ tables.reactions,
        r.view = (Uuid.ofNat 11).compact ∨ r.view = (Uuid.ofNat 12).compact := by decide
    exact fun r mem => (either r mem).elim (⟨_, ·⟩) (⟨_, ·⟩)

def outline (x : TypeSummary) : String × List String := (x.label, x.users.map User.id)

theorem listing_of_two_views : ∃ whole part, commented (.named "main") world comment = .ok whole ∧
    (∀ v, viewed (.named "main") world v (some comment) = .ok (part v)) ∧
    whole.map outline = [("love", ["ann", "ben", "ben"]), ("like", ["ben"])] ∧
    ∀ x ∈ whole, ∃ rows views share, Merged tables comment part x rows views share := by
  obtain ⟨whole, part, answered, shown, -, merged, -⟩ := comment_listing_merges_views
    (s := .named "main") (w := world) rfl rfl viewed_tables comment
  have outlined : (commented (.named "main") world comment).toOption.map (List.map outline) =
      some [("love", ["ann", "ben", "ben"]), ("like", ["ben"])] := by cbv
  rw [answered] at outlined
  exact ⟨whole, part, answered, shown, Option.some.inj outlined, merged⟩

end Twofold

end Listing

end ReactionLedger
