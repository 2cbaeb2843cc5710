import ReactionLedger.Proofs.Concurrency.Sound
import ReactionLedger.Proofs.Listing.Merging
import ReactionLedger.Proofs.Listing.Writes
import ReactionLedger.Proofs.Service.Unhindered

set_option autoImplicit false

namespace ReactionLedger

open Program (result)
open Service (addReaction removeReaction)

namespace Tables.Kept

variable {t : Tables} (kept : t.Kept)
include kept

theorem viewed : t.Viewed where
  toKeyed := kept.toOrdered.keyed
  legible r mem := StoredReaction.legible_of_readable (kept.readable r mem)
  views r mem := by
    obtain ⟨k, has⟩ := kept.keyed r mem
    obtain ⟨v, -, same⟩ := Option.map_eq_some_iff.mp ((StoredReaction.hasKey_iff _ _).mp has).1
    exact ⟨v, same.symm⟩

theorem exists_shown {r : StoredReaction} {u : User} (mem : r ∈ t.reactions)
    (own : u.id = r.author) : ∃ x : Shown, x.reaction = r ∧ x.author = u := by
  obtain ⟨comment, created, uuid, time⟩ := kept.viewed.legible r mem
  exact ⟨⟨r, u, comment, created, own, uuid, time⟩, rfl, rfl⟩

theorem hasKey_of_shown {x : Shown} (mem : x.In t) : ∃ v : Uuid,
    x.reaction.hasKey ⟨some v, some x.comment, x.reaction.label, some x.author.id⟩ = true := by
  obtain ⟨k, has⟩ := kept.keyed x.reaction mem.1
  obtain ⟨v, c, label, user, rfl⟩ := StoredReaction.full_of_hasKey has
  obtain ⟨-, comment, sameLabel, sameUser⟩ := (StoredReaction.hasKey_iff _ _).mp has
  have stored : x.reaction.comment = c.compact := (Option.some.inj comment).symm
  refine ⟨v, ?_⟩
  rwa [x.comment_of_stored stored, sameLabel, x.own, ← Option.some.inj sameUser]

end Tables.Kept

theorem Shown.eq_of_hasKey {t : Tables} (kept : t.Kept) {x y : Shown} {k : Key} (mem : x.In t)
    (mem' : y.In t) (has : x.reaction.hasKey k = true) (has' : y.reaction.hasKey k = true) :
    x = y := by
  have same : x.reaction = y.reaction :=
    List.inj_on_of_nodup_map kept.unique mem.1 mem'.1 (StoredReaction.key_eq has has')
  have own : x.author.id = y.author.id := by rw [x.own, y.own, same]
  exact eq_of_pair same (List.inj_on_of_nodup_map kept.ids mem.2 mem'.2 own)

theorem Tables.knows_iff (t : Tables) (user : String) :
    t.knows (some user) = true ↔ ∃ u ∈ t.users, u.id = user := by
  simp only [knows, List.any_eq_true, beq_iff_eq, Option.some.injEq]
  exact exists_congr fun u => and_congr_right fun _ => eq_comm

namespace Listing

def reactors (k : Topic) (groups : List (Group Topic)) : List String :=
  ((groups.find? fun g => g.key = k).map fun g => g.users.map User.id).getD []

section Shares

variable {R : Set Shown} {t : Tables} {l : Listing} {groups : List (Group Topic)} {k : Topic}
variable {c : Uuid} {label user : String}

theorem reactors_eq (lists : Lists R groups) (k : Topic) :
    ∃ rows, Part R k rows ∧ reactors k groups = rows.map fun x => x.author.id := by
  cases found : groups.find? fun g => g.key = k with
  | none =>
    have absent : k ∉ groups.map Group.key := by
      rintro there
      obtain ⟨g, mem, key⟩ := List.mem_map.mp there
      exact List.find?_eq_none.mp found g mem (decide_eq_true key)
    refine ⟨[], lists.part_nil absent, ?_⟩
    rw [reactors, found]
    rfl
  | some g =>
    obtain rfl : g.key = k := by simpa using List.find?_some found
    obtain ⟨rows, part, rolls⟩ := lists.rolled g (List.mem_of_find?_eq_some found)
    have users : g.users = rows.map Shown.author := rolls.users
    refine ⟨rows, part, ?_⟩
    rw [reactors, found, Option.map_some, Option.getD_some, users, List.map_map]
    rfl

theorem knows_of_reactor (lists : Lists (l.rows t) groups) (mem : user ∈ reactors k groups) :
    t.knows (some user) = true := by
  obtain ⟨rows, part, users⟩ := reactors_eq lists k
  obtain ⟨x, there, rfl⟩ := List.mem_map.mp (users ▸ mem)
  exact (t.knows_iff _).mpr ⟨x.author, ((part.mem x).mp there).1.1.2, rfl⟩

section Keys

variable {rows : List Shown} {v : Uuid} (kept : t.Kept) (part : Part (l.rows t) (c, label) rows)
include kept part

theorem hasKey_of_row {x : Shown} (mem : x ∈ rows) :
    ∃ v : Uuid, x.reaction.hasKey ⟨some v, some c, label, some x.author.id⟩ = true := by
  obtain ⟨shown, topic⟩ := (part.mem x).mp mem
  obtain ⟨v, has⟩ := kept.hasKey_of_shown shown.1
  obtain ⟨rfl, rfl⟩ := Prod.mk.inj topic
  exact ⟨v, has⟩

theorem row_of_hasKey (known : t.knows (some user) = true) (concerned : l.Concerns v c)
    (held : t.Holds ⟨some v, some c, label, some user⟩) : ∃ x ∈ rows, x.author.id = user ∧
      x.reaction.hasKey ⟨some v, some c, label, some user⟩ = true := by
  obtain ⟨r, stored, has⟩ := held
  obtain ⟨u, there, same⟩ := (t.knows_iff user).mp known
  obtain ⟨-, sameComment, sameLabel, sameUser⟩ := (StoredReaction.hasKey_iff _ _).mp has
  obtain ⟨x, rfl, rfl⟩ := kept.exists_shown stored (same.trans (Option.some.inj sameUser))
  have comment : x.comment = c := x.comment_of_stored (Option.some.inj sameComment).symm
  have covered : l.Covers x.reaction := (covers_iff has l).mpr concerned
  exact ⟨x, (part.mem x).mpr ⟨⟨⟨stored, there⟩, covered⟩, Prod.ext comment sameLabel⟩, same, has⟩

end Keys

theorem count_reactors (kept : t.Kept) (lists : Lists (l.rows t) groups)
    (known : t.knows (some user) = true) (c : Uuid) (label : String) :
    ∃ views : Finset Uuid,
      (∀ v, v ∈ views ↔ l.Concerns v c ∧ t.Holds ⟨some v, some c, label, some user⟩) ∧
        (reactors (c, label) groups).count user = views.card := by
  obtain ⟨rows, part, users⟩ := reactors_eq lists (c, label)
  set own := rows.filter fun x => x.author.id = user
  have shown : ∀ x ∈ own, x ∈ l.rows t :=
    fun x mem => ((part.mem x).mp (List.mem_of_mem_filter mem)).1
  have keyed : ∀ x ∈ own, ∃ v : Uuid,
      x.reaction.hasKey ⟨some v, some c, label, some user⟩ = true := by
    intro x mem
    obtain ⟨there, same⟩ := List.mem_filter.mp mem
    exact of_decide_eq_true same ▸ hasKey_of_row kept part there
  have : Nonempty Uuid := ⟨c⟩
  choose! place has using keyed
  have distinct : (own.map place).Nodup := by
    refine List.Nodup.map_on (fun x mem y mem' same => ?_) ?_
    · exact Shown.eq_of_hasKey kept (shown x mem).1 (shown y mem').1 (has x mem)
        (same ▸ has y mem')
    · exact (nodup_numbers part.ascending).of_map.filter _
  refine ⟨(own.map place).toFinset, fun v => ?_, ?_⟩
  · rw [List.mem_toFinset, List.mem_map]
    constructor
    · rintro ⟨x, mem, rfl⟩
      exact ⟨(covers_iff (has x mem) l).mp (shown x mem).2, x.reaction, (shown x mem).1.1,
        has x mem⟩
    · rintro ⟨concerned, held⟩
      obtain ⟨x, there, same, hasKey⟩ := row_of_hasKey kept part known concerned held
      have mem : x ∈ own := List.mem_filter.mpr ⟨there, decide_eq_true same⟩
      have keys := StoredReaction.key_unique (has x mem) hasKey
      exact ⟨x, mem, by simpa using keys⟩
  · rw [List.toFinset_card_of_nodup distinct, List.length_map, users, List.count_eq_countP,
      List.countP_map, List.countP_eq_length_filter]
    exact congrArg List.length (List.filter_congr fun x _ => by simp [Bool.beq_eq_decide_eq])

theorem reactors_of_view {v : Uuid} (kept : t.Kept) (lists : Lists ((ofView v none).rows t) groups)
    (c : Uuid) (label : String) :
    (reactors (c, label) groups).Nodup ∧ ∀ user, user ∈ reactors (c, label) groups ↔
      t.knows (some user) = true ∧ t.Holds ⟨some v, some c, label, some user⟩ := by
  have concerned (v' : Uuid) : (ofView v none).Concerns v' c ↔ v = v' := by simp [Concerns]
  constructor
  · rw [List.nodup_iff_count_le_one]
    intro user
    by_cases shown : user ∈ reactors (c, label) groups
    · obtain ⟨views, among, count⟩ :=
        count_reactors kept lists (knows_of_reactor lists shown) c label
      rw [count, Finset.card_le_one]
      intro v₁ mem₁ v₂ mem₂
      rw [← (concerned v₁).mp ((among v₁).mp mem₁).1, (concerned v₂).mp ((among v₂).mp mem₂).1]
    · rw [List.count_eq_zero.mpr shown]
      exact Nat.zero_le 1
  · intro user
    have present (known : t.knows (some user) = true) : user ∈ reactors (c, label) groups ↔
        t.Holds ⟨some v, some c, label, some user⟩ := by
      obtain ⟨views, among, count⟩ := count_reactors kept lists known c label
      rw [← List.count_pos_iff, count, Finset.card_pos]
      constructor
      · rintro ⟨v', mem⟩
        obtain ⟨concerns, held⟩ := (among v').mp mem
        rwa [(concerned v').mp concerns]
      · exact fun held => ⟨v, (among v).mpr ⟨(concerned v).mpr rfl, held⟩⟩
    constructor
    · intro shown
      have known := knows_of_reactor lists shown
      exact ⟨known, (present known).mp shown⟩
    · rintro ⟨known, held⟩
      exact (present known).mpr held

end Shares

section Sealed

attribute [local irreducible] addReaction removeReaction

def removed (s : SessionName) (w : World) (v c : Uuid) (label user : String) :
    Except Failure Bool :=
  (result (World.perform s) w (removeReaction (some v) (some c) label (some user))).1

def added (s : SessionName) (w : World) (v c : Uuid) (label user : String) :
    Except Failure Reaction × World :=
  result (World.perform s) w (addReaction (some v) (some c) label (some user))

def Finds (s : SessionName) (w : World) (t : Tables) (v c : Uuid) (label user : String) : Prop :=
  ∃ row ∈ t.reactions, row.hasKey ⟨some v, some c, label, some user⟩ = true ∧
    ∃ reaction, row.load = .ok reaction ∧ added s w v c label user = (.ok reaction, w)

def Inserts (s : SessionName) (w : World) (t : Tables) (v c : Uuid) (label user : String) : Prop :=
  ∃ row reaction w', row.hasKey ⟨some v, some c, label, some user⟩ = true ∧
    row.load = .ok reaction ∧ added s w v c label user = (.ok reaction, w') ∧
      w'.view s = some { t with reactions := t.reactions ++ [row] }

/-- What a session reads on a topic and what its writes on the topic would do, with the directory
that it sees. -/
structure Agreement (s : SessionName) (w : World) (t : Tables) (c : Uuid) (label : String) :
    Prop where
  answers : ∀ v user, removed s w v c label user = .ok true ∨ removed s w v c label user = .ok false
  view : ∀ v, ∃ groups, (ofView v none).answer s w = .ok groups ∧
    (groups.map Group.key).Nodup ∧ (reactors (c, label) groups).Nodup ∧
    ∀ user, user ∈ reactors (c, label) groups ↔
      t.knows (some user) = true ∧ removed s w v c label user = .ok true
  comment : ∃ groups, (ofComment c).answer s w = .ok groups ∧ (groups.map Group.key).Nodup ∧
    ∀ user, (user ∈ reactors (c, label) groups → t.knows (some user) = true) ∧
      (t.knows (some user) = true → ∃ views : Finset Uuid,
        (∀ v, v ∈ views ↔ removed s w v c label user = .ok true) ∧
          (reactors (c, label) groups).count user = views.card)
  addition : label ≠ "" → label.length ≤ Label.maxLength → ∀ v user, t.knows (some user) = true →
    (removed s w v c label user = .ok true ↔ Finds s w t v c label user) ∧
      (removed s w v c label user = .ok false → Inserts s w t v c label user)

section Writes

variable {s : SessionName} {w : World} {t : Tables} {v c : Uuid} {label user : String}

theorem removed_eq (free : w.Unhindered s t) (trimmed : Text.trim label = label) (v c : Uuid)
    (user : String) : removed s w v c label user =
      .ok (decide (t.Holds ⟨some v, some c, label, some user⟩)) := by
  rw [removed, free.removal, trimmed]

theorem removed_iff (free : w.Unhindered s t) (trimmed : Text.trim label = label) (v c : Uuid)
    (user : String) : removed s w v c label user = .ok true ↔
      t.Holds ⟨some v, some c, label, some user⟩ := by
  rw [removed_eq free trimmed, Except.ok.injEq, decide_eq_true_eq]

section Known

variable (free : w.Unhindered s t) (kept : t.Kept) (known : t.knows (some user) = true)
variable (accepted : Label.normalize label = .ok label)
include free kept known accepted

theorem finds_of_held (held : t.Holds ⟨some v, some c, label, some user⟩) :
    Finds s w t v c label user := by
  obtain ⟨row, mem, has⟩ := held
  obtain ⟨reaction, load⟩ := kept.readable row mem
  exact ⟨row, mem, has, reaction, load,
    free.addition_of_held accepted kept.unique known mem has load⟩

theorem inserts_of_absent (timely : w.OnTime)
    (absent : ¬ t.Holds ⟨some v, some c, label, some user⟩) : Inserts s w t v c label user := by
  obtain ⟨now, stamp, shown, shows⟩ := timely
  set row := t.newRow v c label user now
  have time : StoredReaction.readTime row.created = .ok (.stamp stamp) := by
    simp [row, Tables.newRow, StoredReaction.readTime, shows.read]
  have has := t.newRow_hasKey v c label user now
  have load := StoredReaction.load_of_hasKey has time
  exact ⟨row, _, _, has, load,
    free.addition_of_absent accepted kept.unique known shown shows absent load,
    World.view_of_writer rfl⟩

end Known

theorem not_inserts_of_finds (seen : w.view s = some t) (finds : Finds s w t v c label user) :
    ¬ Inserts s w t v c label user := by
  obtain ⟨-, -, -, reaction, -, found⟩ := finds
  rintro ⟨row, reaction', w', -, -, stored, grown⟩
  obtain ⟨-, rfl⟩ := Prod.mk.inj (found.symm.trans stored)
  have lengths := congrArg (fun t : Tables => t.reactions.length)
    (Option.some.inj (seen.symm.trans grown))
  simp at lengths

end Writes

variable {s : SessionName} {w : World} {t : Tables}

theorem agreement (free : w.Unhindered s t) (kept : t.Kept) (timely : w.OnTime) (c : Uuid)
    {label : String} (trimmed : Text.trim label = label) : Agreement s w t c label := by
  have answered := answer_of_typed free.seen free.sound kept.viewed.toTyped
  have held (v : Uuid) (user : String) := removed_iff free trimmed v c user
  refine ⟨fun v user => ?_, fun v => ?_, ?_, fun full short v user known => ?_⟩
  · rw [removed_eq free trimmed]
    cases decide (t.Holds ⟨some v, some c, label, some user⟩) with
    | true => exact .inl rfl
    | false => exact .inr rfl
  · obtain ⟨groups, shown, lists⟩ := answered (ofView v none)
    obtain ⟨distinct, present⟩ := reactors_of_view kept lists c label
    refine ⟨groups, shown, lists.once, distinct, fun user => ?_⟩
    rw [held]
    exact present user
  · obtain ⟨groups, shown, lists⟩ := answered (ofComment c)
    refine ⟨groups, shown, lists.once, fun user => ⟨knows_of_reactor lists, fun known => ?_⟩⟩
    obtain ⟨views, among, count⟩ := count_reactors kept lists known c label
    refine ⟨views, fun v => ?_, count⟩
    rw [among, held]
    exact and_iff_right rfl
  · have accepted : Label.normalize label = .ok label :=
      (Label.normalize_eq_ok_iff label label).mpr ⟨trimmed.symm, by simpa using full, short⟩
    rw [removed_eq free trimmed, Except.ok.injEq, Except.ok.injEq, decide_eq_true_eq,
      decide_eq_false_iff_not]
    have inserts (absent : ¬ t.Holds ⟨some v, some c, label, some user⟩) :=
      inserts_of_absent free kept known accepted timely absent
    refine ⟨⟨finds_of_held free kept known accepted, fun finds => ?_⟩, inserts⟩
    by_contra absent
    exact not_inserts_of_finds free.seen finds (inserts absent)

/-- The listings show just the users whose removals would find a row, and additions store a row just
where a removal would find none. -/
theorem reads_agree_with_writes {events : List Event} (orderly : ∀ e ∈ events, e.Orderly)
    {s : SessionName} (free : (System.initial.after events).threads s = none)
    (turn : (System.initial.after events).world.mayWrite s = true) :
    let w := (System.initial.after events).world
    ∃ t, w.view s = some t ∧
      ∀ c label, Text.trim label = label → Agreement s w t c label := by
  intro w
  obtain ⟨t, seen⟩ := (System.inPlace_after orderly).exists_view s
  have quiet := (System.quiet_after s events).free free
  have unhindered : w.Unhindered s t := ⟨seen, quiet, System.sound_after orderly free, turn⟩
  exact ⟨t, seen, fun c label trimmed => agreement unhindered
    ((System.kept_after orderly).view seen) (System.onTime_after orderly) c trimmed⟩

theorem ok_of_toOption {α : Type} {x : Except Failure α} {a : α} (read : x.toOption = some a) :
    x = .ok a := by
  cases x with
  | error e => cases read
  | ok b => exact congrArg Except.ok (Option.some.inj read)

namespace Departed

def view : Uuid := .ofNat 1

def other : Uuid := .ofNat 3

def comment : Uuid := .ofNat 2

def main : SessionName := .named "main"

def history : List Event :=
  [.directory main (.enroll ⟨"ann", "Ann"⟩),
    .start main (.add (some view) (some comment) "love" (some "ann")), .proceed main,
    .proceed main, .proceed main, .proceed main, .proceed main, .settle main .commit]

theorem idle_history : (System.initial.after history).threads main = none := by
  have idle : ((System.initial.after history).threads main).isNone = true := by decide +kernel
  exact Option.isNone_iff_eq_none.mp idle

theorem agreement_on_love :
    let w := (System.initial.after history).world
    ∃ t, w.view main = some t ∧ Agreement main w t comment "love" ∧
      Finds main w t view comment "love" "ann" ∧ Inserts main w t other comment "love" "ann" ∧
      ∃ groups, (ofView view none).answer main w = .ok groups ∧
        "ann" ∈ reactors (comment, "love") groups := by
  intro w
  have trimmed : Text.trim "love" = "love" := by decide +kernel
  have enrolled : (w.view main).any (fun t => t.knows (some "ann")) = true := by decide +kernel
  have stored : removed main w view comment "love" "ann" = .ok true :=
    ok_of_toOption (by decide +kernel)
  have missing : removed main w other comment "love" "ann" = .ok false :=
    ok_of_toOption (by decide +kernel)
  have orderly : ∀ e ∈ history, e.Orderly := by simp [history, Event.Orderly]
  obtain ⟨t, seen, agrees⟩ := reads_agree_with_writes orderly idle_history (by decide +kernel)
  have agreement := agrees comment "love" trimmed
  have known : t.knows (some "ann") = true := by
    rwa [show w.view main = some t from seen] at enrolled
  have additions (v : Uuid) := agreement.addition (by decide) (by decide) v "ann" known
  obtain ⟨groups, answered, -, -, listed⟩ := agreement.view view
  exact ⟨t, seen, agreement, (additions view).1.mp stored, (additions other).2 missing, groups,
    answered, (listed "ann").mpr ⟨known, stored⟩⟩

theorem row_of_departed_user_is_not_listed :
    let σ := System.initial.after (history ++ [.directory main (.dismiss "ann")])
    σ.threads main = none ∧ σ.world.mayWrite main = true ∧
      ∃ groups, (ofComment comment).answer main σ.world = .ok groups ∧
        ¬ ∃ views : Finset Uuid,
          (∀ v, v ∈ views ↔ removed main σ.world v comment "love" "ann" = .ok true) ∧
            (reactors (comment, "love") groups).count "ann" = views.card := by
  intro σ
  have idle : (σ.threads main).isNone = true := by decide +kernel
  have removes : removed main σ.world view comment "love" "ann" = .ok true :=
    ok_of_toOption (by decide +kernel)
  have empty : ((ofComment comment).answer main σ.world).toOption.map List.length = some 0 := by
    decide +kernel
  obtain ⟨groups, shown, none⟩ := Option.map_eq_some_iff.mp empty
  obtain rfl := List.length_eq_zero_iff.mp none
  refine ⟨Option.isNone_iff_eq_none.mp idle, by decide +kernel, [], ok_of_toOption shown, ?_⟩
  rintro ⟨views, among, count⟩
  have nowhere : views = ∅ := Finset.card_eq_zero.mp count.symm
  have inside : view ∈ views := (among view).mpr removes
  simp [nowhere] at inside

end Departed

end Sealed

end Listing

end ReactionLedger
