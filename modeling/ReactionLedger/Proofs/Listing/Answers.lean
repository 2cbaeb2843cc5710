import ReactionLedger.Proofs.Listing.Computation
import ReactionLedger.Proofs.Row
import ReactionLedger.Proofs.Store.Tables

set_option autoImplicit false

namespace ReactionLedger

namespace StoredReaction

def Legible (r : StoredReaction) : Prop :=
  ∃ comment created, readUuid r.comment = .ok (.uuid comment) ∧
    readTime r.created = .ok (.stamp created)

theorem legible_iff (r : StoredReaction) :
    r.Legible ↔ (readUuid r.comment).isOk = true ∧ (readTime r.created).isOk = true := by
  constructor
  · rintro ⟨comment, created, uuid, time⟩
    simp [uuid, time, Except.isOk, Except.toBool]
  · rintro ⟨uuid, time⟩
    obtain ⟨comment, read⟩ | ⟨e, failed⟩ := readUuid_cases r.comment
    · obtain ⟨created, read'⟩ | ⟨e, failed⟩ := readTime_cases r.created
      · exact ⟨comment, created, read, read'⟩
      · simp [failed, Except.isOk, Except.toBool] at time
    · simp [failed, Except.isOk, Except.toBool] at uuid

instance (r : StoredReaction) : Decidable r.Legible := decidable_of_iff _ r.legible_iff.symm

theorem legible_of_readable {r : StoredReaction} (readable : r.Readable) : r.Legible := by
  obtain ⟨reaction, load⟩ := readable
  rw [legible_iff]
  cases view : readUuid r.view <;> cases comment : readUuid r.comment <;>
    cases created : readTime r.created <;>
    simp_all [StoredReaction.load, bind, Except.bind, Except.isOk, Except.toBool]

end StoredReaction

theorem Shown.comment_of_stored (x : Shown) {c : Uuid} (stored : x.reaction.comment = c.compact) :
    x.comment = c := by
  have read := x.reads_comment
  rw [stored, StoredReaction.readUuid, Uuid.readLenient_compact] at read
  simpa [eq_comm] using read

def Shown.pair (x : Shown) : StoredReaction × User := (x.reaction, x.author)

section Join

variable {ps : List (StoredReaction × User)}

theorem mapM_joined_shown (xs : List Shown) :
    (xs.map Shown.pair).mapM (fun p => p.1.joined p.2) =
      .ok (xs.map fun x => x.reading.values) := by
  rw [List.mapM_map]
  have each : ((fun p : StoredReaction × User => p.1.joined p.2) ∘ Shown.pair) =
      fun x : Shown => .ok x.reading.values :=
    funext fun x => StoredReaction.joined_of_reads x.reads_comment x.reads_created x.author
  rw [each]
  exact List.mapM_pure

theorem exists_shown (own : ∀ p ∈ ps, p.2.id = p.1.author) (legible : ∀ p ∈ ps, p.1.Legible) :
    ∃ xs : List Shown, xs.map Shown.pair = ps := by
  induction ps with
  | nil => exact ⟨[], rfl⟩
  | cons p ps ih =>
    obtain ⟨xs, rfl⟩ := ih (fun q mem => own q (List.mem_cons_of_mem _ mem))
      fun q mem => legible q (List.mem_cons_of_mem _ mem)
    obtain ⟨comment, created, uuid, time⟩ := legible p List.mem_cons_self
    exact ⟨⟨p.1, p.2, comment, created, own p List.mem_cons_self, uuid, time⟩ :: xs, rfl⟩

theorem legible_of_mapM_joined {values : List (List Value)}
    (read : ps.mapM (fun p => p.1.joined p.2) = .ok values) : ∀ p ∈ ps, p.1.Legible := by
  intro p mem
  obtain ⟨columns, -, joined⟩ := exists_of_mem_mapM read mem
  obtain ⟨comment, created, uuid, time, -⟩ := StoredReaction.reads_of_joined joined
  exact ⟨comment, created, uuid, time⟩

end Join

namespace Tables

structure Keyed (t : Tables) : Prop where
  numbers : (t.reactions.map StoredReaction.id).Nodup
  ids : (t.users.map User.id).Nodup

theorem Ordered.keyed {t : Tables} (ordered : t.Ordered) : t.Keyed :=
  ⟨List.pairwise_map.mpr (ordered.numbers.imp fun before => Nat.ne_of_lt before), ordered.ids⟩

def pairs (t : Tables) (conditions : List Condition) : List (StoredReaction × User) :=
  (t.byNumber.filter fun r => conditions.all (Condition.holds r)).flatMap t.withAuthor

variable {t : Tables} {conditions : List Condition}

theorem mem_pairs {p : StoredReaction × User} :
    p ∈ t.pairs conditions ↔ p.1 ∈ t.reactions ∧ p.2 ∈ t.users ∧ p.2.id = p.1.author ∧
      conditions.all (Condition.holds p.1) = true := by
  obtain ⟨r, u⟩ := p
  have sorted (q : StoredReaction) : q ∈ t.byNumber ↔ q ∈ t.reactions :=
    (List.mergeSort_perm _ _).mem_iff
  simp only [pairs, withAuthor, List.mem_flatMap, List.mem_filter, List.mem_map, sorted,
    Prod.mk.injEq, beq_iff_eq]
  constructor
  · rintro ⟨q, ⟨mem, holds⟩, v, ⟨there, own⟩, rfl, rfl⟩
    exact ⟨mem, there, own, holds⟩
  · rintro ⟨mem, there, own, holds⟩
    exact ⟨r, ⟨mem, holds⟩, u, ⟨there, own⟩, rfl, rfl⟩

theorem joined_of_pairs {xs : List Shown} (pairs : xs.map Shown.pair = t.pairs conditions) :
    t.joined conditions = .ok (xs.map fun x => x.reading.values) := by
  rw [← mapM_joined_shown, pairs]
  rfl

theorem exists_shown_of_joined {values : List (List Value)}
    (joined : t.joined conditions = .ok values) :
    ∃ xs : List Shown, xs.map Shown.pair = t.pairs conditions ∧
      values = xs.map fun x => x.reading.values := by
  have own : ∀ p ∈ t.pairs conditions, p.2.id = p.1.author := fun p mem => (mem_pairs.mp mem).2.2.1
  obtain ⟨xs, pairs⟩ := exists_shown own (legible_of_mapM_joined joined)
  exact ⟨xs, pairs, Except.ok.inj (joined.symm.trans (joined_of_pairs pairs))⟩

theorem Keyed.byNumber (keyed : t.Keyed) : t.byNumber.Pairwise fun a b => a.id < b.id := by
  have sorted : t.byNumber.Pairwise fun a b => decide (a.id ≤ b.id) = true :=
    List.pairwise_mergeSort (fun a b c => by simpa using le_trans)
      (fun a b => by simpa using le_total _ _) t.reactions
  have distinct : t.byNumber.Pairwise fun a b => a.id ≠ b.id :=
    List.pairwise_map.mp (((List.mergeSort_perm _ _).map _).nodup_iff.mpr keyed.numbers)
  refine (sorted.and distinct).imp fun both => ?_
  exact lt_of_le_of_ne (by simpa using both.1) both.2

theorem Keyed.pairs (keyed : t.Keyed) (conditions : List Condition) :
    (t.pairs conditions).Pairwise fun p q => p.1.id < q.1.id := by
  rw [Tables.pairs, List.pairwise_flatMap]
  constructor
  · intro r _
    rw [withAuthor, List.pairwise_map]
    have ids := (List.pairwise_map.mp keyed.ids).filter fun u => u.id == r.author
    refine ids.imp_of_mem fun {u v} left right apart => ?_
    have first : u.id = r.author := by simpa using (List.mem_filter.mp left).2
    have second : v.id = r.author := by simpa using (List.mem_filter.mp right).2
    exact absurd (first.trans second.symm) apart
  · refine (keyed.byNumber.filter _).imp fun {r q} before p inside p' inside' => ?_
    obtain ⟨u, -, rfl⟩ := List.mem_map.mp inside
    obtain ⟨v, -, rfl⟩ := List.mem_map.mp inside'
    exact before

end Tables

def TypeSummary.group (comment : Uuid) (s : TypeSummary) : Group Topic :=
  ⟨(comment, s.label), s.first, s.users⟩

def CommentSummary.group (s : CommentSummary) : Group Topic :=
  ⟨(s.comment, s.label), s.first, s.users⟩

@[simp]
theorem TypeSummary.group_first (comment : Uuid) (s : TypeSummary) :
    (s.group comment).first = s.first := rfl

@[simp]
theorem CommentSummary.group_first (s : CommentSummary) : s.group.first = s.first := rfl

namespace Listing

open Program (result)

def program : Listing → Program (List (Group Topic))
  | .ofComment comment => do
    return (← Service.listComment (some comment)).map (TypeSummary.group comment)
  | .ofView view comment => do
    return (← Service.listView (some view) comment).map CommentSummary.group

def answer (l : Listing) (s : SessionName) (w : World) : Except Failure (List (Group Topic)) :=
  (result (World.perform s) w l.program).1

def conditions : Listing → List Condition
  | .ofComment comment => [.comment (some comment)]
  | .ofView view comment => .view (some view) :: (comment.map fun c => .comment (some c)).toList

def summarize : Listing → List Row → Except Failure (List (Group Topic))
  | .ofComment comment, rows => do
    let groups ← Rollup.byLabel rows
    return (← Rollup.types groups).map (TypeSummary.group comment)
  | .ofView _ _, rows => do
    let groups ← Rollup.byComment rows
    return (← Rollup.comments groups).map CommentSummary.group

theorem conditions_hold_iff (l : Listing) (r : StoredReaction) :
    l.conditions.all (Condition.holds r) = true ↔ l.Covers r := by
  have flip (u : Uuid) (text : String) : u.compact = text ↔ text = u.compact := eq_comm
  rcases l with comment | ⟨view, _ | comment⟩ <;>
    simp [conditions, Covers, Condition.holds, flip]

theorem answer_eq (l : Listing) (s : SessionName) (w : World) :
    l.answer s w = (Service.readRows
      ((w.tables s World.noReactions).bind fun t => t.joined l.conditions)).bind l.summarize := by
  cases l with
  | ofComment comment =>
    rw [answer, program, Program.result_bind_pure, Service.result_listComment]
    simp only [World.perform, World.reply, conditions, bind]
    rcases Service.readRows _ with _ | rows
    · rfl
    · simp only [summarize, bind, Except.bind]
      rcases Rollup.byLabel rows with _ | groups
      · rfl
      · dsimp only
        rcases Rollup.types groups with _ | summaries <;> rfl
  | ofView view comment =>
    rw [answer, program, Program.result_bind_pure, Service.result_listView]
    simp only [World.perform, World.reply, conditions, bind]
    rcases Service.readRows _ with _ | rows
    · rfl
    · simp only [summarize, bind, Except.bind]
      rcases Rollup.byComment rows with _ | groups
      · rfl
      · dsimp only
        rcases Rollup.comments groups with _ | summaries <;> rfl

theorem summarize_view (view : Uuid) (comment : Option Uuid) (xs : List Shown) :
    (ofView view comment).summarize (xs.map fun x => x.reading.row) = .ok (rollup xs) := by
  have groups : Rollup.byComment (xs.map fun x => x.reading.row) =
      .ok ((rollup xs).map (Grouping.recode fun k => (.uuid k.1, .text k.2))) :=
    Rollup.byComment_eq Prod.fst Prod.snd (fun x => ⟨rfl, rfl⟩)
      (fun k l first second => Prod.ext first second) xs
  rw [summarize, groups]
  change (Rollup.comments _).map _ = _
  rw [Rollup.comments_recode Prod.fst Prod.snd, Except.map, List.map_map]
  exact congrArg Except.ok (List.map_id _)

theorem summarize_shown {l : Listing} {xs : List Shown}
    (ascending : xs.Pairwise fun x y => x.number < y.number)
    (covered : ∀ x ∈ xs, l.Covers x.reaction) :
    l.summarize (xs.map fun x => x.reading.row) = .ok (rollup xs) := by
  cases l with
  | ofComment comment =>
    have comments : ∀ x ∈ xs, x.comment = comment :=
      fun x mem => x.comment_of_stored (covered x mem)
    have groups : Rollup.byLabel (xs.map fun x => x.reading.row) =
        .ok ((rollup xs).map (Grouping.recode fun k => .text k.2)) :=
      Rollup.byLabel_eq Prod.snd (fun x => rfl) xs fun x mem y mem' => by
        simp [Shown.topic, comments x mem, comments y mem']
    -- all rows are on the one comment, which the summaries themselves leave out
    have restored : ∀ g ∈ rollup xs,
        TypeSummary.group comment ⟨g.key.2, g.first, g.users⟩ = g := by
      intro g mem
      obtain ⟨x, there, topic⟩ :=
        ((lists_rollup ascending).covers g.key).mp (List.mem_map_of_mem mem)
      have same : g.key.1 = comment := by rw [← topic, ← comments x there, Shown.topic]
      rw [TypeSummary.group, ← same]
    rw [summarize, groups]
    change (Rollup.types _).map _ = _
    rw [Rollup.types_recode, Except.map, List.map_map]
    exact congrArg Except.ok ((List.map_congr_left restored).trans (List.map_id _))
  | ofView view comment => exact summarize_view view comment xs

variable {l : Listing} {s : SessionName} {w : World} {t : Tables}

theorem answer_of_seen (seen : w.view s = some t) (sound : w.failed s = none) :
    l.answer s w = (Service.readRows (t.joined l.conditions)).bind l.summarize := by
  rw [answer_eq]
  simp only [World.tables, sound, seen, Except.bind]

theorem rows_of_pairs {xs : List Shown} (pairs : xs.map Shown.pair = t.pairs l.conditions) :
    {x | x ∈ xs} = l.rows t := by
  ext x
  have listed : x ∈ xs ↔ x.pair ∈ t.pairs l.conditions := by
    rw [← pairs]
    refine ⟨List.mem_map_of_mem, fun mem => ?_⟩
    obtain ⟨y, there, same⟩ := List.mem_map.mp mem
    obtain ⟨reaction, author⟩ := Prod.mk.inj same
    rwa [← Shown.eq_of_pair reaction author]
  change x ∈ xs ↔ _
  rw [listed, Tables.mem_pairs, l.conditions_hold_iff]
  constructor
  · exact fun ⟨reaction, author, _, covered⟩ => ⟨⟨reaction, author⟩, covered⟩
  · exact fun ⟨⟨reaction, author⟩, covered⟩ => ⟨reaction, author, x.own, covered⟩

theorem answer_of_pairs {xs : List Shown} (seen : w.view s = some t) (sound : w.failed s = none)
    (keyed : t.Keyed) (pairs : xs.map Shown.pair = t.pairs l.conditions) :
    l.answer s w = .ok (rollup xs) ∧ Lists (l.rows t) (rollup xs) := by
  have ascending : xs.Pairwise fun x y => x.number < y.number := by
    have sorted := keyed.pairs l.conditions
    rwa [← pairs, List.pairwise_map] at sorted
  have rows := rows_of_pairs pairs
  have covered : ∀ x ∈ xs, l.Covers x.reaction := by
    intro x mem
    have there : x ∈ l.rows t := rows ▸ mem
    exact there.2
  refine ⟨?_, rows ▸ lists_rollup ascending⟩
  rw [answer_of_seen seen sound, Tables.joined_of_pairs pairs, Service.readRows,
    Reading.decodeAll_values]
  exact summarize_shown ascending covered

theorem exists_answer (seen : w.view s = some t) (sound : w.failed s = none) (keyed : t.Keyed)
    (legible : ∀ r ∈ t.reactions, l.Covers r → (∃ u ∈ t.users, u.id = r.author) → r.Legible) :
    ∃ groups, l.answer s w = .ok groups ∧ Lists (l.rows t) groups := by
  have each : ∀ p ∈ t.pairs l.conditions, p.1.Legible := by
    intro p mem
    obtain ⟨mem, there, own, holds⟩ := Tables.mem_pairs.mp mem
    exact legible p.1 mem ((l.conditions_hold_iff p.1).mp holds) ⟨p.2, there, own⟩
  obtain ⟨xs, pairs⟩ := exists_shown (fun p mem => (Tables.mem_pairs.mp mem).2.2.1) each
  exact ⟨_, answer_of_pairs seen sound keyed pairs⟩

theorem answer_eq_ok_iff (seen : w.view s = some t) (sound : w.failed s = none) (keyed : t.Keyed)
    (groups : List (Group Topic)) :
    l.answer s w = .ok groups ↔
      (∀ r ∈ t.reactions, l.Covers r → (∃ u ∈ t.users, u.id = r.author) → r.Legible) ∧
        Lists (l.rows t) groups := by
  constructor
  · intro answered
    have legible : ∀ p ∈ t.pairs l.conditions, p.1.Legible := by
      rw [answer_of_seen seen sound] at answered
      cases joined : t.joined l.conditions with
      | error e => simp [joined, Service.readRows, Except.bind] at answered
      | ok values => exact legible_of_mapM_joined joined
    obtain ⟨xs, pairs⟩ := exists_shown (fun p mem => (Tables.mem_pairs.mp mem).2.2.1) legible
    obtain ⟨computed, lists⟩ := answer_of_pairs seen sound keyed pairs
    rw [computed] at answered
    refine ⟨fun r mem covered known => ?_, Except.ok.inj answered ▸ lists⟩
    obtain ⟨u, there, own⟩ := known
    exact legible (r, u)
      (Tables.mem_pairs.mpr ⟨mem, there, own, (l.conditions_hold_iff r).mpr covered⟩)
  · rintro ⟨legible, lists⟩
    obtain ⟨groups', answered, lists'⟩ := exists_answer seen sound keyed legible
    rw [answered, lists.unique lists']

theorem answer_congr {s' : SessionName} {w' : World} {t' : Tables} (seen : w.view s = some t)
    (sound : w.failed s = none) (seen' : w'.view s' = some t') (sound' : w'.failed s' = none)
    (same : t'.pairs l.conditions = t.pairs l.conditions) : l.answer s' w' = l.answer s w := by
  have joined : t'.joined l.conditions = t.joined l.conditions :=
    congrArg (List.mapM fun p : StoredReaction × User => p.1.joined p.2) same
  rw [answer_of_seen seen sound, answer_of_seen seen' sound', joined]

end Listing

namespace Tables

structure Typed (t : Tables) : Prop extends Keyed t where
  legible : ∀ r ∈ t.reactions, r.Legible

def acknowledged (t : Tables) : List StoredReaction :=
  t.reactions.filter fun r => t.knows (some r.author)

end Tables

theorem Shown.in_iff (x : Shown) (t : Tables) :
    x.In t ↔ x.reaction ∈ t.acknowledged ∧ x.author ∈ t.users := by
  simp only [In, Tables.acknowledged, List.mem_filter, Tables.knows, List.any_eq_true]
  constructor
  · exact fun ⟨reaction, author⟩ => ⟨⟨reaction, x.author, author, by simp [x.own]⟩, author⟩
  · exact fun ⟨reaction, author⟩ => ⟨reaction.1, author⟩

namespace Listing

variable {s : SessionName} {w : World} {t : Tables}

theorem answer_of_typed (seen : w.view s = some t) (sound : w.failed s = none) (typed : t.Typed)
    (l : Listing) : ∃ groups, l.answer s w = .ok groups ∧ Lists (l.rows t) groups :=
  exists_answer seen sound typed.toKeyed fun r mem _ _ => typed.legible r mem

/-- A session that sees well-typed tables is shown by every listing what its specification says, in
whatever order the tables are kept. -/
theorem listings_show_the_join (seen : w.view s = some t) (sound : w.failed s = none)
    (typed : t.Typed) (l : Listing) :
    ∃ groups, l.answer s w = .ok groups ∧
      (∀ others, Lists (l.rows t) others ↔ others = groups) ∧
      (l.rows t = ∅ → groups = []) ∧
      ∀ s' w' t', w'.view s' = some t' → w'.failed s' = none → t'.Keyed →
        t'.users.Perm t.users → t'.acknowledged.Perm t.acknowledged →
        l.answer s' w' = .ok groups := by
  obtain ⟨groups, answered, lists⟩ :=
    exists_answer (l := l) seen sound typed.toKeyed fun r mem _ _ => typed.legible r mem
  refine ⟨groups, answered, fun others => ?_, fun empty => ?_, ?_⟩
  · exact ⟨fun lists' => lists'.unique lists, fun same => same ▸ lists⟩
  · cases groups with
    | nil => rfl
    | cons g rest =>
      obtain ⟨x, there, -⟩ := (lists.covers g.key).mp (by simp)
      simp [empty] at there
  · intro s' w' t' seen' sound' keyed users reactions
    have rows : l.rows t' = l.rows t := by
      ext x
      refine and_congr_left fun _ => ?_
      rw [x.in_iff, x.in_iff, reactions.mem_iff, users.mem_iff]
    refine (answer_eq_ok_iff seen' sound' keyed _).mpr ⟨fun r mem covered known => ?_, rows ▸ lists⟩
    have inside : r ∈ t'.acknowledged := by
      obtain ⟨u, there, own⟩ := known
      exact List.mem_filter.mpr ⟨mem, List.any_eq_true.mpr ⟨u, there, by simp [own]⟩⟩
    exact typed.legible r (List.mem_of_mem_filter (reactions.mem_iff.mp inside))

namespace Shuffled

def view : Uuid := .ofNat 1

def comment : Uuid := .ofNat 2

def reaction (id : Nat) (label author time : String) : StoredReaction :=
  ⟨id, view.compact, comment.compact, label, author, .text time⟩

def tables : Tables where
  reactions := [
    reaction 7 "love" "ben" "2024-05-01 12:00:00",
    reaction 4 "like" "ann" "2024-05-01 12:00:00",
    reaction 5 "like" "gone" "2024-05-01 11:00:00",
    reaction 3 "love" "ann" "2024-05-01 13:00:00"]
  users := [⟨"ben", "Ben"⟩, ⟨"ann", "Ann"⟩]

def world : World := { World.initial with committed := some tables }

theorem listing_of_shuffled_tables :
    ∃ groups, (ofComment comment).answer (.named "main") world = .ok groups ∧
      groups.map (fun g => (g.key.2, g.users)) =
        [("love", [⟨"ann", "Ann"⟩, ⟨"ben", "Ben"⟩]), ("like", [⟨"ann", "Ann"⟩])] := by
  have typed : tables.Typed :=
    { numbers := by decide, ids := by decide, legible := by decide +kernel }
  obtain ⟨groups, answered, -⟩ :=
    listings_show_the_join (s := .named "main") (w := world) rfl rfl typed (ofComment comment)
  have shown : ((ofComment comment).answer (.named "main") world).toOption.map
      (List.map fun g => (g.key.2, g.users)) =
        some [("love", [⟨"ann", "Ann"⟩, ⟨"ben", "Ben"⟩]), ("like", [⟨"ann", "Ann"⟩])] := by
    cbv
  rw [answered] at shown
  exact ⟨groups, answered, Option.some.inj shown⟩

end Shuffled

end Listing

end ReactionLedger
