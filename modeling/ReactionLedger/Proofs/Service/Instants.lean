import ReactionLedger.Proofs.Grouping.Partition
import ReactionLedger.Proofs.Service.Completeness

set_option autoImplicit false

namespace ReactionLedger

open List (Forall₂)
open Program (result)

section Related

variable {α β γ δ ε : Type} {R : α → β → Prop} {S : γ → δ → Prop} {xs : List α} {ys : List β}

theorem exists_pairs (related : Forall₂ R xs ys) : ∃ pairs : List (α × β),
    (∀ p ∈ pairs, R p.1 p.2) ∧ pairs.map Prod.fst = xs ∧ pairs.map Prod.snd = ys := by
  induction related with
  | nil => exact ⟨[], nofun, rfl, rfl⟩
  | @cons x y xs ys here _ ih =>
    obtain ⟨pairs, all, rfl, rfl⟩ := ih
    exact ⟨(x, y) :: pairs, List.forall_mem_cons.mpr ⟨here, all⟩, rfl, rfl⟩

theorem forall₂_pairs {pairs : List (α × β)} (all : ∀ p ∈ pairs, R p.1 p.2) :
    Forall₂ R (pairs.map Prod.fst) (pairs.map Prod.snd) := by
  rw [List.forall₂_map_left_iff, List.forall₂_map_right_iff, List.forall₂_same]
  exact all

theorem map_eq_of_related {f : α → γ} {g : β → γ} (same : ∀ x y, R x y → f x = g y)
    (related : Forall₂ R xs ys) : xs.map f = ys.map g := by
  induction related with
  | nil => rfl
  | cons here _ ih => rw [List.map_cons, List.map_cons, same _ _ here, ih]

theorem mapM_related {f : α → Except ε γ} {g : β → Except ε δ}
    (each : ∀ x y, R x y → ∃ a b, f x = .ok a ∧ g y = .ok b ∧ S a b) (related : Forall₂ R xs ys) :
    ∃ as bs, xs.mapM f = .ok as ∧ ys.mapM g = .ok bs ∧ Forall₂ S as bs := by
  induction related with
  | nil => exact ⟨[], [], rfl, rfl, .nil⟩
  | cons here _ ih =>
    obtain ⟨a, b, left, right, alike⟩ := each _ _ here
    obtain ⟨as, bs, lefts, rights, rest⟩ := ih
    refine ⟨a :: as, b :: bs, ?_, ?_, .cons alike rest⟩
    · rw [List.mapM_cons, left, lefts]
      rfl
    · rw [List.mapM_cons, right, rights]
      rfl

end Related

namespace Row

inductive Rewritten : List Value → List Value → Prop
  | row (comment label id name : Value) {created created' : Stamp}
      (same : created.moment.instant = created'.moment.instant) :
      Rewritten [comment, label, .stamp created, id, name]
        [comment, label, .stamp created', id, name]

structure Restamped (r r' : Row) : Prop where
  comment : r.comment = r'.comment
  label : r.label = r'.label
  user : r.user = r'.user
  instant : r.created.instant = r'.created.instant

theorem decode_rewritten {onComment : Value → Prop} (some : ¬ onComment .null)
    {values values' : List Value} (declared : Declared onComment values)
    (rewritten : Rewritten values values') :
    ∃ row row', decode values = .ok row ∧ decode values' = .ok row' ∧
      (onComment row.comment ∧ row.label.IsText) ∧ Restamped row row' := by
  obtain ⟨row, decoded, accepted⟩ := (declared_iff some values).mp declared
  obtain ⟨comment, label, id, name, same⟩ := rewritten
  obtain ⟨_, _, created, _, _, user, shape, full, full', author, rfl⟩ :=
    (decode_eq_ok_iff _ row).mp decoded
  simp only [List.cons.injEq, Value.stamp.injEq, and_true] at shape
  obtain ⟨rfl, rfl, rfl, rfl, rfl⟩ := shape
  exact ⟨_, _, decoded, (decode_eq_ok_iff _ _).mpr ⟨_, _, _, _, _, user, rfl, full, full', author,
    rfl⟩, accepted, rfl, rfl, rfl, same⟩

theorem decodeAll_rewritten {onComment : Value → Prop} (some : ¬ onComment .null)
    {raw raw' : List (List Value)} (declared : ∀ values ∈ raw, Declared onComment values)
    (rewritten : Forall₂ Rewritten raw raw') :
    ∃ rows rows', decodeAll raw = .ok rows ∧ decodeAll raw' = .ok rows' ∧
      (∀ row ∈ rows, onComment row.comment ∧ row.label.IsText) ∧
        Forall₂ Restamped rows rows' := by
  obtain ⟨rows, rows', decoded, decoded', related⟩ := mapM_related
    (fun _ _ both => decode_rewritten some both.1 both.2)
    ((List.forall₂_and_left _ _).mpr ⟨declared, rewritten⟩)
  obtain ⟨accepted, restamped⟩ := (List.forall₂_and_left _ _).mp related
  exact ⟨rows, rows', decoded, decoded', accepted, restamped⟩

end Row

structure Group.Restamped {κ : Type} (g h : Group κ) : Prop where
  key : g.key = h.key
  users : g.users = h.users
  instant : g.first.instant = h.first.instant

namespace Grouping

theorem instant_earliest (first : Moment) (others : List Moment) :
    (earliest first others).instant = (others.map Moment.instant).foldl min first.instant := by
  induction others generalizing first with
  | nil => rfl
  | cons m others ih =>
    rw [earliest, List.foldl_cons, ← earliest, ih, List.map_cons, List.foldl_cons]
    congr 1
    split <;> omega

section Keys

variable {κ ι : Type} {key : Row → κ}

theorem ofClass_restamped (timeless : ∀ r r', Row.Restamped r r' → key r = key r')
    {rows rows' : List Row} (restamped : Forall₂ Row.Restamped rows rows') :
    Option.Rel Group.Restamped (ofClass key rows) (ofClass key rows') := by
  cases restamped with
  | nil => exact .none
  | cons here rest =>
    refine .some ⟨timeless _ _ here, ?_, ?_⟩
    · exact map_eq_of_related (fun _ _ same => same.user) (.cons here rest)
    · rw [instant_earliest, instant_earliest, List.map_map, List.map_map, here.instant]
      exact congrArg _ (map_eq_of_related (fun _ _ same => same.instant) rest)

theorem inOrder_restamped {groups groups' : List (Group κ)}
    (restamped : Forall₂ Group.Restamped groups groups') :
    Forall₂ Group.Restamped (inOrder groups) (inOrder groups') := by
  obtain ⟨pairs, all, rfl, rfl⟩ := exists_pairs restamped
  set sorted := pairs.mergeSort fun p q => p.1.first.instant ≤ q.1.first.instant
  have left : sorted.map Prod.fst = inOrder (pairs.map Prod.fst) :=
    List.map_mergeSort fun _ _ _ _ => rfl
  have right : sorted.map Prod.snd = inOrder (pairs.map Prod.snd) :=
    List.map_mergeSort fun p mem q mem' => by rw [(all p mem).instant, (all q mem').instant]
  rw [← left, ← right]
  exact forall₂_pairs fun p mem => all p ((List.mergeSort_perm pairs _).mem_iff.mp mem)

theorem group_restamped [DecidableEq ι] (identity : κ → ι)
    (timeless : ∀ r r', Row.Restamped r r' → key r = key r') {rows rows' : List Row}
    (restamped : Forall₂ Row.Restamped rows rows') :
    Forall₂ Group.Restamped (group key identity rows) (group key identity rows') := by
  obtain ⟨pairs, all, rfl, rfl⟩ := exists_pairs restamped
  have left := classes_map Prod.fst (identity ∘ key) (fun p => identity (key p.1)) pairs
    fun _ _ _ _ => Iff.rfl
  have right := classes_map Prod.snd (identity ∘ key) (fun p => identity (key p.1)) pairs
    fun p mem q mem' => by
      rw [timeless _ _ (all p mem), timeless _ _ (all q mem')]
      exact Iff.rfl
  rw [group, group, left, right]
  apply inOrder_restamped
  refine List.rel_filterMap (R := Forall₂ Row.Restamped)
    (fun c c' related => ofClass_restamped timeless related) ?_
  rw [List.forall₂_map_left_iff, List.forall₂_map_right_iff, List.forall₂_same]
  intro c inside
  obtain ⟨p, -, rfl⟩ := (mem_classes_iff _ _ _).mp inside
  exact forall₂_pairs fun q mem => all q (List.mem_of_mem_filter mem)

theorem byKey_restamped {parts : κ → List Value} {rows rows' : List Row}
    (timeless : ∀ r r', Row.Restamped r r' → key r = key r')
    (keyable : ∀ row ∈ rows, ∀ v ∈ parts (key row), v.unkeyable? = none)
    (restamped : Forall₂ Row.Restamped rows rows') :
    byKey key parts rows = .ok (group key (fun k => (parts k).map Value.identity?) rows) ∧
      byKey key parts rows' = .ok (group key (fun k => (parts k).map Value.identity?) rows') ∧
        Forall₂ Group.Restamped (group key (fun k => (parts k).map Value.identity?) rows)
          (group key (fun k => (parts k).map Value.identity?) rows') := by
  refine ⟨byKey_of_keyable keyable, byKey_of_keyable fun row' mem v part => ?_,
    group_restamped _ timeless restamped⟩
  have same : key row' ∈ rows.map key :=
    map_eq_of_related timeless restamped ▸ List.mem_map_of_mem mem
  obtain ⟨row, there, equal⟩ := List.mem_map.mp same
  exact keyable row there v (equal ▸ part)

end Keys

end Grouping

namespace Field

theorem usersFrom_fields (index : Nat) (users : List User) :
    usersFrom index (users.map fun u => .record u.fields) = .ok users := by
  induction users generalizing index with
  | nil => rfl
  | cons u users ih =>
    have own : userAt index (.record u.fields) = .ok u := rfl
    rw [List.map_cons, usersFrom, own, ih]

end Field

def TypeSummary.given (label : Value) (first : Moment) (users : List User) : Fields :=
  [(Field.label, label), (Field.first, .stamp first.stamp),
    (Field.users, .list (users.map fun u => .record u.fields))]

def CommentSummary.given (comment label : Value) (first : Moment) (users : List User) : Fields :=
  (Field.comment, comment) :: TypeSummary.given label first users

section Given

variable (comment label : Value) (first : Moment) (users : List User)

theorem TypeSummary.ofFields_given :
    ofFields (given label first users) = ofParts label first users := by
  have time : Field.required (given label first users) Field.first Field.aware = .ok first := rfl
  have own : Field.required (given label first users) Field.label Field.text =
    Complaint.about Field.label (Field.text label) := rfl
  have authors : Field.usersOf (given label first users) = .ok users :=
    Field.usersFrom_fields 0 users
  rw [ofFields, ofParts, time, own, authors]
  cases Field.text label <;> rfl

theorem CommentSummary.ofFields_given :
    ofFields (given comment label first users) = ofParts comment label first users := by
  have types : TypeSummary.ofFields (given comment label first users) =
    TypeSummary.ofFields (TypeSummary.given label first users) := rfl
  have own : Field.required (given comment label first users) Field.comment Field.uuid =
    Complaint.about Field.comment (Field.uuid comment) := rfl
  rw [ofFields, types, own, TypeSummary.ofFields_given]
  rfl

end Given

structure TypeSummary.Restamped (x y : TypeSummary) : Prop where
  label : x.label = y.label
  users : x.users = y.users
  instant : x.first.instant = y.first.instant

structure CommentSummary.Restamped (x y : CommentSummary) : Prop
    extends TypeSummary.Restamped x.toTypeSummary y.toTypeSummary where
  comment : x.comment = y.comment

/-- The groups of both lists of rows pass validation, and the summaries that come of it are the
outcomes.  They are the same but for how their times are written. -/
def AnsweredAlike {κ S : Type} (grouping : List Row → Except Failure (List (Group κ)))
    (validate : Group κ → Except (List Complaint) S) (Restamped : S → S → Prop)
    (rows rows' : List Row) (outcome outcome' : Except Failure (List S)) : Prop :=
  ∃ groups groups' summaries summaries',
    grouping rows = .ok groups ∧ grouping rows' = .ok groups' ∧
      Forall₂ Group.Restamped groups groups' ∧
      groups.map validate = summaries.map .ok ∧ groups'.map validate = summaries'.map .ok ∧
      outcome = .ok summaries ∧ outcome' = .ok summaries' ∧ Forall₂ Restamped summaries summaries'

namespace Rollup.Kind

variable {κ S : Type} {kind : Kind κ S} {R : S → S → Prop}

theorem summariesOf_of_built {groups : List (Group κ)} {summaries : List S}
    (built : groups.map kind.build = summaries.map .ok) :
    kind.summariesOf groups = .ok summaries := by
  have passed : (groups.map kind.build).map (Except.mapError Failure.invalid) =
      summaries.map .ok := by
    rw [built, List.map_map]
    rfl
  rw [List.map_map] at passed
  exact mapM_eq_ok_iff.mpr passed

theorem summarize_restamped (timeless : ∀ r r', Row.Restamped r r' → kind.key r = kind.key r')
    (alike : ∀ g h, kind.accepts g.key ∧ Group.Restamped g h →
      ∃ x y, kind.build g = .ok x ∧ kind.build h = .ok y ∧ R x y)
    {rows rows' : List Row} (accepted : ∀ row ∈ rows, kind.accepts (kind.key row))
    (restamped : Forall₂ Row.Restamped rows rows') :
    AnsweredAlike (Grouping.byKey kind.key kind.parts) kind.build R rows rows'
      (kind.summarize rows) (kind.summarize rows') := by
  obtain ⟨grouped, grouped', groups⟩ := Grouping.byKey_restamped timeless
    (fun row mem v part => (kind.plain _ (accepted row mem) v part).unkeyable?) restamped
  have keys : ∀ g ∈ Grouping.group kind.key kind.identity rows, kind.accepts g.key := by
    intro g mem
    obtain ⟨row, there, key⟩ := Grouping.exists_row_of_group _ _ _ mem
    exact key ▸ accepted row there
  obtain ⟨summaries, summaries', built, built', related⟩ :=
    mapM_related alike ((List.forall₂_and_left _ _).mpr ⟨keys, groups⟩)
  rw [mapM_eq_ok_iff] at built built'
  refine ⟨_, _, summaries, summaries', grouped, grouped', groups, built, built', ?_, ?_, related⟩
  · rw [summarize, grouped]
    exact summariesOf_of_built built
  · rw [summarize, grouped']
    exact summariesOf_of_built built'

theorem types_restamped (g h : Group Value)
    (related : ofTypes.accepts g.key ∧ Group.Restamped g h) :
    ∃ x y, ofTypes.build g = .ok x ∧ ofTypes.build h = .ok y ∧ TypeSummary.Restamped x y := by
  obtain ⟨⟨text, read⟩, same⟩ := related
  refine ⟨⟨text, g.first, g.users⟩, ⟨text, h.first, h.users⟩, ?_, ?_, rfl, same.users, same.instant⟩
  · change TypeSummary.ofParts g.key g.first g.users = _
    rw [TypeSummary.ofParts, read]
    rfl
  · change TypeSummary.ofParts h.key h.first h.users = _
    rw [TypeSummary.ofParts, ← same.key, read]
    rfl

theorem comments_restamped (g h : Group (Value × Value))
    (related : ofComments.accepts g.key ∧ Group.Restamped g h) :
    ∃ x y, ofComments.build g = .ok x ∧ ofComments.build h = .ok y ∧
      CommentSummary.Restamped x y := by
  obtain ⟨⟨⟨u, uuid⟩, text, read⟩, same⟩ := related
  refine ⟨⟨⟨text, g.first, g.users⟩, u⟩, ⟨⟨text, h.first, h.users⟩, u⟩, ?_, ?_,
    ⟨rfl, same.users, same.instant⟩, rfl⟩
  · change CommentSummary.ofParts g.key.1 g.key.2 g.first g.users = _
    rw [CommentSummary.ofParts, TypeSummary.ofParts, read, uuid]
    rfl
  · change CommentSummary.ofParts h.key.1 h.key.2 h.first h.users = _
    rw [CommentSummary.ofParts, TypeSummary.ofParts, ← same.key, read, uuid]
    rfl

end Rollup.Kind

namespace Service

open Rollup (Kind)

def Replies {σ : Type} (perform : Performer σ) (s : σ) (conditions : List Condition)
    (raw : List (List Value)) : Prop := (perform (.joinedRows conditions) s).outcome = .ok raw

def viewConditions (view comment : Option Uuid) : List Condition :=
  .view view :: (comment.map fun c => Condition.comment (some c)).toList

section Outcomes

variable {σ : Type} {perform : Performer σ} {s : σ} {view comment : Option Uuid}
variable {raw : List (List Value)} {rows : List Row}

theorem outcome_listComment (replies : Replies perform s [.comment comment] raw)
    (decoded : Row.decodeAll raw = .ok rows) :
    ((listComment comment).run perform s).outcome = Kind.ofTypes.summarize rows := by
  have ended : ((listComment comment).run perform s).outcome =
      readRows (perform (.joinedRows [.comment comment]) s).outcome >>= Kind.ofTypes.summarize :=
    congrArg Prod.fst (result_listComment perform s comment)
  rw [ended, replies, readRows, decoded]
  rfl

theorem outcome_listView (replies : Replies perform s (viewConditions view comment) raw)
    (decoded : Row.decodeAll raw = .ok rows) :
    ((listView view comment).run perform s).outcome = Kind.ofComments.summarize rows := by
  have ended : ((listView view comment).run perform s).outcome =
      readRows (perform (.joinedRows (viewConditions view comment)) s).outcome >>=
        Kind.ofComments.summarize := congrArg Prod.fst (result_listView perform s view comment)
  rw [ended, replies, readRows, decoded]
  rfl

end Outcomes

section Rows

variable {rows rows' : List Row} (restamped : Forall₂ Row.Restamped rows rows')
variable (accepted : ∀ row ∈ rows, row.comment.IsUuid ∧ row.label.IsText)
include restamped accepted

theorem types_alike : AnsweredAlike Rollup.byLabel
    (fun g => TypeSummary.ofFields (TypeSummary.given g.key g.first g.users))
    TypeSummary.Restamped rows rows' (Kind.ofTypes.summarize rows)
    (Kind.ofTypes.summarize rows') := by
  simp only [TypeSummary.ofFields_given]
  exact Kind.summarize_restamped (fun _ _ same => same.label) Kind.types_restamped
    (fun row mem => (accepted row mem).2) restamped

theorem comments_alike : AnsweredAlike Rollup.byComment
    (fun g => CommentSummary.ofFields (CommentSummary.given g.key.1 g.key.2 g.first g.users))
    CommentSummary.Restamped rows rows' (Kind.ofComments.summarize rows)
    (Kind.ofComments.summarize rows') := by
  simp only [CommentSummary.ofFields_given]
  exact Kind.summarize_restamped (fun _ _ same => Prod.ext same.comment same.label)
    Kind.comments_restamped accepted restamped

end Rows

/-- Raw rows with their instants written in other ways give the same summaries, but for how their
times are written. -/
theorem listings_depend_on_instants {raw raw' : List (List Value)}
    (declared : ∀ values ∈ raw, Row.Declared Value.IsUuid values)
    (rewritten : Forall₂ Row.Rewritten raw raw') :
    ∃ rows rows', Row.decodeAll raw = .ok rows ∧ Row.decodeAll raw' = .ok rows' ∧
      (∀ {κ : Type} (key : Row → κ) (parts : κ → List Value),
        (∀ r r', Row.Restamped r r' → key r = key r') →
        (∀ row ∈ rows, ∀ v ∈ parts (key row), v.unkeyable? = none) →
          ∃ groups groups', Grouping.byKey key parts rows = .ok groups ∧
            Grouping.byKey key parts rows' = .ok groups' ∧
              Forall₂ Group.Restamped groups groups') ∧
      ∀ {σ : Type} (perform perform' : Performer σ) (s s' : σ) (view comment : Option Uuid),
        (Replies perform s [.comment comment] raw → Replies perform' s' [.comment comment] raw' →
          AnsweredAlike Rollup.byLabel
            (fun g => TypeSummary.ofFields (TypeSummary.given g.key g.first g.users))
            TypeSummary.Restamped rows rows' ((listComment comment).run perform s).outcome
            ((listComment comment).run perform' s').outcome) ∧
        (Replies perform s (viewConditions view comment) raw →
          Replies perform' s' (viewConditions view comment) raw' →
            AnsweredAlike Rollup.byComment
              (fun g => CommentSummary.ofFields
                (CommentSummary.given g.key.1 g.key.2 g.first g.users))
              CommentSummary.Restamped rows rows' ((listView view comment).run perform s).outcome
              ((listView view comment).run perform' s').outcome) := by
  obtain ⟨rows, rows', decoded, decoded', accepted, restamped⟩ :=
    Row.decodeAll_rewritten (fun ⟨_, read⟩ => by cases read) declared rewritten
  refine ⟨rows, rows', decoded, decoded', fun key parts timeless keyable => ?_,
    fun perform perform' s s' view comment => ⟨fun replies replies' => ?_,
      fun replies replies' => ?_⟩⟩
  · obtain ⟨grouped, grouped', groups⟩ :=
      Grouping.byKey_restamped timeless keyable restamped
    exact ⟨_, _, grouped, grouped', groups⟩
  · rw [outcome_listComment replies decoded, outcome_listComment replies' decoded']
    exact types_alike restamped accepted
  · rw [outcome_listView replies decoded, outcome_listView replies' decoded']
    exact comments_alike restamped accepted

namespace Mixed

def naive : Stamp := ClockText.start

def utc : Stamp := { ClockText.start with offset := some .zero }

def east : Stamp := ⟨ClockText.start.date, ClockText.fullHour 14, some ClockText.twoHoursEast⟩

def raw (first second : Stamp) : List (List Value) :=
  [[.uuid (.ofNat 1), .text "like", .stamp first, .text "ann", .text "Ann"],
    [.uuid (.ofNat 1), .text "love", .stamp second, .text "bob", .text "Bob"]]

def script (first second : Stamp) : Script := .start fun
  | .execute => [.reply { rows := raw first second }]
  | _ => []

theorem listing_of_mixed_times :
    let listing (s : Script) := (listComment (some (.ofNat 1))).run Script.perform s
    ∃ summaries summaries', (listing (script naive east)).outcome = .ok summaries ∧
      (listing (script utc naive)).outcome = .ok summaries' ∧
      Forall₂ TypeSummary.Restamped summaries summaries' ∧
      summaries.map TypeSummary.first = [naive.moment, east.moment] := by
  intro listing
  have declared : ∀ values ∈ raw naive east, Row.Declared Value.IsUuid values := by
    intro values mem
    cases mem with
    | head => exact .row _ ⟨_, rfl⟩ ⟨_, rfl⟩ ⟨⟨_, rfl⟩, _, rfl⟩
    | tail _ mem =>
      cases List.mem_singleton.mp mem
      exact .row _ ⟨_, rfl⟩ ⟨_, rfl⟩ ⟨⟨_, rfl⟩, _, rfl⟩
  have rewritten : Forall₂ Row.Rewritten (raw naive east) (raw utc naive) :=
    .cons (.row _ _ _ _ (by decide)) (.cons (.row _ _ _ _ (by decide)) .nil)
  obtain ⟨rows, rows', -, -, -, listings⟩ := listings_depend_on_instants declared rewritten
  obtain ⟨-, -, summaries, summaries', -, -, -, -, -, ended, ended', alike⟩ :=
    (listings Script.perform Script.perform (script naive east) (script utc naive) none
      (some (.ofNat 1))).1 rfl rfl
  have times : (listing (script naive east)).outcome.toOption.map (List.map TypeSummary.first) =
      some [naive.moment, east.moment] := by cbv
  refine ⟨summaries, summaries', ended, ended', alike, ?_⟩
  rw [ended] at times
  exact Option.some.inj times

end Mixed

end Service

end ReactionLedger
