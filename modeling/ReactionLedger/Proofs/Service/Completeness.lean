import Mathlib
import ReactionLedger.Proofs.Grouping
import ReactionLedger.Proofs.Row
import ReactionLedger.Proofs.Session.Results
import ReactionLedger.Proofs.Store.Clock
import ReactionLedger.Session.Script

set_option autoImplicit false

namespace ReactionLedger

namespace Value

def IsUuid (v : Value) : Prop := ∃ u, Field.uuid v = .ok u

inductive Plain : Value → Prop
  | text (s : String) : Plain (.text s)
  | bytes (b : List UInt8) : Plain (.bytes b)
  | uuid (u : Uuid) : Plain (.uuid u)

variable {v u : Value}

theorem IsText.plain (text : v.IsText) : v.Plain := by
  obtain ⟨s, read⟩ := text
  cases v with
  | text s => exact .text s
  | bytes b => exact .bytes b
  | _ => cases read

theorem IsUuid.plain (uuid : v.IsUuid) : v.Plain := by
  obtain ⟨i, read⟩ := uuid
  cases v with
  | text s => exact .text s
  | bytes b => exact .bytes b
  | uuid u => exact .uuid u
  | _ => cases read

theorem Plain.unkeyable? (plain : v.Plain) : v.unkeyable? = none := by
  cases plain <;> rfl

theorem Plain.eq_of_identity (plain : v.Plain) (same : v.identity? = u.identity?) : v = u := by
  cases u with
  | double x =>
    cases plain <;> simp only [identity?, numberIdentity] at same <;> split at same <;> cases same
  | stamp s => cases plain <;> simp only [identity?] at same <;> split at same <;> cases same
  | _ => cases plain <;> simp_all [identity?]

end Value

namespace Row

inductive Declared (onComment : Value → Prop) : List Value → Prop
  | row {comment label id name : Value} (created : Stamp) (commented : onComment comment)
      (labelled : label.IsText) (author : id.IsText ∧ name.IsText) :
      Declared onComment [comment, label, .stamp created, id, name]

theorem declared_iff {onComment : Value → Prop} (some : ¬ onComment .null) (values : List Value) :
    Declared onComment values ↔
      ∃ row, decode values = .ok row ∧ onComment row.comment ∧ row.label.IsText := by
  constructor
  · rintro ⟨created, commented, ⟨s, text⟩, ⟨a, textId⟩, ⟨b, textName⟩⟩
    refine ⟨_, (decode_eq_ok_iff _ _).mpr ⟨_, _, _, _, _, ⟨a, b⟩, rfl, ?_, ?_,
      (User.ofValues_eq_ok_iff _ _ _).mpr ⟨textId, textName⟩, rfl⟩, commented, s, text⟩
    · rintro rfl
      exact some commented
    · rintro rfl
      cases text
  · rintro ⟨row, decoded, commented, labelled⟩
    obtain ⟨comment, label, created, id, name, user, rfl, -, -, author, rfl⟩ :=
      (decode_eq_ok_iff values row).mp decoded
    obtain ⟨textId, textName⟩ := (User.ofValues_eq_ok_iff _ _ _).mp author
    exact .row created commented labelled ⟨⟨_, textId⟩, ⟨_, textName⟩⟩

end Row

namespace Grouping

variable {κ : Type} (key : Row → κ) (parts : κ → List Value) (rows : List Row)

theorem byKey_cases :
    (∃ row ∈ rows, ∃ v ∈ parts (key row), ∃ kind, v.unkeyable? = some kind ∧
      byKey key parts rows = .error (.type ("unhashable type: '" ++ kind ++ "'"))) ∨
    byKey key parts rows = .ok (group key (fun k => (parts k).map Value.identity?) rows) := by
  unfold byKey
  split
  next kind found =>
    obtain ⟨row, mem, inside⟩ := List.exists_of_findSome?_eq_some found
    obtain ⟨v, part, unkeyable⟩ := List.exists_of_findSome?_eq_some inside
    exact .inl ⟨row, mem, v, part, kind, unkeyable, rfl⟩
  next => exact .inr rfl

end Grouping

namespace Rollup

/-- How summaries of some kind are made: by which key the rows are grouped, which values make up the
key, and which keys a summary takes. -/
structure Kind (κ S : Type) where
  key : Row → κ
  parts : κ → List Value
  build : Group κ → Except (List Complaint) S
  accepts : κ → Prop
  users : S → List User
  plain : ∀ k, accepts k → ∀ v ∈ parts k, v.Plain
  built : ∀ g, accepts g.key → ∃ s, build g = .ok s ∧ users s = g.users
  refused : ∀ g, ¬ accepts g.key → ∃ complaints, build g = .error complaints
  parts_injective : ∀ k l, parts k = parts l → k = l

namespace Kind

def ofTypes : Kind Value TypeSummary where
  key := Row.label
  parts label := [label]
  build g := TypeSummary.ofParts g.key g.first g.users
  accepts := Value.IsText
  users := TypeSummary.users
  plain k text v part := by
    rw [List.mem_singleton.mp part]
    exact text.plain
  built g text := by
    obtain ⟨s, read⟩ := text
    exact ⟨⟨s, g.first, g.users⟩, by rw [TypeSummary.ofParts, read]; rfl, rfl⟩
  refused g other := by
    cases read : Field.text g.key with
    | ok s => exact absurd ⟨s, read⟩ other
    | error o => exact ⟨_, by rw [TypeSummary.ofParts, read]; rfl⟩
  parts_injective k l same := List.singleton_inj.mp same

def ofComments : Kind (Value × Value) CommentSummary where
  key row := (row.comment, row.label)
  parts key := [key.1, key.2]
  build g := CommentSummary.ofParts g.key.1 g.key.2 g.first g.users
  accepts key := key.1.IsUuid ∧ key.2.IsText
  users s := s.users
  plain k accepted v part := by
    rcases List.mem_pair.mp part with rfl | rfl
    · exact accepted.1.plain
    · exact accepted.2.plain
  built g accepted := by
    obtain ⟨⟨u, uuid⟩, ⟨s, text⟩⟩ := accepted
    exact ⟨⟨⟨s, g.first, g.users⟩, u⟩,
      by rw [CommentSummary.ofParts, TypeSummary.ofParts, uuid, text]; rfl, rfl⟩
  refused g other := by
    rw [CommentSummary.ofParts, TypeSummary.ofParts]
    cases text : Field.text g.key.2 with
    | error o => exact ⟨_, rfl⟩
    | ok s =>
      cases uuid : Field.uuid g.key.1 with
      | error o => exact ⟨_, rfl⟩
      | ok u => exact absurd ⟨⟨u, uuid⟩, ⟨s, text⟩⟩ other
  parts_injective k l same := by
    obtain ⟨first, rest⟩ := List.cons.inj same
    exact Prod.ext first (List.singleton_inj.mp rest)

variable {κ S : Type} (kind : Kind κ S)

def summariesOf (groups : List (Group κ)) : Except Failure (List S) :=
  groups.mapM fun g => (kind.build g).mapError .invalid

def summarize (rows : List Row) : Except Failure (List S) := do
  kind.summariesOf (← Grouping.byKey kind.key kind.parts rows)

def identity (k : κ) : List (Option Value.Identity) := (kind.parts k).map Value.identity?

theorem eq_of_identity {k l : κ} (accepted : kind.accepts k)
    (same : kind.identity k = kind.identity l) : k = l := by
  refine kind.parts_injective k l ?_
  have lengths : (kind.parts k).length = (kind.parts l).length := by
    simpa [identity] using congrArg List.length same
  refine List.ext_getElem lengths fun i here there => ?_
  have level := List.getElem_of_eq same (by simpa [identity] using here)
  simp only [identity, List.getElem_map] at level
  exact (kind.plain k accepted _ (List.getElem_mem here)).eq_of_identity level

theorem summariesOf_accepted {groups : List (Group κ)}
    (accepted : ∀ g ∈ groups, kind.accepts g.key) : ∃ summaries,
      kind.summariesOf groups = .ok summaries ∧
        summaries.map kind.users = groups.map Group.users := by
  induction groups with
  | nil => exact ⟨[], rfl, rfl⟩
  | cons g groups ih =>
    obtain ⟨summaries, made, users⟩ := ih fun h mem => accepted h (List.mem_cons_of_mem _ mem)
    obtain ⟨s, built, own⟩ := kind.built g (accepted g List.mem_cons_self)
    refine ⟨s :: summaries, ?_, by rw [List.map_cons, List.map_cons, own, users]⟩
    rw [summariesOf] at made
    rw [summariesOf, List.mapM_cons, built, made]
    rfl

theorem summariesOf_refused {groups : List (Group κ)} {g : Group κ} (mem : g ∈ groups)
    (other : ¬ kind.accepts g.key) :
    ∃ complaints, kind.summariesOf groups = .error (.invalid complaints) := by
  obtain ⟨complaints, refused⟩ := kind.refused g other
  cases made : kind.summariesOf groups with
  | ok summaries =>
    obtain ⟨s, -, built⟩ := exists_of_mem_mapM made mem
    simp [refused, Except.mapError] at built
  | error e =>
    obtain ⟨-, h, -, -, -, failed⟩ := mapM_eq_error_iff.mp made
    cases first : kind.build h with
    | ok s => simp [first, Except.mapError] at failed
    | error complaints =>
      rw [first] at failed
      exact ⟨complaints, by rw [← Except.error.inj failed]⟩

theorem summarize_cases (rows : List Row) :
    ((∀ row ∈ rows, kind.accepts (kind.key row)) ∧ ∃ summaries,
      kind.summarize rows = .ok summaries ∧
        (summaries.map fun s => (kind.users s).length).sum = rows.length) ∨
    (∃ row ∈ rows, ∃ v ∈ kind.parts (kind.key row), ∃ name, v.unkeyable? = some name ∧
      kind.summarize rows = .error (.type ("unhashable type: '" ++ name ++ "'"))) ∨
    ∃ row ∈ rows, ¬ kind.accepts (kind.key row) ∧ ∃ complaints,
      kind.summarize rows = .error (.invalid complaints) := by
  rcases Grouping.byKey_cases kind.key kind.parts rows with
    ⟨row, mem, v, part, name, unkeyable, failed⟩ | grouped
  · exact .inr (.inl ⟨row, mem, v, part, name, unkeyable, by rw [summarize, failed]; rfl⟩)
  have rest : kind.summarize rows =
      kind.summariesOf (Grouping.group kind.key kind.identity rows) := by
    rw [summarize, grouped]
    rfl
  by_cases accepted : ∀ g ∈ Grouping.group kind.key kind.identity rows, kind.accepts g.key
  · left
    obtain ⟨summaries, made, users⟩ := kind.summariesOf_accepted accepted
    refine ⟨fun row mem => ?_, summaries, rest.trans made, ?_⟩
    · obtain ⟨g, there, same⟩ := Grouping.exists_group_of_row kind.key kind.identity rows mem
      exact kind.eq_of_identity (accepted g there) same ▸ accepted g there
    · have counts := congrArg (fun users : List (List User) => (users.map List.length).sum) users
      simp only [List.map_map, Function.comp_def] at counts
      rw [counts, Grouping.sum_users_group]
  · obtain ⟨g, there, other⟩ : ∃ g ∈ Grouping.group kind.key kind.identity rows,
        ¬ kind.accepts g.key := by simpa using accepted
    obtain ⟨row, mem, key⟩ := Grouping.exists_row_of_group kind.key kind.identity rows there
    obtain ⟨complaints, refused⟩ := kind.summariesOf_refused there other
    exact .inr (.inr ⟨row, mem, key ▸ other, complaints, rest.trans refused⟩)

end Kind

end Rollup

namespace Service

open Program Rollup

section Reading

variable {σ α β : Type} (perform : Performer σ) (s : σ)

def readEntries : Except Failure (List (List Value)) → Journal
  | .error e =>
    if e.isReadFault then [⟨.error, "Failed to read reactions: " ++ e.message⟩] else []
  | .ok raw =>
    match Row.decodeAll raw with
    | .ok _ => []
    | .error e =>
      if e.isAccess then [⟨.error, "Failed to decode reaction row: " ++ e.message⟩] else []

theorem run_fetchRows (conditions : List Condition) :
    (fetchRows conditions).run perform s =
      let joined := perform (.joinedRows conditions) s
      ⟨readRows joined.outcome, joined.journal ++ readEntries joined.outcome, joined.state⟩ := by
  change (Program.bind _ _).run perform s = _
  rw [run_bind, run_handle, Program.perform, run]
  rcases perform (.joinedRows conditions) s with ⟨e | raw, journal, s'⟩
  · cases fault : e.isReadFault <;>
      simp [readFailed, fault, readRows, readEntries, run, fail, Bind.bind, Program.bind, record]
  · cases decoded : Row.decodeAll raw with
    | error e =>
      cases access : e.isAccess <;>
        simp [decodeFailed, access, decoded, readRows, readEntries, run, fail, Bind.bind,
          Program.bind, record]
    | ok rows => simp [decoded, readRows, readEntries, run, Pure.pure]

theorem journal_bind (p : Program α) (f : α → Program β) :
    (p.run perform s).journal ⊆ ((p >>= f).run perform s).journal := by
  change _ ⊆ ((p.bind f).run perform s).journal
  rw [run_bind]
  rcases p.run perform s with ⟨_ | a, journal, s'⟩
  · exact List.Subset.refl _
  · exact List.subset_append_left _ _

end Reading

section Listings

variable {κ S : Type} (kind : Kind κ S)

/-- The failures that a listing ends in as they are: of the first row that does not decode, of a
value that cannot be part of a key, of a key that no summary takes. -/
inductive Escapes (raw : List (List Value)) : Failure → Prop
  | row {before after : List (List Value)} {values : List Value} {e : Failure}
      (split : raw = before ++ values :: after)
      (well : ∀ earlier ∈ before, ∃ row, Row.decode earlier = .ok row)
      (flaw : Row.Flaw values e) (other : e.isAccess = false) : Escapes raw e
  | unkeyable {rows : List Row} {row : Row} {v : Value} {name : String}
      (decoded : Row.decodeAll raw = .ok rows) (mem : row ∈ rows)
      (part : v ∈ kind.parts (kind.key row)) (unkeyable : v.unkeyable? = some name) :
      Escapes raw (.type ("unhashable type: '" ++ name ++ "'"))
  | refused {rows : List Row} {row : Row} (decoded : Row.decodeAll raw = .ok rows)
      (mem : row ∈ rows) (other : ¬ kind.accepts (kind.key row)) (complaints : List Complaint) :
      Escapes raw (.invalid complaints)

structure AllOrNothing (declared : List Value → Prop) (reply : Except Failure (List (List Value)))
    (outcome : Except Failure (List S)) (journal : Journal) : Prop where
  unread : ∀ e, reply = .error e → e.isReadFault = true → ∃ text,
    outcome = .error (.access ("Failed to read reactions: " ++ text) (some e)) ∧
      ⟨.error, "Failed to read reactions: " ++ text⟩ ∈ journal ∧
      (e.isRefusal = false → text = e.message)
  passed : ∀ e, reply = .error e → e.isReadFault = false → outcome = .error e
  answers : ∀ raw, reply = .ok raw →
    ((∃ summaries, outcome = .ok summaries) ↔ ∀ values ∈ raw, declared values)
  whole : ∀ raw summaries, reply = .ok raw → outcome = .ok summaries →
    (summaries.map fun s => (kind.users s).length).sum = raw.length
  reported : ∀ raw text cause, reply = .ok raw → outcome = .error (.access text cause) →
    ⟨.error, "Failed to decode reaction row: " ++ text⟩ ∈ journal ∧
      ∃ before values after, raw = before ++ values :: after ∧
        (∀ earlier ∈ before, ∃ row, Row.decode earlier = .ok row) ∧
        Row.Flaw values (.access text cause)
  escapes : ∀ raw e, reply = .ok raw → outcome = .error e → e.isAccess = false →
    Escapes kind raw e

variable {kind} {declared : List Value → Prop}

theorem allOrNothing_escaped {raw : List (List Value)} {e : Failure} {journal : Journal}
    (escaped : Escapes kind raw e) (other : e.isAccess = false)
    (bad : ¬ ∀ values ∈ raw, declared values) :
    AllOrNothing kind declared (.ok raw) (.error e) journal where
  unread := nofun
  passed := nofun
  answers := by
    rintro _ ⟨⟩
    exact ⟨nofun, fun all => absurd all bad⟩
  whole := nofun
  reported := by
    rintro _ text cause ⟨⟩ ⟨⟩
    cases other
  escapes := by
    rintro _ _ ⟨⟩ ⟨⟩ -
    exact escaped

theorem allOrNothing_undecoded {raw before after : List (List Value)} {values : List Value}
    {e : Failure} {journal : Journal} (split : raw = before ++ values :: after)
    (well : ∀ earlier ∈ before, ∃ row, Row.decode earlier = .ok row)
    (failed : Row.decode values = .error e) (bad : ¬ declared values)
    (recorded : e.isAccess = true →
      ⟨.error, "Failed to decode reaction row: " ++ e.message⟩ ∈ journal) :
    AllOrNothing kind declared (.ok raw) (.error e) journal := by
  have undeclared : ¬ ∀ values ∈ raw, declared values :=
    fun all => bad (all values (by simp [split]))
  have flaw := Row.flaw_of_decode failed
  cases access : e.isAccess with
  | false => exact allOrNothing_escaped (.row split well flaw access) access undeclared
  | true =>
    refine ⟨nofun, nofun, ?_, nofun, ?_, ?_⟩
    · rintro _ ⟨⟩
      exact ⟨nofun, fun all => absurd all undeclared⟩
    · rintro _ text cause ⟨⟩ ⟨⟩
      exact ⟨recorded access, before, values, after, split, well, flaw⟩
    · rintro _ _ ⟨⟩ ⟨⟩ other
      cases access.symm.trans other

variable (isDeclared : ∀ values, declared values ↔
  ∃ row, Row.decode values = .ok row ∧ kind.accepts (kind.key row))
include isDeclared

theorem all_declared_iff {raw : List (List Value)} {rows : List Row}
    (decoded : Row.decodeAll raw = .ok rows) :
    (∀ values ∈ raw, declared values) ↔ ∀ row ∈ rows, kind.accepts (kind.key row) := by
  have rawly := (Row.decodeAll_eq_ok_iff raw rows).mp decoded
  constructor
  · intro all row mem
    obtain ⟨values, there, made⟩ := List.mem_map.mp (rawly ▸ List.mem_map_of_mem mem)
    obtain ⟨row', made', accepted⟩ := (isDeclared values).mp (all values there)
    exact Except.ok.inj (made'.symm.trans made) ▸ accepted
  · intro all values mem
    obtain ⟨row, there, made⟩ := List.mem_map.mp (rawly.symm ▸ List.mem_map_of_mem mem)
    exact (isDeclared values).mpr ⟨row, made.symm, all row there⟩

theorem allOrNothing_decoded {raw : List (List Value)} {rows : List Row} {journal : Journal}
    (decoded : Row.decodeAll raw = .ok rows) :
    AllOrNothing kind declared (.ok raw) (kind.summarize rows) journal := by
  have all := all_declared_iff isDeclared decoded
  rcases kind.summarize_cases rows with ⟨accepted, summaries, made, counts⟩ |
      ⟨row, mem, v, part, name, unkeyable, failed⟩ | ⟨row, mem, other, complaints, failed⟩
  · rw [made]
    refine ⟨nofun, nofun, ?_, ?_, nofun, nofun⟩
    · rintro _ ⟨⟩
      exact ⟨fun _ => all.mpr accepted, fun _ => ⟨summaries, rfl⟩⟩
    · rintro _ _ ⟨⟩ ⟨⟩
      rw [counts, Row.length_of_decodeAll decoded]
  · rw [failed]
    refine allOrNothing_escaped (.unkeyable decoded mem part unkeyable) rfl fun every => ?_
    have keyable := (kind.plain _ (all.mp every row mem) v part).unkeyable?
    cases keyable.symm.trans unkeyable
  · rw [failed]
    exact allOrNothing_escaped (.refused decoded mem other complaints) rfl
      fun every => other (all.mp every row mem)

theorem allOrNothing {reply : Except Failure (List (List Value))}
    {outcome : Except Failure (List S)}
    {journal : Journal} (made : outcome = readRows reply >>= kind.summarize)
    (recorded : readEntries reply ⊆ journal) :
    AllOrNothing kind declared reply outcome journal := by
  subst made
  cases reply with
  | error e =>
    refine ⟨?_, ?_, nofun, nofun, nofun, nofun⟩
    · rintro _ ⟨⟩ fault
      rw [readEntries, if_pos fault] at recorded
      rw [readRows, if_pos fault]
      exact ⟨e.message, rfl, recorded List.mem_cons_self, fun _ => rfl⟩
    · rintro _ ⟨⟩ other
      rw [readRows, if_neg (by simp [other])]
      rfl
  | ok raw =>
    rw [readRows]
    cases decoded : Row.decodeAll raw with
    | ok rows => exact allOrNothing_decoded isDeclared decoded
    | error e =>
      obtain ⟨before, values, after, split, well, failed⟩ :=
        (Row.decodeAll_eq_error_iff raw e).mp decoded
      refine allOrNothing_undecoded split well failed (fun good => ?_) fun access => ?_
      · obtain ⟨row, made, -⟩ := (isDeclared values).mp good
        cases failed.symm.trans made
      · rw [readEntries, decoded] at recorded
        exact recorded (by simp [access])

end Listings

theorem declared_types_iff (values : List Value) : Row.Declared (· ≠ .null) values ↔
    ∃ row, Row.decode values = .ok row ∧ Kind.ofTypes.accepts (Kind.ofTypes.key row) := by
  refine (Row.declared_iff (fun h => h rfl) values).trans (exists_congr fun row => ?_)
  refine and_congr_right fun decoded => and_iff_right ?_
  obtain ⟨_, _, _, _, _, _, -, comment, -, -, rfl⟩ := (Row.decode_eq_ok_iff values row).mp decoded
  exact comment

theorem declared_comments_iff (values : List Value) : Row.Declared Value.IsUuid values ↔
    ∃ row, Row.decode values = .ok row ∧ Kind.ofComments.accepts (Kind.ofComments.key row) :=
  Row.declared_iff (fun ⟨_, read⟩ => by cases read) values

/-- Whatever the session replies, a listing gives each row one user, or it fails. -/
theorem listings_answer_completely_or_fail {σ : Type} (perform : Performer σ) (s : σ)
    (view comment : Option Uuid) :
    (let r := (listComment comment).run perform s;
      AllOrNothing Kind.ofTypes (Row.Declared (· ≠ .null))
        (perform (.joinedRows [.comment comment]) s).outcome r.outcome r.journal) ∧
    (let r := (listView view comment).run perform s;
      AllOrNothing Kind.ofComments (Row.Declared Value.IsUuid)
        (perform (.joinedRows
          (.view view :: (comment.map fun c => Condition.comment (some c)).toList)) s).outcome
        r.outcome r.journal) := by
  have recorded {α : Type} (conditions : List Condition) (f : List Row → Program α) :
      readEntries (perform (.joinedRows conditions) s).outcome ⊆
        ((fetchRows conditions >>= f).run perform s).journal := by
    refine List.Subset.trans ?_ (journal_bind perform s (fetchRows conditions) f)
    rw [run_fetchRows]
    exact List.subset_append_right _ _
  constructor
  · exact allOrNothing declared_types_iff
      (congrArg Prod.fst (result_listComment perform s comment)) (recorded _ _)
  · exact allOrNothing declared_comments_iff
      (congrArg Prod.fst (result_listView perform s view comment)) (recorded _ _)

namespace Unreadable

def name : Value := .bytes [0xff]

def script : Script := .start fun
  | .execute => [.reply { rows := [[.uuid (.ofNat 1), .text "like",
      .stamp ClockText.start, .text "ann", name]] }]
  | _ => []

theorem name_ends_listing :
    let r := (listComment (some (.ofNat 1))).run Script.perform script
    r.outcome = .error (.invalid [⟨[.field "name"], .notUnicode⟩]) ∧ r.journal = [] := by
  have refused : User.ofValues (.text "ann") name =
      .error [⟨[.field "name"], .notUnicode⟩] := by decide +kernel
  have decoded : Row.decodeAll [[.uuid (.ofNat 1), .text "like", .stamp ClockText.start,
      .text "ann", name]] = .error (.invalid [⟨[.field "name"], .notUnicode⟩]) := by
    rw [Row.decodeAll, List.mapM_cons, Row.decode_stamp (by simp [name]), refused]
    rfl
  have failed : (fetchRows [.comment (some (.ofNat 1))]).run Script.perform script =
      ⟨.error (.invalid [⟨[.field "name"], .notUnicode⟩]), [], script.advance .execute⟩ := by
    have replied : Script.perform (.joinedRows [.comment (some (.ofNat 1))]) script =
      ⟨.ok [[.uuid (.ofNat 1), .text "like", .stamp ClockText.start, .text "ann", name]],
        [], script.advance .execute⟩ := rfl
    rw [run_fetchRows, replied]
    simp only [readRows, readEntries, decoded]
    rfl
  have ended : (listComment (some (.ofNat 1))).run Script.perform script =
      ⟨.error (.invalid [⟨[.field "name"], .notUnicode⟩]), [], script.advance .execute⟩ := by
    change (Program.bind _ _).run _ _ = _
    rw [run_bind, failed]
  simp only [ended, and_self]

end Unreadable

end Service

end ReactionLedger
