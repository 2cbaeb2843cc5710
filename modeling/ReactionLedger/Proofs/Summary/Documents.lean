import ReactionLedger.Proofs.Grouping.Rearrangement
import ReactionLedger.Proofs.Listing.Answers
import ReactionLedger.Proofs.Service.Instants
import ReactionLedger.Proofs.Store.Changes
import ReactionLedger.Proofs.Summary.Exchange
import ReactionLedger.Proofs.Uuid
import ReactionLedger.Summary.Document

set_option autoImplicit false

namespace ReactionLedger

def SurvivesAs {S : Type} (fields : S → Fields) (build : Fields → Except (List Complaint) S)
    (s : S) : Prop :=
  ∃ document, documentOf (fields s) = .ok document ∧
    ∃ again, build document = .ok again ∧ again = s ∧ documentOf (fields again) = .ok document

theorem survivesAs_iff {S : Type} {fields : S → Fields}
    {build : Fields → Except (List Complaint) S} {s : S} {document : Fields}
    (made : documentOf (fields s) = .ok document) :
    SurvivesAs fields build s ↔ build document = .ok s := by
  constructor
  · rintro ⟨document', made', again, built, rfl, -⟩
    obtain rfl := Except.ok.inj (made.symm.trans made')
    exact built
  · intro built
    exact ⟨document, made, s, built, rfl, made⟩

theorem TypeSummary.ofFields_document (s : TypeSummary) :
    ofFields s.document =
      (Complaint.about Field.first (Field.aware (.text s.first.exchangeText))).map
        fun first => { s with first } := by
  have label : Field.required s.document Field.label Field.text = .ok s.label := rfl
  have first : Field.required s.document Field.first Field.aware =
    Complaint.about Field.first (Field.aware (.text s.first.exchangeText)) := rfl
  have users : Field.usersOf s.document = .ok s.users := Field.usersFrom_fields 0 s.users
  rw [ofFields, label, first, users]
  cases Field.aware (.text s.first.exchangeText) <;> rfl

theorem CommentSummary.ofFields_document (s : CommentSummary) :
    ofFields s.document =
      (TypeSummary.ofFields s.toTypeSummary.document).map fun types => ⟨types, s.comment⟩ := by
  -- the comment stands behind the other fields, where no look-up of theirs goes
  have types : TypeSummary.ofFields s.document =
      TypeSummary.ofFields s.toTypeSummary.document := by
    have label : s.document.lookup Field.label =
      s.toTypeSummary.document.lookup Field.label := rfl
    have first : s.document.lookup Field.first =
      s.toTypeSummary.document.lookup Field.first := rfl
    have users : s.document.lookup Field.users =
      s.toTypeSummary.document.lookup Field.users := rfl
    simp only [TypeSummary.ofFields, Field.required, Field.usersOf, label, first, users]
  have read : Field.uuid (.text s.comment.text) = .ok s.comment := by
    rw [Field.uuid, Uuid.readExact_text, Except.mapError]
  have comment : Field.required s.document Field.comment Field.uuid = .ok s.comment := by
    have found : s.document.lookup Field.comment = some (.text s.comment.text) := rfl
    simp only [Field.required, found, read, Complaint.about]
  rw [ofFields, types, comment]
  cases TypeSummary.ofFields s.toTypeSummary.document with
  | ok => rfl
  | error => simp [Complaint.listOf, Except.map]

def TypeSummary.Survives (s : TypeSummary) : Prop := SurvivesAs fields ofFields s

def CommentSummary.Survives (s : CommentSummary) : Prop := SurvivesAs fields ofFields s

theorem TypeSummary.survives_iff (s : TypeSummary) : s.Survives ↔ s.first.offset.InMinutes := by
  rw [Survives, survivesAs_iff s.documentOf_fields, ofFields_document,
    ← Field.aware_exchangeText_iff]
  cases Field.aware (.text s.first.exchangeText) with
  | ok first =>
    constructor
    · intro built
      exact congrArg (Except.ok ∘ TypeSummary.first) (Except.ok.inj built)
    · rintro ⟨⟩
      rfl
  | error o => exact iff_of_false nofun nofun

theorem CommentSummary.survives_iff (s : CommentSummary) :
    s.Survives ↔ s.first.offset.InMinutes := by
  rw [← TypeSummary.survives_iff, Survives, survivesAs_iff s.documentOf_fields, ofFields_document,
    TypeSummary.Survives, survivesAs_iff s.toTypeSummary.documentOf_fields]
  cases TypeSummary.ofFields s.toTypeSummary.document with
  | ok types =>
    constructor
    · intro built
      exact congrArg (Except.ok ∘ CommentSummary.toTypeSummary) (Except.ok.inj built)
    · intro built
      obtain rfl := Except.ok.inj built
      rfl
  | error complaints => exact iff_of_false nofun nofun

theorem mapError_eq_ok_iff {ε δ α : Type} {f : ε → δ} {x : Except ε α} {a : α} :
    x.mapError f = .ok a ↔ x = .ok a := by
  cases x <;> simp [Except.mapError]

theorem Stamp.inMinutes_moment_iff (s : Stamp) :
    s.moment.offset.InMinutes ↔ ∀ o ∈ s.offset, o.InMinutes := by
  obtain ⟨date, time, _ | offset⟩ := s
  · exact iff_of_true (dvd_zero _) nofun
  · simp [moment]

namespace Rollup.Kind

theorem exists_row_of_summary {κ S : Type} {kind : Kind κ S} {rows : List Row} {summaries : List S}
    {x : S} (summarized : kind.summarize rows = .ok summaries) (mem : x ∈ summaries) :
    ∃ g, kind.build g = .ok x ∧ ∃ row ∈ rows, g.first = row.created := by
  rw [summarize] at summarized
  rcases Grouping.byKey_cases kind.key kind.parts rows with ⟨_, _, _, _, _, _, failed⟩ | grouped
  · rw [failed] at summarized
    cases summarized
  · rw [grouped] at summarized
    have each := mapM_eq_ok_iff.mp summarized
    obtain ⟨g, there, built⟩ := List.mem_map.mp (each ▸ List.mem_map_of_mem mem)
    obtain ⟨row, inside, first, -⟩ := (Grouping.describes_of_mem_group there).least
    exact ⟨g, mapError_eq_ok_iff.mp built, row, List.mem_of_mem_filter inside, first⟩

theorem first_of_types {g : Group Value} {x : TypeSummary} (built : ofTypes.build g = .ok x) :
    x.first = g.first := by
  obtain ⟨label, -, rfl⟩ := map_eq_ok_iff.mp built
  rfl

theorem first_of_comments {g : Group (Value × Value)} {x : CommentSummary}
    (built : ofComments.build g = .ok x) : x.first = g.first := by
  change CommentSummary.ofParts g.key.1 g.key.2 g.first g.users = _ at built
  unfold CommentSummary.ofParts at built
  split at built
  next types _ =>
    obtain rfl := Except.ok.inj built
    exact first_of_types (g := ⟨g.key.2, g.first, g.users⟩) types
  next => cases built

end Rollup.Kind

def Tables.Dates (t : Tables) (created : Stamp) : Prop :=
  ∃ r ∈ t.reactions, StoredReaction.readTime r.created = .ok (.stamp created)

theorem Tables.exists_date_of_row {t : Tables} {conditions : List Condition}
    {raw : List (List Value)} {rows : List Row} {row : Row} (joined : t.joined conditions = .ok raw)
    (decoded : Row.decodeAll raw = .ok rows) (mem : row ∈ rows) :
    ∃ created, t.Dates created ∧ row.created = created.moment := by
  obtain ⟨xs, pairs, rfl⟩ := exists_shown_of_joined joined
  rw [Reading.decodeAll_values] at decoded
  obtain rfl := Except.ok.inj decoded
  obtain ⟨x, there, rfl⟩ := List.mem_map.mp mem
  have stored : x.pair ∈ t.pairs conditions := pairs ▸ List.mem_map_of_mem there
  exact ⟨x.created, ⟨x.reaction, (mem_pairs.mp stored).1, x.reads_created⟩, rfl⟩

namespace Service

variable {κ S : Type} {kind : Rollup.Kind κ S}

def Decided (w : World) (s : SessionName) (first : Moment) (survives : Prop) : Prop :=
  ∃ t created, w.view s = some t ∧ t.Dates created ∧ first = created.moment ∧
    (survives ↔ ∀ o ∈ created.offset, o.InMinutes)

theorem decoded_of_readRows {replied : Except Failure (List (List Value))} {rows : List Row}
    (read : readRows replied = .ok rows) :
    ∃ raw, replied = .ok raw ∧ Row.decodeAll raw = .ok rows := by
  cases replied with
  | error e => cases read
  | ok raw => exact ⟨raw, rfl, read⟩

theorem decided_of_answered {w : World} {s : SessionName} {conditions : List Condition}
    {first : S → Moment} {Survives : S → Prop} {summaries : List S} {x : S}
    (shown : ∀ g x, kind.build g = .ok x → first x = g.first)
    (survives : ∀ x, Survives x ↔ (first x).offset.InMinutes)
    (answered : (readRows (World.perform s (.joinedRows conditions) w).outcome).bind kind.summarize =
      .ok summaries) (mem : x ∈ summaries) : Decided w s (first x) (Survives x) := by
  obtain ⟨rows, read, summarized⟩ := bind_eq_ok_iff.mp answered
  obtain ⟨raw, replied, decoded⟩ := decoded_of_readRows read
  obtain ⟨t, seen, joined⟩ : ∃ t, w.tables s World.noReactions = .ok t ∧
    t.joined conditions = .ok raw := bind_eq_ok_iff.mp replied
  obtain ⟨g, built, row, there, same⟩ := Rollup.Kind.exists_row_of_summary summarized mem
  obtain ⟨created, dates, moment⟩ := Tables.exists_date_of_row joined decoded there
  have time : first x = created.moment := by rw [shown g x built, same, moment]
  refine ⟨t, created, (World.tables_eq_ok seen).1, dates, time, ?_⟩
  rw [survives, time, Stamp.inMinutes_moment_iff]

namespace Uneven

def view : Uuid := .ofNat 0xa1

def comment : Uuid := .ofNat 0xc1

def main : SessionName := .named "main"

def reaction (id : Nat) (label time : String) : StoredReaction :=
  ⟨id, view.compact, comment.compact, label, "u1", .text time⟩

def tables : Tables where
  reactions := [
    reaction 1 "like" "2024-05-01 12:00:00+02:00:30",
    reaction 2 "love" "2024-05-01 14:00:00.000250-05:30"]
  users := [⟨"u1", "Ada"⟩]

def world : World := { World.initial with committed := some tables }

theorem listed : ∃ x y,
    ((listComment (some comment)).run (World.perform main) world).outcome = .ok [x, y] ∧
      x.label = "like" ∧ x.first.offset.micros = 7230000000 ∧
      y.label = "love" ∧ y.first.offset.micros = -19800000000 := by
  have shown : (((listComment (some comment)).run (World.perform main) world).outcome.toOption.map
      (List.map fun x => (x.label, x.first.offset.micros))) =
        some [("like", 7230000000), ("love", -19800000000)] := by
    cbv
  cases answered : ((listComment (some comment)).run (World.perform main) world).outcome with
  | error e =>
    rw [answered] at shown
    cases shown
  | ok summaries =>
    rw [answered] at shown
    obtain ⟨x, _, rfl, first, rest⟩ := List.map_eq_cons_iff.mp (Option.some.inj shown)
    obtain ⟨y, rfl, second⟩ := List.map_eq_singleton_iff.mp rest
    obtain ⟨label, offset⟩ := Prod.mk.inj first
    obtain ⟨label', offset'⟩ := Prod.mk.inj second
    exact ⟨x, y, rfl, label, offset, label', offset'⟩

theorem listed_summary_does_not_survive : ∃ summaries,
    ((listComment (some comment)).run (World.perform main) world).outcome = .ok summaries ∧
      ∃ x ∈ summaries, ¬ x.Survives := by
  obtain ⟨x, y, answered, -, offset, -⟩ := listed
  refine ⟨[x, y], answered, x, by simp, ?_⟩
  rw [TypeSummary.survives_iff, Offset.InMinutes, offset]
  decide

end Uneven

/-- A summary survives its document just when the offset of its time is a whole number of minutes.
-/
theorem summaries_survive_documents :
    (∀ x : TypeSummary, x.Survives ↔ x.first.offset.InMinutes) ∧
      (∀ x : CommentSummary, x.Survives ↔ x.first.offset.InMinutes) ∧
      ∀ (w : World) (s : SessionName),
        (∀ comment summaries,
          ((listComment comment).run (World.perform s) w).outcome = .ok summaries →
            ∀ x ∈ summaries, Decided w s x.first x.Survives) ∧
        ∀ view comment summaries,
          ((listView view comment).run (World.perform s) w).outcome = .ok summaries →
            ∀ x ∈ summaries, Decided w s x.first x.Survives := by
  refine ⟨TypeSummary.survives_iff, CommentSummary.survives_iff, fun w s => ⟨?_, ?_⟩⟩
  · intro comment summaries answered x mem
    have ended := congrArg Prod.fst (result_listComment (World.perform s) w comment)
    exact decided_of_answered (fun _ _ => Rollup.Kind.first_of_types) TypeSummary.survives_iff
      (ended.symm.trans answered) mem
  · intro view comment summaries answered x mem
    have ended := congrArg Prod.fst (result_listView (World.perform s) w view comment)
    exact decided_of_answered (fun _ _ => Rollup.Kind.first_of_comments)
      CommentSummary.survives_iff (ended.symm.trans answered) mem

namespace Uneven

theorem other_summary_survives : ∃ x y,
    ((listComment (some comment)).run (World.perform main) world).outcome = .ok [x, y] ∧
      Decided world main x.first x.Survives ∧ ¬ x.Survives ∧ y.Survives := by
  obtain ⟨x, y, answered, -, offset, -, offset'⟩ := listed
  obtain ⟨survives, -, listings⟩ := summaries_survive_documents
  refine ⟨x, y, answered, (listings world main).1 _ _ answered x (by simp), ?_, ?_⟩
  · rw [survives, Offset.InMinutes, offset]
    decide
  · rw [survives, Offset.InMinutes, offset']
    decide

end Uneven

end Service

end ReactionLedger
