import ReactionLedger.Proofs.Service.Instants

set_option autoImplicit false

namespace ReactionLedger

open List (Forall₂)

structure Stamp.Denotes (s : Stamp) (m : Moment) : Prop where
  aware : ∀ n ∈ s.moment?, m = n
  naive : s.moment? = none → m = ⟨s.date, s.time, .zero⟩

theorem Stamp.denotes_moment (s : Stamp) : s.Denotes s.moment := by
  obtain ⟨date, time, _ | offset⟩ := s
  · exact ⟨nofun, fun _ => rfl⟩
  · exact ⟨fun n same => Option.some.inj same, nofun⟩

namespace Row

inductive Sound : List Value → Prop
  | row {comment label id name : Value} (created : Stamp) (commented : comment ≠ .null)
      (labelled : label ≠ .null) (author : id.IsText ∧ name.IsText) :
      Sound [comment, label, .stamp created, id, name]

inductive Decoded : List Value → Row → Prop
  | row {comment label id name : Value} {created : Stamp} {time : Moment} {author : User}
      (timed : created.Denotes time) (texts : Field.text id = .ok author.id ∧
        Field.text name = .ok author.name) :
      Decoded [comment, label, .stamp created, id, name] ⟨comment, label, time, author⟩

theorem sound_iff (values : List Value) : Sound values ↔ ∃ row, decode values = .ok row := by
  constructor
  · rintro ⟨created, commented, labelled, ⟨a, textId⟩, b, textName⟩
    exact ⟨_, (decode_eq_ok_iff _ _).mpr ⟨_, _, _, _, _, ⟨a, b⟩, rfl, commented, labelled,
      (User.ofValues_eq_ok_iff _ _ _).mpr ⟨textId, textName⟩, rfl⟩⟩
  · rintro ⟨row, decoded⟩
    obtain ⟨_, _, created, _, _, user, rfl, commented, labelled, author, -⟩ :=
      (decode_eq_ok_iff values row).mp decoded
    obtain ⟨textId, textName⟩ := (User.ofValues_eq_ok_iff _ _ _).mp author
    exact .row created commented labelled ⟨⟨_, textId⟩, _, textName⟩

theorem decoded_of_decode {values : List Value} {row : Row} (decoded : decode values = .ok row) :
    Decoded values row := by
  obtain ⟨_, _, created, _, _, user, rfl, -, -, author, rfl⟩ :=
    (decode_eq_ok_iff values row).mp decoded
  exact .row created.denotes_moment ((User.ofValues_eq_ok_iff _ _ _).mp author)

theorem forall₂_of_decodeAll {raw : List (List Value)} {rows : List Row}
    (decoded : decodeAll raw = .ok rows) :
    Forall₂ (fun values row => decode values = .ok row) raw rows := by
  have pairs := (decodeAll_eq_ok_iff raw rows).mp decoded
  rw [← List.forall₂_eq_eq_eq, List.forall₂_map_left_iff, List.forall₂_map_right_iff] at pairs
  exact pairs

theorem decodeAll_cases (raw : List (List Value)) :
    (∃ rows, decodeAll raw = .ok rows ∧ (∀ values ∈ raw, Sound values) ∧
      Forall₂ Decoded raw rows) ∨
    ∃ before values after e, raw = before ++ values :: after ∧
      (∀ earlier ∈ before, Sound earlier) ∧ decode values = .error e ∧
      decodeAll raw = .error e := by
  cases decoded : decodeAll raw with
  | ok rows =>
    have sound : ∀ values ∈ raw, Sound values := by
      intro values mem
      obtain ⟨row, -, made⟩ := exists_of_mem_mapM decoded mem
      exact (sound_iff values).mpr ⟨row, made⟩
    exact .inl ⟨rows, rfl, sound,
      (forall₂_of_decodeAll decoded).imp fun _ _ => decoded_of_decode⟩
  | error e =>
    obtain ⟨before, values, after, split, well, failed⟩ := (decodeAll_eq_error_iff raw e).mp decoded
    exact .inr ⟨before, values, after, e, split,
      fun earlier mem => (sound_iff earlier).mpr (well earlier mem), failed, rfl⟩

end Row

namespace Service

open Program

section Fetched

variable {σ : Type} (perform : Performer σ) (s : σ) (conditions : List Condition)

def GoesOn (rows : List Row) : Prop :=
  ∀ {α : Type} (f : List Row → Program α),
    let reply := perform (.joinedRows conditions) s
    let r := (f rows).run perform reply.state
    (fetchRows conditions >>= f).run perform s = { r with journal := reply.journal ++ r.journal }

def ended (e : Failure) {α : Type} : Run σ α :=
  let reply := perform (.joinedRows conditions) s
  { outcome := .error e
    journal := reply.journal ++
      if e.isAccess then [⟨.error, "Failed to decode reaction row: " ++ e.message⟩] else []
    state := reply.state }

def EndsIn (e : Failure) : Prop :=
  ∀ {α : Type} (f : List Row → Program α),
    (fetchRows conditions >>= f).run perform s = ended perform s conditions e

variable {perform s conditions} {raw : List (List Value)}
variable (replies : Replies perform s conditions raw)
include replies

theorem goesOn_of_decoded {rows : List Row} (decoded : Row.decodeAll raw = .ok rows) :
    GoesOn perform s conditions rows := by
  intro α f
  change (Program.bind _ _).run perform s = _
  have read : (perform (.joinedRows conditions) s).outcome = .ok raw := replies
  rw [run_bind, run_fetchRows]
  simp only [read, readRows, readEntries, decoded, List.append_nil]

theorem endsIn_of_undecoded {e : Failure} (failed : Row.decodeAll raw = .error e) :
    EndsIn perform s conditions e := by
  intro α f
  change (Program.bind _ _).run perform s = _
  have read : (perform (.joinedRows conditions) s).outcome = .ok raw := replies
  rw [run_bind, run_fetchRows]
  simp only [read, readRows, readEntries, failed, ended]

end Fetched

/-- Either every raw row keeps the contract and is decoded, or a listing ends in the failure of the
first that does not. -/
theorem decoding_is_all_or_nothing (raw : List (List Value)) :
    (∃ rows, (∀ values ∈ raw, Row.Sound values) ∧ Forall₂ Row.Decoded raw rows ∧
      ∀ {σ : Type} (perform : Performer σ) (s : σ),
        (∀ conditions, Replies perform s conditions raw → GoesOn perform s conditions rows) ∧
        (∀ comment, Replies perform s [.comment comment] raw →
          ((listComment comment).run perform s).outcome =
            (do Rollup.types (← Rollup.byLabel rows))) ∧
        ∀ view comment, Replies perform s (viewConditions view comment) raw →
          ((listView view comment).run perform s).outcome =
            (do Rollup.comments (← Rollup.byComment rows))) ∨
    ∃ before values after e, raw = before ++ values :: after ∧
      (∀ earlier ∈ before, Row.Sound earlier) ∧ ¬ Row.Sound values ∧
      Row.decode values = .error e ∧ Row.Flaw values e ∧
      ∀ {σ : Type} (perform : Performer σ) (s : σ),
        (∀ conditions, Replies perform s conditions raw → EndsIn perform s conditions e) ∧
        (∀ comment, Replies perform s [.comment comment] raw →
          (listComment comment).run perform s =
            ended perform s [.comment comment] e) ∧
        ∀ view comment, Replies perform s (viewConditions view comment) raw →
          (listView view comment).run perform s =
            ended perform s (viewConditions view comment) e := by
  rcases Row.decodeAll_cases raw with ⟨rows, decoded, sound, pairs⟩ |
      ⟨before, values, after, e, split, well, failed, undecoded⟩
  · refine .inl ⟨rows, sound, pairs, fun perform s => ⟨fun conditions replies => ?_, ?_, ?_⟩⟩
    · exact goesOn_of_decoded replies decoded
    · exact fun comment replies => outcome_listComment replies decoded
    · exact fun view comment replies => outcome_listView replies decoded
  · have flawed : ¬ Row.Sound values := fun sound => by
      obtain ⟨row, decoded⟩ := (Row.sound_iff values).mp sound
      cases decoded.symm.trans failed
    refine .inr ⟨before, values, after, e, split, well, flawed, failed, Row.flaw_of_decode failed,
      fun perform s => ⟨fun conditions replies => ?_, ?_, ?_⟩⟩
    · exact endsIn_of_undecoded replies undecoded
    · exact fun comment replies => endsIn_of_undecoded replies undecoded _
    · exact fun view comment replies => endsIn_of_undecoded replies undecoded _

namespace Flawed

def first : List Value :=
  [.uuid (.ofNat 1), .text "like", .stamp ClockText.start, .text "ann", .text "Ann"]

def second : List Value := [.uuid (.ofNat 1), .null, .text "soon", .text "bob", .text "Bob"]

def script : Script := .start fun
  | .execute => [.reply { rows := [first, second, []] }]
  | _ => []

theorem null_ends_listing : ∃ e, Row.decode second = .error e ∧
    (listComment (some (.ofNat 1))).run Script.perform script =
      ⟨.error e, [⟨.error, "Failed to decode reaction row: " ++ e.message⟩],
        script.advance .execute⟩ := by
  have sound : Row.Sound first := .row _ nofun nofun ⟨⟨_, rfl⟩, _, rfl⟩
  rcases decoding_is_all_or_nothing [first, second, []] with
    ⟨-, all, -⟩ | ⟨before, values, after, e, split, well, flawed, failed, -, ends⟩
  · cases all second (by simp)
  rcases before with _ | ⟨_, _ | ⟨_, before⟩⟩
  · obtain ⟨rfl, -⟩ := List.cons.inj split
    exact absurd sound flawed
  · obtain ⟨-, rest⟩ := List.cons.inj split
    obtain ⟨rfl, -⟩ := List.cons.inj rest
    refine ⟨e, failed, ?_⟩
    rw [(ends Script.perform script).2.1 (some (.ofNat 1)) rfl]
    obtain rfl := Except.error.inj ((Row.decode_null (by simp)).symm.trans failed)
    rfl
  · obtain ⟨-, rest⟩ := List.cons.inj split
    obtain ⟨rfl, -⟩ := List.cons.inj rest
    cases well second (by simp)

end Flawed

end Service

end ReactionLedger
