import ReactionLedger.Row

set_option autoImplicit false

namespace ReactionLedger

theorem map_eq_ok_iff {ε α β : Type} {f : α → β} {x : Except ε α} {b : β} :
    x.map f = .ok b ↔ ∃ a, x = .ok a ∧ f a = b := by
  cases x <;> simp [Except.map]

theorem bind_eq_ok_iff {ε α β : Type} {f : α → Except ε β} {x : Except ε α} {b : β} :
    x.bind f = .ok b ↔ ∃ a, x = .ok a ∧ f a = .ok b := by
  cases x <;> simp [Except.bind]

section Traversal

variable {ε α β : Type} {f : α → Except ε β} {xs : List α}

theorem mapM_eq_ok_iff {ys : List β} : xs.mapM f = .ok ys ↔ xs.map f = ys.map .ok := by
  induction xs generalizing ys with
  | nil => cases ys <;> simp [pure, Except.pure]
  | cons x xs ih =>
    rw [List.mapM_cons]
    cases first : f x with
    | error e => cases ys <;> simp [first, bind, Except.bind]
    | ok b =>
      cases rest : xs.mapM f with
      | error e =>
        cases ys with
        | nil => simp [bind, Except.bind]
        | cons y ys =>
          have apart : xs.map f ≠ ys.map .ok := fun same => by simp [rest] at ih; exact ih same
          simp [first, apart, bind, Except.bind]
      | ok bs =>
        have tail : xs.map f = bs.map .ok := ih.mp rest
        cases ys with
        | nil => simp [bind, Except.bind, pure, Except.pure]
        | cons y ys =>
          have injective : bs = ys ↔ bs.map Except.ok = ys.map (Except.ok (ε := ε)) :=
            (List.map_inj_right fun _ _ => Except.ok.inj).symm
          simp [first, tail, injective, bind, Except.bind, pure, Except.pure]

theorem exists_of_mem_mapM {ys : List β} {x : α} (made : xs.mapM f = .ok ys) (mem : x ∈ xs) :
    ∃ y ∈ ys, f x = .ok y := by
  obtain ⟨y, there, same⟩ := List.mem_map.mp (mapM_eq_ok_iff.mp made ▸ List.mem_map_of_mem mem)
  exact ⟨y, there, same.symm⟩

theorem mapM_eq_error_iff {e : ε} : xs.mapM f = .error e ↔
    ∃ before x after, xs = before ++ x :: after ∧ (∀ y ∈ before, ∃ b, f y = .ok b) ∧
      f x = .error e := by
  induction xs with
  | nil => simp [pure, Except.pure]
  | cons x xs ih =>
    rw [List.mapM_cons]
    cases first : f x with
    | error d =>
      constructor
      · intro failed
        exact ⟨[], x, xs, rfl, by simp, by simpa [bind, Except.bind, first] using failed⟩
      · rintro ⟨_ | ⟨y, before⟩, z, after, split, well, failed⟩
        · obtain ⟨rfl, -⟩ := List.cons.inj split
          simpa [bind, Except.bind, first] using failed
        · obtain ⟨rfl, -⟩ := List.cons.inj split
          obtain ⟨b, done⟩ := well x List.mem_cons_self
          simp [first] at done
    | ok b =>
      have later : (xs.mapM f = .error e) ↔
          (do let bs ← xs.mapM f; pure (b :: bs) : Except ε (List β)) = .error e := by
        cases xs.mapM f <;> simp [bind, Except.bind, pure, Except.pure]
      refine later.symm.trans (ih.trans ?_)
      constructor
      · rintro ⟨before, z, after, rfl, well, failed⟩
        refine ⟨x :: before, z, after, rfl, fun y mem => ?_, failed⟩
        rcases List.mem_cons.mp mem with rfl | old
        · exact ⟨b, first⟩
        · exact well y old
      · rintro ⟨_ | ⟨y, before⟩, z, after, split, well, failed⟩
        · obtain ⟨rfl, -⟩ := List.cons.inj split
          simp [first] at failed
        · obtain ⟨rfl, rfl⟩ := List.cons.inj split
          exact ⟨before, z, after, rfl, fun y mem => well y (List.mem_cons_of_mem _ mem), failed⟩

end Traversal

def Value.IsText (v : Value) : Prop := ∃ s, Field.text v = .ok s

theorem User.ofValues_eq_ok_iff (id name : Value) (user : User) :
    User.ofValues id name = .ok user ↔
      Field.text id = .ok user.id ∧ Field.text name = .ok user.name := by
  obtain ⟨a, b⟩ := user
  unfold User.ofValues
  cases Field.text id <;> cases Field.text name <;> simp [Complaint.about]

namespace Row

inductive Flaw (values : List Value) : Failure → Prop
  | width (other : values.length ≠ Row.columns) (text : String) : Flaw values (.value text)
  | null (full : values.length = Row.columns) (null : .null ∈ values) :
      Flaw values (.access
        ("Unexpected null column in reaction row: " ++ Value.tupleLiteral values) none)
  | time {comment label created id name : Value}
      (shape : values = [comment, label, created, id, name])
      (full : .null ∉ values) (other : ∀ s, created ≠ .stamp s) :
      Flaw values (.access ("Malformed reaction timestamp: " ++ created.literal) none)
  | author {comment label id name : Value} {created : Stamp}
      (shape : values = [comment, label, .stamp created, id, name]) (full : .null ∉ values)
      (other : ¬ (id.IsText ∧ name.IsText)) (complaints : List Complaint) :
      Flaw values (.invalid complaints)

theorem any_isNull_iff (values : List Value) : values.any Value.isNull = true ↔ .null ∈ values := by
  simp [List.any_eq_true, Value.isNull_iff]

theorem eq_of_full {values : List Value} (full : values.length = Row.columns) :
    ∃ comment label created id name, values = [comment, label, created, id, name] := by
  rcases values with _ | ⟨a, _ | ⟨b, _ | ⟨c, _ | ⟨d, _ | ⟨e, _ | ⟨_, _⟩⟩⟩⟩⟩⟩ <;>
    simp [columns] at full
  exact ⟨a, b, c, d, e, rfl⟩

section Checks

variable {values : List Value} {comment label created id name : Value}

theorem decode_width (other : values.length ≠ Row.columns) :
    ∃ text, decode values = .error (.value text) := by
  unfold decode
  split
  next => exact absurd rfl other
  next => exact ⟨_, rfl⟩

theorem decode_null (null : .null ∈ [comment, label, created, id, name]) :
    decode [comment, label, created, id, name] = .error (.access ("Unexpected null column in " ++
      "reaction row: " ++ Value.tupleLiteral [comment, label, created, id, name]) none) :=
  if_pos ((any_isNull_iff _).mpr null)

variable (full : .null ∉ [comment, label, created, id, name])
include full

theorem decode_time (other : ∀ s, created ≠ .stamp s) :
    decode [comment, label, created, id, name] =
      .error (.access ("Malformed reaction timestamp: " ++ created.literal) none) := by
  rw [← any_isNull_iff] at full
  refine (if_neg full).trans ?_
  cases created with
  | stamp s => exact absurd rfl (other s)
  | _ => rfl

omit full in
theorem decode_stamp {created : Stamp} (full : .null ∉ [comment, label, .stamp created, id, name]) :
    decode [comment, label, .stamp created, id, name] =
      ((User.ofValues id name).map fun user =>
        (⟨comment, label, created.moment, user⟩ : Row)).mapError .invalid := by
  rw [← any_isNull_iff] at full
  refine (if_neg full).trans ?_
  cases User.ofValues id name <;> rfl

end Checks

theorem flaw_of_decode {values : List Value} {e : Failure} (failed : decode values = .error e) :
    Flaw values e := by
  by_cases full : values.length = Row.columns
  · obtain ⟨comment, label, created, id, name, rfl⟩ := eq_of_full full
    by_cases null : .null ∈ [comment, label, created, id, name]
    · rw [decode_null null] at failed
      exact Except.error.inj failed ▸ .null full null
    · by_cases timed : ∃ s, created = .stamp s
      · obtain ⟨s, rfl⟩ := timed
        rw [decode_stamp null] at failed
        cases author : User.ofValues id name with
        | ok user =>
          rw [author] at failed
          cases failed
        | error complaints =>
          rw [author] at failed
          obtain rfl : .invalid complaints = e := Except.error.inj failed
          refine .author rfl null (fun texts => ?_) complaints
          obtain ⟨⟨a, left⟩, b, right⟩ := texts
          rw [(User.ofValues_eq_ok_iff id name ⟨a, b⟩).mpr ⟨left, right⟩] at author
          cases author
      · have other : ∀ s, created ≠ .stamp s := not_exists.mp timed
        rw [decode_time null other] at failed
        exact Except.error.inj failed ▸ .time rfl null other
  · obtain ⟨text, refused⟩ := decode_width full
    rw [refused] at failed
    exact Except.error.inj failed ▸ .width full text

theorem decode_eq_ok_iff (values : List Value) (row : Row) :
    decode values = .ok row ↔ ∃ comment label created id name user,
      values = [comment, label, .stamp created, id, name] ∧ comment ≠ .null ∧ label ≠ .null ∧
        User.ofValues id name = .ok user ∧ row = ⟨comment, label, created.moment, user⟩ := by
  constructor
  · intro decoded
    have sound {e : Failure} : decode values ≠ .error e := by simp [decoded]
    have full : values.length = Row.columns :=
      Classical.byContradiction fun other => sound (decode_width other).choose_spec
    obtain ⟨comment, label, created, id, name, rfl⟩ := eq_of_full full
    have null : .null ∉ [comment, label, created, id, name] := fun null => sound (decode_null null)
    have timed : ∃ s, created = .stamp s :=
      Classical.byContradiction fun other => sound (decode_time null (not_exists.mp other))
    obtain ⟨s, rfl⟩ := timed
    rw [decode_stamp null] at decoded
    cases author : User.ofValues id name with
    | error complaints =>
      rw [author] at decoded
      cases decoded
    | ok user =>
      refine ⟨comment, label, s, id, name, user, rfl, ?_, ?_, author, ?_⟩
      · exact fun same => null (by simp [same])
      · exact fun same => null (by simp [same])
      · rw [author] at decoded
        exact (Except.ok.inj decoded).symm
  · rintro ⟨comment, label, created, id, name, user, rfl, someComment, someLabel, author, rfl⟩
    obtain ⟨textId, textName⟩ := (User.ofValues_eq_ok_iff id name user).mp author
    have null : .null ∉ [comment, label, .stamp created, id, name] := by
      have someId : id ≠ .null := fun same => by simp [same, Field.text] at textId
      have someName : name ≠ .null := fun same => by simp [same, Field.text] at textName
      simp [someComment.symm, someLabel.symm, someId.symm, someName.symm]
    rw [decode_stamp null, author]
    rfl

theorem decodeAll_eq_ok_iff (raw : List (List Value)) (rows : List Row) :
    decodeAll raw = .ok rows ↔ raw.map decode = rows.map .ok := mapM_eq_ok_iff

theorem length_of_decodeAll {raw : List (List Value)} {rows : List Row}
    (decoded : decodeAll raw = .ok rows) : rows.length = raw.length := by
  have lengths := congrArg List.length ((decodeAll_eq_ok_iff raw rows).mp decoded)
  simpa using lengths.symm

theorem decodeAll_eq_error_iff (raw : List (List Value)) (e : Failure) :
    decodeAll raw = .error e ↔ ∃ before values after, raw = before ++ values :: after ∧
      (∀ earlier ∈ before, ∃ row, decode earlier = .ok row) ∧ decode values = .error e :=
  mapM_eq_error_iff

end Row

end ReactionLedger
