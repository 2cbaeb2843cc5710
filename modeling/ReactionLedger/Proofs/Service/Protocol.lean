import ReactionLedger.Proofs.Service.Failing
import ReactionLedger.Proofs.Service.Rollbacks

set_option autoImplicit false

namespace ReactionLedger

namespace Program

variable {σ α : Type} {perform : Performer σ}

-- a session that records nothing leaves all entries to the program
theorem Ensures.run_silent (silent : ∀ c s, (perform c s).journal = []) {post : Post α}
    {p : Program α} {calls : List Exchange} {journal : Journal}
    (ensures : p.Ensures post calls journal) (s : σ) :
    post (calls ++ p.trace perform s) (journal ++ (p.run perform s).journal)
      (p.run perform s).outcome := by
  induction p generalizing calls journal s with
  | done outcome =>
    rw [trace, Program.run, List.append_nil, List.append_nil]
    exact ensures
  | note entry p ih =>
    have rest := ih ensures s
    rwa [List.append_assoc] at rest
  | call c next ih =>
    have rest := ih _ (ensures (perform c s).outcome) (perform c s).state
    rw [List.append_assoc] at rest
    simpa [trace, Program.run, silent] using rest

end Program

namespace Service

open Program

def FailByStore (calls : List Exchange) : Prop :=
  ∀ c e, (⟨c, .error e⟩ : Exchange) ∈ calls → c ≠ .rollback → e.isStore = true

def failure? : Exchange → Option Failure
  | ⟨.rollback, _⟩ => none
  | ⟨_, .error e⟩ => some e
  | ⟨_, .ok _⟩ => none

def lastFailure? (calls : List Exchange) : Option Failure := (calls.filterMap failure?).getLast?

section Failures

variable {calls : List Exchange} {c : Call} {e : Failure}

theorem failure?_error (own : c ≠ .rollback) : failure? ⟨c, .error e⟩ = some e := by
  cases c with
  | rollback => exact absurd rfl own
  | _ => rfl

theorem failure?_ok (a : c.Reply) : failure? ⟨c, .ok a⟩ = none := by
  cases c <;> rfl

theorem lastFailure?_failed (own : c ≠ .rollback) :
    lastFailure? (calls ++ [⟨c, .error e⟩]) = some e := by
  simp [lastFailure?, List.filterMap_append, failure?_error own]

theorem lastFailure?_answered (a : c.Reply) :
    lastFailure? (calls ++ [⟨c, .ok a⟩]) = lastFailure? calls := by
  simp [lastFailure?, List.filterMap_append, failure?_ok]

theorem lastFailure?_rollback (reply : Except Failure Unit) :
    lastFailure? (calls ++ [⟨.rollback, reply⟩]) = lastFailure? calls := by
  simp [lastFailure?, List.filterMap_append, failure?]

end Failures

def errors (journal : Journal) : Journal := journal.filter fun entry => entry.level = .error

theorem errors_concat (journal : Journal) {level : LogLevel} (other : level ≠ .error)
    (text : String) : errors (journal ++ [⟨level, text⟩]) = errors journal := by
  simp [errors, List.filter_append, other]

theorem errors_concat_error (journal : Journal) (text : String) :
    errors (journal ++ [⟨.error, text⟩]) = errors journal ++ [⟨.error, text⟩] := by
  simp [errors, List.filter_append]

def opening (key : Key) : List Call := [.userKnown key.author, .findReaction key, .add key]

def straightCalls (key : Key) : List Call := opening key ++ [.flush, .refresh key]

def conflictCalls (key : Key) : List Call := opening key ++ [.flush, .rollback, .findReaction key]

inductive Storing (key : Key) : List Exchange → Except Failure Added → Prop
  | well {calls : List Exchange} {added : Added} (smooth : Smooth calls)
      (made : calls.map Sigma.fst <+: straightCalls key) : Storing key calls (.ok added)
  | stranger :
      Storing key [⟨.userKnown key.author, .ok false⟩] (.error (.unknownUser key.author))
  | failed {calls : List Exchange} {c : Call} {e : Failure} (smooth : Smooth calls)
      (made : calls.map Sigma.fst ++ [c] <+: straightCalls key) (other : ¬ Refusal c e) :
      Storing key (calls ++ [⟨c, .error e⟩]) (.error e)
  | lost {calls : List Exchange} {origin : Origin} {text : String} {reply : Except Failure Unit}
      {found : Except Failure (Option Reaction)} {outcome : Except Failure Added}
      (smooth : Smooth calls) (made : calls.map Sigma.fst = opening key)
      (reread : reread (.integrity origin text) found = outcome) :
      Storing key
        (calls ++ [⟨.flush, .error (.store (.integrity origin text))⟩] ++ [⟨.rollback, reply⟩] ++
          [⟨.findReaction key, found⟩])
        outcome

inductive Deleting (key : Key) : List Exchange → Except Failure Int → Prop
  | well (count : Int) :
      Deleting key [⟨.deleteReaction key, .ok count⟩, ⟨.flush, .ok ()⟩] (.ok count)
  | undeleted (e : Failure) : Deleting key [⟨.deleteReaction key, .error e⟩] (.error e)
  | unflushed (count : Int) (e : Failure) :
      Deleting key [⟨.deleteReaction key, .ok count⟩, ⟨.flush, .error e⟩] (.error e)

def Unerring {α : Type} (ends : List Exchange → Except Failure α → Prop) : Post α :=
  fun calls journal outcome => ends calls outcome ∧ errors journal = []

section Bodies

variable {key : Key} {calls : List Exchange} {journal : Journal}

theorem rollbackQuietly_unerring {post : Post Unit} (clean : errors journal = [])
    (resumed : ∀ reply journal, errors journal = [] →
      post (calls ++ [⟨.rollback, reply⟩]) journal (.ok ())) :
    rollbackQuietly.Ensures post calls journal := by
  rw [rollbackQuietly, ensures_handle, ensures_perform .rollback]
  intro reply
  cases reply with
  | error e => exact resumed _ _ ((errors_concat journal (by decide) _).trans clean)
  | ok done => exact resumed _ _ clean

theorem lostRace_unerring (smooth : Smooth calls) (made : calls.map Sigma.fst = opening key)
    (clean : errors journal = []) (origin : Origin) (text : String) :
    (lostRace key (.integrity origin text)).Ensures (Unerring (Storing key))
      (calls ++ [⟨.flush, .error (.store (.integrity origin text))⟩]) journal := by
  rw [lostRace, ensures_bind]
  apply rollbackQuietly_unerring clean
  intro reply journal clean
  rw [before_ok, ensures_bind, ensures_perform]
  intro found
  have lost : Storing key
      (calls ++ [⟨.flush, .error (.store (.integrity origin text))⟩] ++ [⟨.rollback, reply⟩] ++
        [⟨.findReaction key, found⟩]) (reread (.integrity origin text) found) :=
    .lost smooth made rfl
  rcases found with e | _ | stored
  · exact ⟨lost, clean⟩
  · exact ⟨lost, clean⟩
  · exact ⟨lost, (errors_concat journal (by decide) _).trans clean⟩

theorem insertReaction_unerring (smooth : Smooth calls)
    (made : calls.map Sigma.fst = [.userKnown key.author, .findReaction key])
    (clean : errors journal = []) :
    (insertReaction key).Ensures (Unerring (Storing key)) calls journal := by
  rw [insertReaction, ensures_bind, ensures_perform (.add key)]
  rintro (e | done)
  · exact ⟨.failed smooth (by simp [made, straightCalls, opening]) (not_refusal (by simp)), clean⟩
  have smooth₁ : Smooth (calls ++ [⟨.add key, .ok done⟩]) := smooth.concat done
  have made₁ : (calls ++ [(⟨.add key, .ok done⟩ : Exchange)]).map Sigma.fst = opening key := by
    simp [made, opening]
  rw [before_ok, ensures_bind, ensures_handle, ensures_bind, ensures_perform .flush]
  rintro (e | flushed)
  · rw [before_error, guarding_error]
    split
    · exact lostRace_unerring smooth₁ made₁ clean _ _
    · next other =>
      refine ⟨.failed smooth₁ (by rw [made₁]; simp [straightCalls]) fun refused => ?_, clean⟩
      obtain ⟨-, origin, text, same⟩ := refused
      exact other origin text same
  · have smooth₂ := smooth₁.concat (c := .flush) flushed
    change Ensures _ (Program.perform (.refresh key) >>= _) _ _
    rw [ensures_bind, ensures_perform]
    rintro (e | stored)
    · refine ⟨.failed smooth₂ ?_ (not_refusal (by simp)), clean⟩
      rw [List.map_append, made₁]
      simp [straightCalls]
    · refine ⟨.well (smooth₂.concat (c := .refresh key) stored) ?_, clean⟩
      rw [List.map_append, List.map_append, made₁]
      simp [straightCalls]

theorem storeReaction_unerring : (storeReaction key).Ensures (Unerring (Storing key)) [] [] := by
  rw [storeReaction, ensures_bind, ensures_perform (.userKnown key.author)]
  rintro (e | known)
  · exact ⟨.failed smooth_nil (by simp [straightCalls, opening]) (not_refusal (by simp)), rfl⟩
  cases known with
  | false => exact ⟨.stranger, rfl⟩
  | true =>
    have smooth₁ := smooth_nil.concat (c := .userKnown key.author) true
    rw [before_ok, if_pos rfl, ensures_bind, ensures_perform]
    rintro (e | found)
    · exact ⟨.failed smooth₁ (by simp [straightCalls, opening]) (not_refusal (by simp)), rfl⟩
    have smooth₂ := smooth₁.concat (c := .findReaction key) found
    cases found with
    | none => exact insertReaction_unerring smooth₂ rfl rfl
    | some stored => exact ⟨.well smooth₂ (by simp [straightCalls, opening]), rfl⟩

theorem deletion_unerring : (deletion key).Ensures (Unerring (Deleting key)) [] [] := by
  rw [deletion, ensures_bind, ensures_perform]
  rintro (e | count)
  · exact ⟨.undeleted e, rfl⟩
  rw [before_ok, ensures_bind, ensures_perform .flush]
  rintro (e | flushed)
  · exact ⟨.unflushed count e, rfl⟩
  · exact ⟨.well count, rfl⟩

end Bodies

inductive Concludes {α : Type} (failed : String) (ends : List Exchange → Except Failure α → Prop) :
    List Exchange → Journal → Except Failure α → Prop
  | well {calls : List Exchange} {a : α} (ended : ends calls (.ok a)) :
      Concludes failed ends calls [] (.ok a)
  | wrapped {calls : List Exchange} {e : Failure} {reply : Except Failure Unit}
      (ended : ends calls (.error e)) (store : e.isStore = true) :
      Concludes failed ends (calls ++ [⟨.rollback, reply⟩])
        [⟨.error, failed ++ ": " ++ e.message⟩] (.error (.access failed (some e)))
  | passed {calls : List Exchange} {e : Failure} (ended : ends calls (.error e))
      (other : e.isStore = false) : Concludes failed ends calls [] (.error e)

theorem guarded_concludes {α : Type} {ends : List Exchange → Except Failure α → Prop}
    {failed : String} {body : Program α} (ensures : body.Ensures (Unerring ends) [] []) :
    (guarded failed body).Ensures (fun calls journal outcome =>
      Concludes failed ends calls (errors journal) outcome) [] [] := by
  rw [guarded, ensures_handle]
  refine ensures.mono fun calls journal outcome held => ?_
  obtain ⟨ended, clean⟩ := held
  cases outcome with
  | ok a =>
    change Concludes failed ends calls (errors journal) (.ok a)
    rw [clean]
    exact .well ended
  | error e =>
    rw [guarding_error]
    split
    next store =>
      rw [ensures_bind]
      apply rollbackQuietly_unerring clean
      intro reply journal clean
      change Concludes failed ends _ (errors (journal ++ [⟨.error, _⟩])) _
      rw [errors_concat_error, clean]
      exact .wrapped ended store
    next other =>
      change Concludes failed ends calls (errors journal) (.error e)
      rw [clean]
      exact .passed ended (by simpa using other)

def closing {α : Type} : Except Failure α → List Call
  | .error (.access _ _) => [.rollback]
  | _ => []

def reported {α : Type} : Except Failure α → Journal
  | .error (.access text (some e)) => [⟨.error, text ++ ": " ++ e.message⟩]
  | _ => []

structure Reports {α : Type} (failed : String) (calls : List Exchange) (recorded : Journal)
    (outcome : Except Failure α) : Prop where
  cause : ∀ text cause, outcome = .error (.access text cause) →
    text = failed ∧ cause = lastFailure? calls ∧ ∃ fault, cause = some (.store fault)
  recorded : recorded = reported outcome

def Refused (calls : List Exchange) : Prop := ∃ e, Refusal .flush e ∧ ⟨.flush, .error e⟩ ∈ calls

structure AddingProtocol (key : Key) (calls : List Exchange) (recorded : Journal)
    (outcome : Except Failure Reaction) : Prop
    extends Reports "Failed to add reaction" calls recorded outcome where
  straight : ¬ Refused calls → ∃ made, made <+: straightCalls key ∧
    calls.map Sigma.fst = made ++ closing outcome
  conflict : Refused calls → calls.map Sigma.fst = conflictCalls key ++ closing outcome
  rollbacks : (calls.map Sigma.fst).count .rollback ≤ 2
  refreshed : ∀ k reply, ⟨.refresh k, reply⟩ ∈ calls → ⟨.flush, .ok ()⟩ ∈ calls
  gone : ∀ e reply after,
    ⟨.flush, .error e⟩ :: ⟨.rollback, reply⟩ :: ⟨.findReaction key, .ok none⟩ :: after <:+ calls →
      outcome = .error (.access "Failed to add reaction" (some e))
  ends : ∀ e, outcome = .error e → (∃ fault, e = .label fault ∧ calls = []) ∨
    (e = .unknownUser key.author ∧ calls = [⟨.userKnown key.author, .ok false⟩]) ∨
      e.isAccess = true

structure RemovingProtocol (key : Key) (calls : List Exchange) (recorded : Journal)
    (outcome : Except Failure Bool) : Prop
    extends Reports "Failed to remove reaction" calls recorded outcome where
  deleted : (∃ count, ⟨.deleteReaction key, .ok count⟩ ∈ calls) →
    calls.map Sigma.fst = [.deleteReaction key, .flush] ++ closing outcome
  undeleted : (¬ ∃ count, ⟨.deleteReaction key, .ok count⟩ ∈ calls) →
    calls.map Sigma.fst = [.deleteReaction key] ++ closing outcome
  ends : ∀ e, outcome = .error e → e.isAccess = true

section Failed

variable {key : Key} {calls : List Exchange} {recorded : Journal} {e : Failure}

theorem exists_fault (store : e.isStore = true) : ∃ fault, e = .store fault := by
  cases e with
  | store fault => exact ⟨fault, rfl⟩
  | _ => cases store

theorem isStore_of_lastFailure? (faults : FailByStore calls) (last : lastFailure? calls = some e) :
    e.isStore = true := by
  obtain ⟨⟨c, reply⟩, mem, failed⟩ := List.mem_filterMap.mp (List.mem_of_getLast? last)
  by_cases own : c = .rollback
  · subst own
    cases failed
  · cases reply with
    | ok a =>
      rw [failure?_ok] at failed
      cases failed
    | error d =>
      rw [failure?_error own] at failed
      exact Option.some.inj failed ▸ faults c d mem own

theorem own_of_straight {c : Call} {made : List Call}
    (straight : made ++ [c] <+: straightCalls key) : c ≠ .rollback := by
  rintro rfl
  have inside := straight.subset (List.mem_append_right made List.mem_cons_self)
  simp [straightCalls, opening] at inside

theorem last_of_storing (storing : Storing key calls (.error e)) :
    (e = .unknownUser key.author ∧ calls = [⟨.userKnown key.author, .ok false⟩]) ∨
      lastFailure? calls = some e := by
  cases storing with
  | stranger => exact .inl ⟨rfl, rfl⟩
  | failed smooth made other => exact .inr (lastFailure?_failed (own_of_straight made))
  | @lost calls origin text reply found _ smooth made reread =>
    right
    rcases found with d | _ | stored
    · obtain rfl := Except.error.inj reread
      exact lastFailure?_failed (c := .findReaction key) nofun
    · obtain rfl := Except.error.inj reread
      rw [lastFailure?_answered (c := .findReaction key) none, lastFailure?_rollback]
      exact lastFailure?_failed (c := .flush) nofun
    · cases reread

theorem last_of_deleting (deleting : Deleting key calls (.error e)) :
    lastFailure? calls = some e := by
  cases deleting with
  | undeleted e => rfl
  | unflushed count e => rfl

theorem reports_of_concludes {α β : Type} (f : α → β) {failed : String}
    {ends : List Exchange → Except Failure α → Prop} {outcome : Except Failure α}
    (last : ∀ calls e, ends calls (.error e) →
      (∃ user, e = .unknownUser user) ∨ lastFailure? calls = some e)
    (faults : FailByStore calls) (concludes : Concludes failed ends calls recorded outcome) :
    Reports failed calls recorded (outcome.map f) := by
  cases concludes with
  | well ended => exact ⟨nofun, rfl⟩
  | @wrapped calls e reply ended store =>
    obtain ⟨fault, rfl⟩ := exists_fault store
    refine ⟨?_, rfl⟩
    rintro text cause ⟨⟩
    refine ⟨rfl, ?_, fault, rfl⟩
    rw [lastFailure?_rollback]
    exact ((last _ _ ended).resolve_left (by simp)).symm
  | @passed calls e ended other =>
    rcases last _ _ ended with ⟨user, rfl⟩ | last
    · exact ⟨nofun, rfl⟩
    · exact absurd (isStore_of_lastFailure? faults last) (by simp [other])

end Failed

section Calls

variable {α : Type} {key : Key} {calls rest : List Exchange} {outcome : Except Failure α}

theorem closing_subset (outcome : Except Failure α) : closing outcome ⊆ [.rollback] := by
  unfold closing
  split <;> simp

theorem fst_of_closed (closed : rest.map Sigma.fst = closing outcome) {x : Exchange}
    (mem : x ∈ rest) : x.1 = .rollback :=
  List.mem_singleton.mp (closing_subset outcome (closed ▸ List.mem_map_of_mem mem))

theorem suffix_of_not_mem {β : Type} {x : β} {after front back : List β} (absent : x ∉ front)
    (suffix : x :: after <:+ front ++ back) : x :: after <:+ back := by
  induction front with
  | nil => exact suffix
  | cons y front ih =>
    cases List.suffix_cons_iff.mp suffix with
    | inl same => exact absurd ((List.cons.inj same).1 ▸ List.mem_cons_self) absent
    | inr later => exact ih (fun mem => absent (List.mem_cons_of_mem y mem)) later

theorem Smooth.flushed (smooth : Smooth calls) (mem : .flush ∈ calls.map Sigma.fst) :
    ⟨.flush, .ok ()⟩ ∈ calls := by
  obtain ⟨⟨c, reply⟩, inside, same⟩ := List.mem_map.mp mem
  dsimp only at same
  subst same
  cases reply with
  | error e => cases smooth .flush e inside
  | ok done => exact inside

theorem Smooth.accepted (smooth : Smooth calls) : ¬ Refused calls := by
  rintro ⟨e, -, mem⟩
  cases smooth .flush e mem

-- all calls of the course come before the reading back
theorem eq_of_refreshed {made : List Call} {k : Key} (straight : made <+: straightCalls key)
    (mem : .refresh k ∈ made) : made = opening key ++ [.flush] ++ [.refresh key] := by
  have whole : straightCalls key = opening key ++ [.flush] ++ [.refresh key] := by
    simp [straightCalls]
  rw [whole, List.prefix_concat_iff] at straight
  cases straight with
  | inl all => exact all
  | inr short =>
    have inside := short.subset mem
    simp [opening] at inside

theorem count_rollback_straight {made : List Call} (straight : made <+: straightCalls key) :
    made.count .rollback = 0 := by
  rw [List.count_eq_zero]
  intro mem
  have inside := straight.subset mem
  simp [straightCalls, opening] at inside

theorem length_closing (outcome : Except Failure α) : (closing outcome).length ≤ 1 := by
  unfold closing
  split <;> simp

theorem count_rollback_closing (outcome : Except Failure α) :
    (closing outcome).count .rollback ≤ 1 :=
  List.count_le_length.trans (length_closing outcome)

end Calls

section Adding

variable {key : Key} {calls rest : List Exchange} {recorded : Journal}
variable {outcome : Except Failure Reaction}

theorem adding_of_straight (made : calls.map Sigma.fst <+: straightCalls key)
    (accepted : ¬ Refused calls)
    (refreshed : ∀ k reply, ⟨.refresh k, reply⟩ ∈ calls → ⟨.flush, .ok ()⟩ ∈ calls)
    (closed : rest.map Sigma.fst = closing outcome)
    (ends : ∀ e, outcome = .error e → (∃ fault, e = .label fault ∧ calls ++ rest = []) ∨
      (e = .unknownUser key.author ∧ calls ++ rest = [⟨.userKnown key.author, .ok false⟩]) ∨
        e.isAccess = true)
    (reports : Reports "Failed to add reaction" (calls ++ rest) recorded outcome) :
    AddingProtocol key (calls ++ rest) recorded outcome where
  toReports := reports
  straight _ := ⟨_, made, by rw [List.map_append, closed]⟩
  conflict := by
    rintro ⟨e, refusal, mem⟩
    cases List.mem_append.mp mem with
    | inl inside => exact absurd ⟨e, refusal, inside⟩ accepted
    | inr last => cases fst_of_closed closed last
  rollbacks := by
    have none := count_rollback_straight made
    have one := count_rollback_closing outcome
    rw [List.map_append, closed, List.count_append]
    omega
  refreshed k reply mem := by
    apply List.mem_append_left
    cases List.mem_append.mp mem with
    | inl inside => exact refreshed k reply inside
    | inr last => cases fst_of_closed closed last
  gone e reply after suffix := by
    have later := ((List.suffix_cons _ _).trans suffix).map Sigma.fst
    rw [List.map_append, closed] at later
    have absent : .rollback ∉ calls.map Sigma.fst :=
      List.count_eq_zero.mp (count_rollback_straight made)
    have short := (suffix_of_not_mem absent later).length_le
    have one := length_closing outcome
    simp only [List.map_cons, List.length_cons] at short
    omega
  ends := ends

theorem adding_of_lost {origin : Origin} {text : String} {reply : Except Failure Unit}
    {found : Except Failure (Option Reaction)} (smooth : Smooth calls)
    (made : calls.map Sigma.fst = opening key) (closed : rest.map Sigma.fst = closing outcome)
    (gone : found = .ok none → outcome =
      .error (.access "Failed to add reaction" (some (.store (.integrity origin text)))))
    (ends : ∀ e, outcome = .error e → e.isAccess = true) :
    let all := calls ++ [⟨.flush, .error (.store (.integrity origin text))⟩] ++
      [⟨.rollback, reply⟩] ++ [⟨.findReaction key, found⟩] ++ rest
    Reports "Failed to add reaction" all recorded outcome →
      AddingProtocol key all recorded outcome := by
  intro all reports
  have split : all = calls ++ ⟨.flush, .error (.store (.integrity origin text))⟩ ::
      ⟨.rollback, reply⟩ :: ⟨.findReaction key, found⟩ :: rest := by simp [all]
  have course : all.map Sigma.fst = conflictCalls key ++ closing outcome := by
    simp [split, made, closed, conflictCalls]
  have refused : Refused all :=
    ⟨_, ⟨rfl, origin, text, rfl⟩, split ▸ List.mem_append_right _ List.mem_cons_self⟩
  refine ⟨reports, fun accepted => absurd refused accepted, fun _ => course, ?_, ?_, ?_, ?_⟩
  · have one := count_rollback_closing outcome
    have once : (conflictCalls key).count .rollback = 1 := by simp [conflictCalls, opening]
    rw [course, List.count_append]
    omega
  · intro k reply mem
    have inside : Call.refresh k ∈ all.map Sigma.fst := List.mem_map_of_mem mem
    rw [course] at inside
    cases List.mem_append.mp inside with
    | inl first => simp [conflictCalls, opening] at first
    | inr last => cases List.mem_singleton.mp (closing_subset outcome last)
  · intro e reply after suffix
    rw [split] at suffix
    have flushed := smooth.suffix (c := .flush) nofun suffix
    cases List.suffix_cons_iff.mp flushed with
    | inl same =>
      simp only [List.cons.injEq, Sigma.mk.injEq, heq_eq_eq, true_and] at same
      obtain ⟨refusal, -, absent, -⟩ := same
      rw [gone absent.symm, Except.error.inj refusal]
    | inr later =>
      have inside := (later.map Sigma.fst).subset List.mem_cons_self
      simp only [List.map_cons, closed, List.mem_cons, reduceCtorEq, false_or] at inside
      cases List.mem_singleton.mp (closing_subset outcome inside)
  · exact fun e failed => .inr (.inr (ends e failed))

theorem accepted_of_failed {c : Call} {e : Failure} (smooth : Smooth calls)
    (other : ¬ Refusal c e) : ¬ Refused (calls ++ [⟨c, .error e⟩]) := by
  rintro ⟨d, refusal, mem⟩
  cases List.mem_append.mp mem with
  | inl inside => exact smooth.accepted ⟨d, refusal, inside⟩
  | inr last =>
    cases List.mem_singleton.mp last
    exact other refusal

theorem flushed_of_failed {c : Call} {e : Failure} (smooth : Smooth calls)
    (made : calls.map Sigma.fst ++ [c] <+: straightCalls key) (k : Key)
    (reply : Except Failure Reaction)
    (mem : ⟨.refresh k, reply⟩ ∈ calls ++ [(⟨c, .error e⟩ : Exchange)]) :
    ⟨.flush, .ok ()⟩ ∈ calls ++ [(⟨c, .error e⟩ : Exchange)] := by
  have inside : Call.refresh k ∈ calls.map Sigma.fst ++ [c] := by
    simpa using List.mem_map_of_mem (f := Sigma.fst) mem
  have before := (List.append_inj' (eq_of_refreshed made inside) rfl).1
  refine List.mem_append_left _ (smooth.flushed ?_)
  rw [before]
  exact List.mem_append_right _ List.mem_cons_self

theorem adding_of_concludes {added : Except Failure Added} (faults : FailByStore calls)
    (concludes : Concludes "Failed to add reaction" (Storing key) calls recorded added) :
    AddingProtocol key calls recorded (added.map Added.reaction) := by
  have reports := reports_of_concludes Added.reaction
    (fun _ _ ended => (last_of_storing ended).imp_left fun stranger => ⟨_, stranger.1⟩) faults
    concludes
  cases concludes with
  | @well calls a ended =>
    cases ended with
    | well smooth made =>
      rw [← List.append_nil calls] at reports ⊢
      refine adding_of_straight made smooth.accepted (fun k reply mem => ?_) rfl nofun reports
      have all := eq_of_refreshed made (List.mem_map_of_mem (f := Sigma.fst) mem)
      exact smooth.flushed (by simp [all])
    | @lost calls origin text reply found _ smooth made reread =>
      rcases found with e | _ | stored
      · cases reread
      · cases reread
      · rw [← List.append_nil (calls ++ _ ++ _ ++ _)] at reports ⊢
        exact adding_of_lost smooth made rfl nofun nofun reports
  | @wrapped calls e reply ended store =>
    cases ended with
    | stranger => cases store
    | failed smooth made other =>
      exact adding_of_straight (by simpa using made) (accepted_of_failed smooth other)
        (flushed_of_failed smooth made) rfl (fun e same => by cases same; exact .inr (.inr rfl))
        reports
    | @lost calls origin text reply found _ smooth made reread =>
      refine adding_of_lost smooth made rfl (fun gone => ?_) (fun e same => by cases same; rfl)
        reports
      subst gone
      cases reread
      rfl
  | passed ended other =>
    rcases last_of_storing ended with ⟨rfl, rfl⟩ | last
    · have smooth := smooth_nil.concat (c := .userKnown key.author) false
      have made : [.userKnown key.author] <+: straightCalls key := by
        simp [straightCalls, opening]
      rw [← List.append_nil [_]] at reports ⊢
      refine adding_of_straight made smooth.accepted (by simp) rfl ?_ reports
      rintro e ⟨⟩
      exact .inr (.inl ⟨rfl, rfl⟩)
    · exact absurd (isStore_of_lastFailure? faults last) (by simp [other])

end Adding

theorem removing_of_concludes {key : Key} {calls : List Exchange} {recorded : Journal}
    {count : Except Failure Int} (faults : FailByStore calls)
    (concludes : Concludes "Failed to remove reaction" (Deleting key) calls recorded count) :
    RemovingProtocol key calls recorded (count.map fun n => decide (n ≠ 0)) := by
  have reports := reports_of_concludes (fun n : Int => decide (n ≠ 0))
    (fun _ _ ended => .inr (last_of_deleting ended)) faults concludes
  cases concludes with
  | well ended =>
    cases ended with
    | well =>
      exact ⟨reports, fun _ => rfl, fun none => absurd ⟨_, List.mem_cons_self⟩ none, nofun⟩
  | wrapped ended store =>
    refine ⟨reports, fun ⟨count, mem⟩ => ?_, fun none => ?_, fun e same => by cases same; rfl⟩
    · cases ended with
      | undeleted e => simp at mem
      | unflushed count e => rfl
    · cases ended with
      | undeleted e => rfl
      | unflushed count e => exact absurd ⟨count, by simp⟩ none
  | passed ended other =>
    exact absurd (isStore_of_lastFailure? faults (last_of_deleting ended)) (by simp [other])

section Whole

variable (view comment : Option Uuid) (label : String) (user : Option String)

theorem addReaction_adds :
    (addReaction view comment label user).Ensures
      (fun calls journal outcome => FailByStore calls →
        AddingProtocol ⟨view, comment, Text.trim label, user⟩ calls (errors journal) outcome)
      [] [] := by
  rw [addReaction, ensures_bind]
  cases normal : Label.normalize label with
  | error fault =>
    intro _
    refine @adding_of_straight _ [] [] _ _ List.nil_prefix smooth_nil.accepted (by simp) rfl ?_
      ⟨fun text cause same => ?_, rfl⟩
    · rintro e ⟨⟩
      exact .inl ⟨fault, rfl, rfl⟩
    · cases same
  | ok core =>
    obtain ⟨rfl, -, -⟩ := (Label.normalize_eq_ok_iff label core).mp normal
    change (guarded _ (storeReaction _) >>= _).Ensures _ _ _
    rw [ensures_bind]
    refine (guarded_concludes storeReaction_unerring).mono fun calls journal outcome concludes => ?_
    have adds (faults : FailByStore calls) := adding_of_concludes faults concludes
    rcases outcome with e | reaction | stored
    · exact adds
    · intro faults
      rw [errors_concat journal (by decide)]
      exact adds faults
    · exact adds

theorem removeReaction_removes :
    (removeReaction view comment label user).Ensures
      (fun calls journal outcome => FailByStore calls →
        RemovingProtocol ⟨view, comment, Text.trim label, user⟩ calls (errors journal) outcome)
      [] [] := by
  change (guarded _ (deletion _) >>= _).Ensures _ _ _
  rw [ensures_bind]
  refine (guarded_concludes deletion_unerring).mono fun calls journal outcome concludes => ?_
  have removes (faults : FailByStore calls) := removing_of_concludes faults concludes
  rcases outcome with e | count
  · exact removes
  · rw [before_ok]
    split
    next none =>
      intro faults
      rw [errors_concat journal (by decide)]
      simpa [none, Except.map] using removes faults
    next some =>
      intro faults
      rw [errors_concat journal (by decide)]
      simpa [some, Except.map] using removes faults

end Whole

end Service

namespace Script

variable {α : Type} {s : Script}

theorem journal_perform (c : Call) (s : Script) : (perform c s).journal = [] := rfl

def FailsByStore (s : Script) : Prop :=
  ∀ m, m ≠ .rollback → ∀ e, Step.fail e ∈ s.queue m → e.isStore = true

theorem FailsByStore.advance (faults : s.FailsByStore) (m : Method) :
    (s.advance m).FailsByStore := by
  intro n own e mem
  refine faults n own e ?_
  simp only [Script.advance] at mem
  split at mem
  next same => exact same ▸ List.mem_of_mem_drop mem
  next => exact mem

theorem isStore_of_answer {r : Reply} {c : Call} {e : Failure} (failed : r.answer c = .error e) :
    e.isStore = true := by
  have ambiguous {β : Type} {f : Scalar → β} (failed : r.single.map f = .error e) :
      e.isStore = true := by
    unfold Reply.single at failed
    split at failed
    · cases failed
      rfl
    · cases failed
  cases c with
  | userKnown user => exact ambiguous failed
  | findReaction key => exact ambiguous failed
  | _ => cases failed

theorem FailsByStore.isStore (faults : s.FailsByStore) {c : Call} (own : c ≠ .rollback)
    {e : Failure} (failed : (perform c s).outcome = .error e) : e.isStore = true := by
  change (s.next c.method).answer c = .error e at failed
  unfold next at failed
  cases queue : s.queue c.method with
  | nil =>
    rw [queue] at failed
    exact isStore_of_answer failed
  | cons step steps =>
    rw [queue] at failed
    cases step with
    | fail d =>
      obtain rfl : d = e := Except.error.inj failed
      exact faults c.method (method_ne_rollback own) d (by simp [queue])
    | reply r => exact isStore_of_answer failed

theorem FailsByStore.trace (faults : s.FailsByStore) (p : Program α) :
    Service.FailByStore (p.trace perform s) := by
  induction p generalizing s with
  | done outcome => exact nofun
  | note entry p ih => exact ih faults
  | call c next ih =>
    intro d e mem own
    cases List.mem_cons.mp mem with
    | inl first =>
      obtain rfl : d = c := congrArg Sigma.fst first
      have failed : .error e = (perform d s).outcome := by simpa using first
      exact faults.isStore own failed.symm
    | inr later => exact ih _ (faults.advance c.method) d e later own

theorem calls_of_run (p : Program α) (s : Script) : (p.run perform s).state.calls =
    s.calls ++ (p.trace perform s).map fun x => x.1.method := by
  induction p generalizing s with
  | done outcome => simp [Program.run, Program.trace]
  | note entry p ih => exact ih s
  | call c next ih =>
    have later := ih (perform c s).outcome (s.advance c.method)
    rw [Program.run, Program.trace, List.map_cons]
    refine later.trans ?_
    simp [Script.advance, perform]

end Script

namespace Service

section Sealed

attribute [local irreducible] addReaction removeReaction

/-- On a script that fails by faults of the store, rollbacks apart, the calls of a write follow its
protocol, a failed access has the last failure as its cause, and just such an access is recorded as
an error. -/
theorem writes_follow_protocol (s : Script) (faults : s.FailsByStore) (view comment : Option Uuid)
    (label : String) (user : Option String) :
    let key : Key := ⟨view, comment, Text.trim label, user⟩
    let add := addReaction view comment label user
    let remove := removeReaction view comment label user
    (let r := add.run Script.perform s;
      r.state.calls = s.calls ++ (add.trace Script.perform s).map (fun x => x.1.method) ∧
        AddingProtocol key (add.trace Script.perform s) (errors r.journal) r.outcome) ∧
    (let r := remove.run Script.perform s;
      r.state.calls = s.calls ++ (remove.trace Script.perform s).map (fun x => x.1.method) ∧
        RemovingProtocol key (remove.trace Script.perform s) (errors r.journal) r.outcome) := by
  intro key add remove
  have adds := (addReaction_adds view comment label user).run_silent Script.journal_perform s
  have removes :=
    (removeReaction_removes view comment label user).run_silent Script.journal_perform s
  exact ⟨⟨Script.calls_of_run add s, adds (faults.trace add)⟩,
    ⟨Script.calls_of_run remove s, removes (faults.trace remove)⟩⟩

end Sealed

namespace Vanished

def clash : StoreFault := .integrity .standIn "UNIQUE constraint failed"

def script : Script := .start fun
  | .execute => [.reply { scalar := .value }, .reply {}, .reply {}]
  | .flush => [.fail (.store clash)]
  | .rollback => [.fail (.runtime "connection lost"), .fail (.runtime "connection lost")]
  | _ => []

theorem failsByStore : script.FailsByStore := by
  intro m own e mem
  cases m with
  | rollback => exact absurd rfl own
  | flush =>
    cases List.mem_singleton.mp mem
    rfl
  | _ => simp [script, Script.start] at mem

theorem accepted : Label.normalize "like" = .ok "like" := by decide +kernel

theorem addition_after_clash :
    let add := addReaction none none "like" (some "ann")
    let r := add.run Script.perform script
    AddingProtocol ⟨none, none, "like", some "ann"⟩ (add.trace Script.perform script)
        (errors r.journal) r.outcome ∧
      r.outcome = .error (.access "Failed to add reaction" (some (.store clash))) ∧
      r.state.calls =
        [.execute, .execute, .add, .flush, .rollback, .execute, .rollback] ∧
      (errors r.journal).length = 1 := by
  have trimmed : Text.trim "like" = "like" :=
    ((Label.normalize_eq_ok_iff "like" "like").mp accepted).1.symm
  have protocol :=
    (writes_follow_protocol script failsByStore none none "like" (some "ann")).1.2
  rw [trimmed] at protocol
  refine ⟨protocol, ?_, ?_, ?_⟩
  · rw [addReaction, accepted]; rfl
  · rw [addReaction, accepted]; rfl
  · rw [addReaction, accepted]; rfl

end Vanished

end Service

end ReactionLedger
