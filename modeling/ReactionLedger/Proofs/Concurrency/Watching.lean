import ReactionLedger.Proofs.Concurrency.Orderly
import ReactionLedger.Proofs.Session.Results

/-!
Watching a session for what a write may leave behind.  A watch is a flag that the session's
exchanges raise and lower.  If a rollback lowers it and a flush that the store takes leaves it low,
then it is low whenever a call of the service ends: a write that the store fails is rolled back.
-/

set_option autoImplicit false

namespace ReactionLedger

open Program (Post)
open Service (Answer Job)

structure Watch where
  step : Bool → Exchange → Bool
  rollback : ∀ raised reply, step raised ⟨.rollback, reply⟩ = false
  refused : ∀ raised key e, step raised ⟨.add key, .error e⟩ = raised
  -- all other calls but for flushes
  silent : ∀ raised (c : Call) reply, c.method = .execute ∨ c.method = .refresh →
    step raised ⟨c, reply⟩ = raised
  -- whether or not something was added before
  flushed : ∀ raised reply, (raised = false ∨ ∃ key, raised = step false ⟨.add key, .ok ()⟩) →
    (∀ fault, reply ≠ .error (.store fault)) → step raised ⟨.flush, reply⟩ = false

namespace Watch

open Program Service

variable (W : Watch)

def raised (calls : List Exchange) : Bool := calls.foldl W.step false

theorem raised_concat (calls : List Exchange) (x : Exchange) :
    W.raised (calls ++ [x]) = W.step (W.raised calls) x := by
  rw [raised, List.foldl_append]
  rfl

def Lowered {α : Type} : Post α := fun calls _ _ => W.raised calls = false

def Settles {α : Type} : Post α := fun calls _ outcome =>
  W.raised calls = false ∨ ∃ fault, outcome = .error (.store fault)

variable {W} {α : Type} {calls : List Exchange} {journal : Journal} (key : Key)

theorem raised_silent (c : Call) (quiet : c.method = .execute ∨ c.method = .refresh)
    (low : W.raised calls = false) (reply : Except Failure c.Reply) :
    W.raised (calls ++ [⟨c, reply⟩]) = false := by
  rw [raised_concat, W.silent _ _ _ quiet, low]

theorem raised_flush (low : W.raised calls = false) {reply : Except Failure Unit}
    (taken : ∀ fault, reply ≠ .error (.store fault)) :
    W.raised (calls ++ [⟨.flush, reply⟩]) = false := by
  rw [raised_concat, low, W.flushed _ reply (.inl rfl) taken]

theorem raised_store (low : W.raised calls = false) {reply : Except Failure Unit}
    (taken : ∀ fault, reply ≠ .error (.store fault)) :
    W.raised (calls ++ [⟨.add key, .ok ()⟩] ++ [⟨.flush, reply⟩]) = false := by
  rw [raised_concat, raised_concat, low, W.flushed _ reply (.inr ⟨key, rfl⟩) taken]

theorem lostRace_settles (conflict : StoreFault) :
    (lostRace key conflict).Ensures W.Settles calls journal := by
  rw [lostRace, ensures_bind]
  apply rollbackQuietly_ensures
  intro reply journal
  have low : W.raised (calls ++ [⟨.rollback, reply⟩]) = false :=
    (W.raised_concat _ _).trans (W.rollback _ _)
  rw [before_ok, ensures_bind, ensures_perform]
  rintro (e | _ | stored)
  all_goals exact .inl (raised_silent (.findReaction key) (.inl rfl) low _)

theorem insertReaction_settles (low : W.raised calls = false) :
    (insertReaction key).Ensures W.Settles calls journal := by
  rw [insertReaction, ensures_bind, ensures_perform (.add key)]
  rintro (e | done)
  · exact .inl ((W.raised_concat _ _).trans ((W.refused _ _ _).trans low))
  rw [before_ok, ensures_bind, ensures_handle, ensures_bind, ensures_perform .flush]
  rintro (e | flushed)
  · rw [before_error, guarding_error]
    split
    · exact lostRace_settles key _
    · by_cases store : ∃ fault, e = .store fault
      · obtain ⟨fault, rfl⟩ := store
        exact .inr ⟨fault, rfl⟩
      · exact .inl (raised_store key low fun fault same => store ⟨fault, Except.error.inj same⟩)
  · have low' : W.raised (calls ++ [⟨.add key, .ok done⟩] ++ [⟨.flush, .ok flushed⟩]) = false :=
      raised_store key low fun fault same => by cases same
    change Ensures _ (Program.perform (.refresh key) >>= _) _ _
    rw [ensures_bind, ensures_perform]
    rintro (e | stored)
    all_goals exact .inl (raised_silent (.refresh key) (.inr rfl) low' _)

theorem storeReaction_settles (low : W.raised calls = false) :
    (storeReaction key).Ensures W.Settles calls journal := by
  rw [storeReaction, ensures_bind, ensures_perform (.userKnown key.author)]
  intro known
  have low' : W.raised (calls ++ [⟨.userKnown key.author, known⟩]) = false :=
    raised_silent (.userKnown key.author) (.inl rfl) low known
  rcases known with e | _ | _
  · exact .inl low'
  · exact .inl low'
  rw [before_ok, if_pos rfl, ensures_bind, ensures_perform]
  rintro (e | _ | stored)
  · exact .inl (raised_silent (.findReaction key) (.inl rfl) low' _)
  · exact insertReaction_settles key (raised_silent (.findReaction key) (.inl rfl) low' _)
  · exact .inl (raised_silent (.findReaction key) (.inl rfl) low' _)

theorem deletion_settles (low : W.raised calls = false) :
    (deletion key).Ensures W.Settles calls journal := by
  rw [deletion, ensures_bind, ensures_perform]
  rintro (e | count)
  · exact .inl (raised_silent (.deleteReaction key) (.inl rfl) low _)
  have low' : W.raised (calls ++ [⟨.deleteReaction key, .ok count⟩]) = false :=
    raised_silent (.deleteReaction key) (.inl rfl) low _
  rw [before_ok, ensures_bind, ensures_perform .flush]
  rintro (e | flushed)
  · by_cases store : ∃ fault, e = .store fault
    · obtain ⟨fault, rfl⟩ := store
      exact .inr ⟨fault, rfl⟩
    · exact .inl (raised_flush low' fun fault same => store ⟨fault, Except.error.inj same⟩)
  · exact .inl (raised_flush low' fun fault same => by cases same)

theorem guarded_lowers {failed : String} {body : Program α}
    (settles : body.Ensures W.Settles calls journal) :
    (guarded failed body).Ensures W.Lowered calls journal := by
  refine ensures_guarded _ _ (settles.mono fun calls journal outcome settled => ?_)
  rcases outcome with e | a
  · rw [shielded_error]
    split
    · exact fun reply journal => (W.raised_concat _ _).trans (W.rollback _ _)
    · next other =>
      rcases settled with low | ⟨fault, same⟩
      · exact low
      · cases same
        exact absurd rfl other
  · rcases settled with low | ⟨fault, same⟩
    · exact low
    · cases same

theorem fetchRows_lowers (conditions : List Condition) (low : W.raised calls = false) :
    (fetchRows conditions).Ensures W.Lowered calls journal := by
  have low' (reply : Except Failure (List (List Value))) :
      W.raised (calls ++ [⟨.joinedRows conditions, reply⟩]) = false :=
    raised_silent (.joinedRows conditions) (.inl rfl) low reply
  rw [fetchRows, ensures_bind, ensures_handle, ensures_perform]
  rintro (e | raw)
  · rw [guarding_error, readFailed]
    split <;> exact low' _
  · cases decoded : Row.decodeAll raw with
    | ok rows =>
      simp only [Post.guarding, before_ok, decoded]
      exact low' _
    | error e =>
      simp only [Post.guarding, before_ok, decoded, decodeFailed]
      split <;> exact low' _

-- what follows the fetching makes no calls
theorem listComment_lowers (comment : Option Uuid) (low : W.raised calls = false) :
    (listComment comment).Ensures W.Lowered calls journal := by
  rw [listComment, ensures_bind]
  refine (fetchRows_lowers _ low).mono fun calls journal outcome low => ?_
  rcases outcome with e | rows
  · exact low
  · rw [before_ok, ensures_bind]
    change (Post.before _ _) calls journal (Rollup.byLabel rows)
    cases Rollup.byLabel rows <;> exact low

theorem listView_lowers (view comment : Option Uuid) (low : W.raised calls = false) :
    (listView view comment).Ensures W.Lowered calls journal := by
  rw [listView, ensures_bind]
  refine (fetchRows_lowers _ low).mono fun calls journal outcome low => ?_
  rcases outcome with e | rows
  · exact low
  · rw [before_ok, ensures_bind]
    change (Post.before _ _) calls journal (Rollup.byComment rows)
    cases Rollup.byComment rows <;> exact low

theorem addReaction_lowers (view comment : Option Uuid) (label : String) (user : Option String)
    (low : W.raised calls = false) :
    (addReaction view comment label user).Ensures W.Lowered calls journal := by
  rw [addReaction, ensures_bind]
  cases Label.normalize label with
  | error fault => exact low
  | ok core =>
    change (guarded _ (storeReaction _) >>= _).Ensures _ _ _
    rw [ensures_bind]
    refine (guarded_lowers (storeReaction_settles _ low)).mono fun calls journal outcome low => ?_
    rcases outcome with e | stored | stored <;> exact low

theorem removeReaction_lowers (view comment : Option Uuid) (label : String) (user : Option String)
    (low : W.raised calls = false) :
    (removeReaction view comment label user).Ensures W.Lowered calls journal := by
  change (guarded _ (deletion _) >>= _).Ensures _ _ _
  rw [ensures_bind]
  refine (guarded_lowers (deletion_settles _ low)).mono fun calls journal outcome low => ?_
  rcases outcome with e | count
  · exact low
  · rw [before_ok]
    split <;> exact low

section Sealed

attribute [local irreducible] addReaction removeReaction listComment listView

theorem program_lowers (W : Watch) (job : Job) : job.program.Ensures W.Lowered [] [] := by
  have kept {β : Type} {p : Program β} {f : β → Answer} (ensures : p.Ensures W.Lowered [] []) :
      (p >>= fun a => pure (f a)).Ensures W.Lowered [] [] := by
    rw [ensures_bind]
    refine ensures.mono fun calls journal outcome low => ?_
    rcases outcome with e | a <;> exact low
  cases job with
  | listComment comment => exact kept (listComment_lowers comment rfl)
  | listView view comment => exact kept (listView_lowers view comment rfl)
  | add view comment label user => exact kept (addReaction_lowers view comment label user rfl)
  | remove view comment label user => exact kept (removeReaction_lowers view comment label user rfl)

end Sealed

end Watch

namespace System

/-- The condition holds of the world while the session has no call; while it has one, the condition
may fail only if the watch is raised, and the call will lower it. -/
structure Tended (W : Watch) (P : World → Prop) (s : SessionName) (σ : System) : Prop where
  free : σ.threads s = none → P σ.world
  busy : ∀ job rest, σ.threads s = some ⟨job, rest⟩ → ∃ calls journal,
    rest.Ensures W.Lowered calls journal ∧ (P σ.world ∨ W.raised calls = true)

variable {W : Watch} {P : World → Prop} {s : SessionName} {σ : System}

theorem resume_tended {job : Job} {p : Program Answer} {calls : List Exchange} {journal : Journal}
    (ensures : p.Ensures W.Lowered calls journal) (told : P σ.world ∨ W.raised calls = true) :
    Tended W P s (σ.resume s job p).system := by
  have later := ensures.ahead
  unfold resume
  split
  next entries outcome stopped =>
    rw [stopped] at later
    refine ⟨fun _ => ?_, fun job rest active => by simp [setThread] at active⟩
    exact told.resolve_right (by simp [show W.raised calls = false from later])
  next entries rest _ going =>
    rw [going] at later
    refine ⟨fun free => by simp [setThread] at free, fun job' rest' active => ?_⟩
    simp only [setThread, if_true, Option.some.injEq, Thread.mk.injEq] at active
    obtain ⟨rfl, rfl⟩ := active
    exact ⟨calls, _, later, told⟩

theorem resume_other {r : SessionName} {job : Job} {p : Program Answer} (other : s ≠ r)
    (tended : Tended W P s σ) : Tended W P s (σ.resume r job p).system := by
  have thread (thread : Option Thread) : (σ.setThread r thread).threads s = σ.threads s := by
    simp [setThread, other]
  unfold resume
  split <;>
    exact ⟨fun free => tended.free (by simpa [thread] using free),
      fun job rest active => tended.busy job rest (by simpa [thread] using active)⟩

theorem Tended.kept {w : World} (tended : Tended W P s σ) (kept : P σ.world → P w) :
    Tended W P s { σ with world := w } where
  free free := kept (tended.free free)
  busy job rest active := by
    obtain ⟨calls, journal, ensures, told⟩ := tended.busy job rest active
    exact ⟨calls, journal, ensures, told.imp_left kept⟩

theorem tended_step (tended : Tended W P s σ) (reached : σ.world.Reachable)
    (reply : ∀ raised c, P σ.world ∨ raised = true →
      P (σ.world.reply s c).2 ∨ W.step raised ⟨c, (σ.world.reply s c).1⟩ = true)
    (spared : ∀ w, World.Spares s σ.world w → P σ.world → P w)
    (directory : ∀ change, P σ.world → P (σ.world.changeDirectory s change).2)
    (settle : σ.threads s = none → ∀ how, P σ.world →
      P (Scenario.settleSession s σ.world how).world) (e : Event) :
    Tended W P s (σ.step e).system := by
  have others {m : Move} (other : m.session? ≠ some s) : Tended W P s (σ.move m).system :=
    tended.kept (spared _ (Move.play_spares reached other))
  have moves {r : SessionName} {m : Move} (actor : m.session? = some r)
      (own : s = r → P σ.world → P (m.play σ.world)) : Tended W P s (σ.move m).system := by
    by_cases same : s = r
    · exact tended.kept (own same)
    · exact others (by simpa [actor] using Ne.symm same)
  cases e with
  | start r job =>
    simp only [step]
    split
    next free =>
      by_cases same : s = r
      · subst same
        exact resume_tended (W.program_lowers job) (.inl (tended.free free))
      · exact resume_other same tended
    next => exact tended
  | proceed r =>
    simp only [step]
    split
    next job c next active =>
      by_cases same : s = r
      · subst same
        obtain ⟨calls, journal, ensures, told⟩ := tended.busy _ _ active
        refine resume_tended (ensures _) ?_
        rw [Watch.raised_concat]
        exact reply _ c told
      · have other : (Move.call r c).session? ≠ some s := by
          simpa [Move.session?] using Ne.symm same
        exact resume_other same (others other)
    next => exact tended
  | directory r change =>
    simp only [step]
    split
    next => exact moves rfl fun same => same ▸ directory change
    next => exact tended
  | settle r how =>
    simp only [step]
    split
    next free =>
      refine moves rfl fun same => ?_
      subst same
      exact settle (by simpa using free) how
    next => exact tended
  | task t => exact others (by simp [Move.session?])

end System

end ReactionLedger
