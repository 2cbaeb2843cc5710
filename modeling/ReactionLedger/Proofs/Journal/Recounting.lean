import ReactionLedger.Proofs.Journal.Deeds
import ReactionLedger.Proofs.Service.Conduct
import ReactionLedger.Proofs.Service.Reading

set_option autoImplicit false

namespace ReactionLedger

namespace Service

def Job.deed? : Job → Option Deed
  | .add view comment label user => some (.reacted ⟨view, comment, Text.trim label, user⟩)
  | .remove view comment label user => some (.removed ⟨view, comment, Text.trim label, user⟩)
  | _ => none

def infos (journal : Journal) : Journal := journal.filter fun entry => entry.level = .info

def Vain : Exchange → Prop
  | ⟨.findReaction _, .ok (some _)⟩ => True
  | ⟨.deleteReaction _, .ok count⟩ => count = 0
  | ⟨.flush, .error _⟩ => True
  | _ => False

def StoreFaults (calls : List Exchange) : Prop :=
  ∀ c e, (⟨c, .error e⟩ : Exchange) ∈ calls → e.isStore = true

structure Progress where
  pending : List Key
  deeds : List Deed

-- a failed flush has cost the session its work before the rollback comes
def Progress.step (p : Progress) : Exchange → Progress
  | ⟨.add key, .ok _⟩ => { p with pending := p.pending ++ [key] }
  | ⟨.flush, .ok _⟩ => ⟨[], p.deeds ++ p.pending.map .reacted⟩
  | ⟨.flush, .error _⟩ => ⟨[], []⟩
  | ⟨.deleteReaction key, .ok count⟩ =>
    if count = 0 then p else { p with deeds := p.deeds ++ [.removed key] }
  | ⟨.rollback, _⟩ => ⟨[], []⟩
  | _ => p

def progress (calls : List Exchange) : Progress := calls.foldl Progress.step ⟨[], []⟩

theorem progress_concat (calls : List Exchange) (x : Exchange) :
    progress (calls ++ [x]) = (progress calls).step x := by
  rw [progress, List.foldl_append]
  rfl

open Program

variable {calls : List Exchange} {journal : Journal} {key : Key}

theorem deeds_of_rollback (reply : Except Failure Unit) :
    (progress (calls ++ [⟨.rollback, reply⟩])).deeds = [] := by
  rw [progress_concat]
  cases reply <;> rfl

theorem deeds_of_look_up (none : (progress calls).deeds = [])
    (reply : Except Failure (Option Reaction)) :
    (progress (calls ++ [⟨.findReaction key, reply⟩])).deeds = [] := by
  rw [progress_concat]
  cases reply <;> exact none

theorem progress_of_queries (queries : ∀ x ∈ calls, x.1.Queries) : progress calls = ⟨[], []⟩ := by
  induction calls using List.reverseRecOn with
  | nil => rfl
  | append_singleton calls x ih =>
    rw [progress_concat, ih fun y mem => queries y (List.mem_append_left _ mem)]
    obtain ⟨c, reply⟩ := x
    obtain ⟨conditions, rfl⟩ := queries ⟨c, reply⟩ (by simp)
    cases reply <;> rfl

structure Fresh (calls : List Exchange) (p : Progress) : Prop where
  progress : progress calls = p
  useful : ∀ x ∈ calls, ¬ Vain x

theorem fresh_nil : Fresh [] ⟨[], []⟩ := ⟨rfl, fun _ mem => absurd mem List.not_mem_nil⟩

theorem Fresh.concat {p p' : Progress} {x : Exchange} (fresh : Fresh calls p) (useful : ¬ Vain x)
    (step : p.step x = p') : Fresh (calls ++ [x]) p' where
  progress := by rw [progress_concat, fresh.progress, step]
  useful y mem := by
    rcases List.mem_append.mp mem with old | new
    · exact fresh.useful y old
    · exact List.mem_singleton.mp new ▸ useful

def Does {α : Type} (done : List Exchange → α → Prop) : Post α := fun calls _ outcome =>
  StoreFaults calls →
    match outcome with
    | .ok a => done calls a
    | .error e => e.isStore = true ∨ (progress calls).deeds = []

theorem does_of_failed {α : Type} (done : List Exchange → α → Prop) (calls : List Exchange)
    (journal : Journal) (c : Call) (e : Failure) :
    Does done (calls ++ [⟨c, .error e⟩]) journal (.error e) :=
  fun faults => .inl (faults c e (by simp))

def Stored (key : Key) (calls : List Exchange) : Added → Prop
  | .now _ => Fresh calls ⟨[], [.reacted key]⟩
  | .before _ => (progress calls).deeds = []

theorem lostRace_does (conflict : StoreFault) :
    (lostRace key conflict).Ensures (Does (Stored key)) calls journal := by
  rw [lostRace, ensures_bind]
  apply rollbackQuietly_ensures
  intro reply journal
  have none : (progress (calls ++ [⟨.rollback, reply⟩])).deeds = [] := deeds_of_rollback reply
  rw [before_ok, ensures_bind, ensures_perform]
  rintro (e | _ | stored)
  · exact does_of_failed (Stored key) _ journal _ e
  · exact fun _ => .inl rfl
  · exact fun _ => deeds_of_look_up none _

theorem insertReaction_does (fresh : Fresh calls ⟨[], []⟩) :
    (insertReaction key).Ensures (Does (Stored key)) calls journal := by
  rw [insertReaction, ensures_bind, ensures_perform (.add key)]
  rintro (e | done)
  · exact does_of_failed (Stored key) _ journal (.add key) e
  have queued : Fresh (calls ++ [⟨.add key, .ok done⟩]) ⟨[key], []⟩ := fresh.concat id rfl
  rw [before_ok, ensures_bind, ensures_handle, ensures_bind, ensures_perform .flush]
  rintro (e | flushed)
  · rw [before_error, guarding_error]
    split
    · exact lostRace_does _
    · exact does_of_failed (Stored key) _ journal .flush _
  · have stored : Fresh (calls ++ [⟨.add key, .ok done⟩] ++ [⟨.flush, .ok flushed⟩])
        ⟨[], [.reacted key]⟩ := queued.concat id rfl
    change Ensures _ (Program.perform (.refresh key) >>= _) _ _
    rw [ensures_bind, ensures_perform]
    rintro (e | reaction)
    · exact does_of_failed (Stored key) _ journal (.refresh key) e
    · exact fun _ => stored.concat id rfl

theorem storeReaction_does : (storeReaction key).Ensures (Does (Stored key)) [] [] := by
  rw [storeReaction, ensures_bind, ensures_perform (.userKnown key.author)]
  rintro (e | known)
  · exact does_of_failed (Stored key) [] [] (.userKnown key.author) e
  have asked : Fresh [⟨.userKnown key.author, .ok known⟩] ⟨[], []⟩ := fresh_nil.concat id rfl
  cases known with
  | false => exact fun _ => .inr (congrArg Progress.deeds asked.progress)
  | true =>
    rw [before_ok, if_pos rfl, ensures_bind, ensures_perform]
    rintro (e | found)
    · exact does_of_failed (Stored key) _ [] (.findReaction key) e
    cases found with
    | none => exact insertReaction_does (asked.concat id rfl)
    | some stored =>
      exact fun _ => deeds_of_look_up (congrArg Progress.deeds asked.progress) _

def Deleted (key : Key) (calls : List Exchange) (count : Int) : Prop :=
  if count = 0 then (progress calls).deeds = [] else Fresh calls ⟨[], [.removed key]⟩

theorem deletion_does : (deletion key).Ensures (Does (Deleted key)) [] [] := by
  rw [deletion, ensures_bind, ensures_perform]
  rintro (e | count)
  · exact does_of_failed (Deleted key) [] [] (.deleteReaction key) e
  rw [before_ok, ensures_bind, ensures_perform .flush]
  rintro (e | flushed)
  · exact does_of_failed (Deleted key) _ [] .flush e
  · intro _
    dsimp only [Deleted]
    by_cases none : count = 0
    · rw [if_pos none, progress_concat, progress_concat]
      simp [progress, Progress.step, none]
    · rw [if_neg none]
      have removed : Fresh ([] ++ [⟨.deleteReaction key, .ok count⟩]) ⟨[], [.removed key]⟩ :=
        fresh_nil.concat none (if_neg none)
      exact removed.concat id rfl

def Recounts {α : Type} (deed? : Option Deed) : Post α := fun calls journal outcome =>
  StoreFaults calls →
    (infos journal = [] ∧ (progress calls).deeds = []) ∨
    ∃ d, deed? = some d ∧ infos journal = [d.entry] ∧ (progress calls).deeds = [d] ∧
      (∃ a, outcome = .ok a) ∧ ∀ x ∈ calls, ¬ Vain x

theorem infos_of_quiet (quiet : ∀ entry ∈ journal, entry.Quiet) : infos journal = [] := by
  rw [infos, List.filter_eq_nil_iff]
  exact fun entry mem => by simpa [Entry.Quiet] using quiet entry mem

theorem infos_concat (journal : Journal) {level : LogLevel} (other : level ≠ .info)
    {text : String} : infos (journal ++ [⟨level, text⟩]) = infos journal := by
  rw [infos, List.filter_append, ← infos]
  simpa using other

theorem infos_concat_deed (quiet : infos journal = []) (d : Deed) :
    infos (journal ++ [d.entry]) = [d.entry] := by
  rw [infos, List.filter_append, ← infos, quiet]
  simp [d.level_entry]

def Undoes {α : Type} (done : List Exchange → α → Prop) : Post α := fun calls _ outcome =>
  StoreFaults calls →
    match outcome with
    | .ok a => done calls a
    | .error _ => (progress calls).deeds = []

theorem guarded_undoes {α : Type} {done : List Exchange → α → Prop} {failed : String}
    {body : Program α} (does : body.Ensures (Does done) [] []) :
    (guarded failed body).Ensures (Undoes done) [] [] := by
  refine ensures_guarded _ _ (does.mono fun calls journal outcome held => ?_)
  rcases outcome with e | a
  · rw [shielded_error]
    split
    · exact fun reply _ _ => deeds_of_rollback reply
    · next other => exact fun faults => (held faults).resolve_left other
  · exact held

theorem recounts_deed {α : Type} {d : Deed} {a : α} (fresh : Fresh calls ⟨[], [d]⟩)
    (quiet : infos journal = []) : Recounts (some d) calls (journal ++ [d.entry]) (.ok a) :=
  fun _ => .inr ⟨d, rfl, infos_concat_deed quiet d, congrArg Progress.deeds fresh.progress,
    ⟨a, rfl⟩, fresh.useful⟩

theorem addReaction_recounts (view comment : Option Uuid) (label : String) (user : Option String) :
    (addReaction view comment label user).Ensures
      (Recounts (some (.reacted ⟨view, comment, Text.trim label, user⟩))) [] [] := by
  rw [addReaction, ensures_bind]
  cases accepted : Label.normalize label with
  | error fault => exact fun _ => .inl ⟨rfl, rfl⟩
  | ok core =>
    have normal := Label.normal_of_normalize accepted
    obtain ⟨rfl, -, -⟩ := (Label.normalize_eq_ok_iff label core).mp accepted
    have quiet := (within_guarded "Failed to add reaction"
      (within_storeReaction ⟨view, comment, Text.trim label, user⟩ normal)).ensures
    change (guarded _ (storeReaction _) >>= _).Ensures _ _ _
    rw [ensures_bind]
    refine ((guarded_undoes storeReaction_does).and quiet).mono fun calls journal outcome held => ?_
    obtain ⟨stored, -, silent⟩ := held
    have none := infos_of_quiet silent
    rcases outcome with e | reaction | reaction
    · exact fun faults => .inl ⟨none, stored faults⟩
    · intro faults
      exact recounts_deed (stored faults) none faults
    · exact fun faults => .inl ⟨none, stored faults⟩

theorem removeReaction_recounts (view comment : Option Uuid) (label : String)
    (user : Option String) :
    (removeReaction view comment label user).Ensures
      (Recounts (some (.removed ⟨view, comment, Text.trim label, user⟩))) [] [] := by
  have quiet := (within_guarded "Failed to remove reaction"
    (within_deletion ⟨view, comment, Text.trim label, user⟩)).ensures
  change (guarded _ (deletion _) >>= _).Ensures _ _ _
  rw [ensures_bind]
  refine ((guarded_undoes deletion_does).and quiet).mono fun calls journal outcome held => ?_
  obtain ⟨deleted, -, silent⟩ := held
  have none := infos_of_quiet silent
  rcases outcome with e | count
  · exact fun faults => .inl ⟨none, deleted faults⟩
  · rw [before_ok]
    split
    next zero =>
      intro faults
      exact .inl ⟨(infos_concat _ (by decide)).trans none, (if_pos zero).mp (deleted faults)⟩
    next some =>
      intro faults
      exact recounts_deed ((if_neg some).mp (deleted faults)) none faults

theorem listing_recounts {α : Type} {p : Program α} (within : p.Within Call.Queries Entry.Quiet) :
    p.Ensures (Recounts none) [] [] := by
  have quiet := within.ensures
  refine quiet.mono fun calls journal outcome held _ => .inl ⟨infos_of_quiet held.2, ?_⟩
  rw [progress_of_queries held.1]

section Sealed

attribute [local irreducible] addReaction removeReaction listComment listView

theorem program_recounts (job : Job) : job.program.Ensures (Recounts job.deed?) [] [] := by
  have kept {β : Type} {deed? : Option Deed} {p : Program β} {f : β → Answer}
      (recounts : p.Ensures (Recounts deed?) [] []) :
      (p >>= fun a => pure (f a)).Ensures (Recounts deed?) [] [] := by
    rw [ensures_bind]
    refine recounts.mono fun calls journal outcome held => ?_
    rcases outcome with e | a
    · refine fun faults => (held faults).imp id ?_
      rintro ⟨d, -, -, -, ⟨_, raised⟩, -⟩
      cases raised
    · refine fun faults => (held faults).imp id ?_
      rintro ⟨d, same, recorded, done, -, useful⟩
      exact ⟨d, same, recorded, done, ⟨_, rfl⟩, useful⟩
  cases job with
  | listComment comment => exact kept (listing_recounts (within_listComment comment))
  | listView view comment => exact kept (listing_recounts (within_listView view comment))
  | add view comment label user => exact kept (addReaction_recounts view comment label user)
  | remove view comment label user => exact kept (removeReaction_recounts view comment label user)

end Sealed

end Service

end ReactionLedger
