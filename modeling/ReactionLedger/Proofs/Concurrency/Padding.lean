import ReactionLedger.Proofs.Concurrency.FailedWrites
import ReactionLedger.Proofs.Service.Conduct
import ReactionLedger.Proofs.Service.Unhindered
import ReactionLedger.Proofs.Store.Filling
import ReactionLedger.Store.Declaration

set_option autoImplicit false

namespace ReactionLedger

open Program (result)
open Service (Answer Job addReaction removeReaction)

def ColumnDeclaration.Fits (column : ColumnDeclaration) (text : String) : Prop :=
  ∀ n, column.type.length = some n → text.length ≤ n

namespace StoredReaction

structure InNormalForm (r : StoredReaction) : Prop where
  label : Label.Normal r.label
  fits : ∀ column ∈ reactionTable.columns, column.name = Column.label → column.Fits r.label

theorem inNormalForm_of_label {r : StoredReaction} (normal : Label.Normal r.label) :
    r.InNormalForm where
  label := normal
  fits column mem named n length := by
    simp only [reactionTable, List.mem_cons, List.not_mem_nil, or_false] at mem
    rcases mem with rfl | rfl | rfl | rfl | rfl | rfl
    all_goals first
      | exact Option.some.inj length ▸ normal.short
      | exact absurd named (by decide)

end StoredReaction

def Event.StoresNothing : Event → Prop
  | .task (.seed ..) | .task (.insert _) => False
  | _ => True

theorem Event.Orderly.storesNothing {e : Event} (orderly : e.Orderly) : e.StoresNothing := by
  cases e with
  | task t =>
    cases t with
    | seed => exact orderly
    | insert => exact orderly
    | _ => trivial
  | _ => trivial

namespace System

structure Normal (σ : System) : Prop where
  world : σ.world.Filled Key.Normal
  threads : ∀ s job rest, σ.threads s = some ⟨job, rest⟩ →
    rest.Within Call.Normal fun _ => True

variable {σ : System}

theorem Normal.resume (normal : σ.Normal) {s : SessionName} {job : Job} {p : Program Answer}
    (within : p.Within Call.Normal fun _ => True) : (σ.resume s job p).system.Normal := by
  have later := within.ahead
  rcases resume_cases σ s job p with ⟨outcome, -, ended⟩ | ⟨-, going⟩
  · rw [ended]
    refine ⟨normal.world, fun r job rest active => ?_⟩
    simp only [setThread] at active
    split at active
    · cases active
    · exact normal.threads r job rest active
  · rw [going]
    refine ⟨normal.world, fun r job rest active => ?_⟩
    simp only [setThread] at active
    split at active
    · obtain ⟨-, rfl⟩ := Thread.mk.inj (Option.some.inj active)
      exact later
    · exact normal.threads r job rest active

theorem Normal.play (normal : σ.Normal) {m : Move} (fills : m.Fills Key.Normal) :
    Normal { σ with world := m.play σ.world } :=
  ⟨Move.filled_play fills normal.world, normal.threads⟩

theorem Normal.step (normal : σ.Normal) {e : Event} (stores : e.StoresNothing) :
    (σ.step e).system.Normal := by
  cases e with
  | start s job =>
    simp only [System.step]
    split
    · exact normal.resume job.within
    · exact normal
  | proceed s =>
    simp only [System.step]
    split
    next job c next active =>
      obtain ⟨allowed, rest⟩ := normal.threads s job _ active
      have fills : (Move.call s c).Fills Key.Normal := by cases c <;> exact allowed
      exact (normal.play fills).resume (rest _)
    next => exact normal
  | directory s change =>
    simp only [System.step]
    split
    · exact normal.play (m := .directory s change) trivial
    · exact normal
  | settle s how =>
    simp only [System.step]
    split
    · exact normal.play (m := .settle s how) trivial
    · exact normal
  | task t =>
    have fills : (Move.task t).Fills Key.Normal := by cases t <;> exact stores
    exact normal.play fills

theorem normal_after {events : List Event} (stores : ∀ e ∈ events, e.StoresNothing) :
    (initial.after events).Normal := by
  induction events using List.reverseRecOn with
  | nil => exact ⟨World.filled_initial, nofun⟩
  | append_singleton events e ih =>
    rw [after, List.foldl_append]
    exact (ih fun f mem => stores f (List.mem_append_left _ mem)).step (stores e (by simp))

theorem Normal.rows (normal : σ.Normal) :
    σ.world.Everywhere fun t => ∀ r ∈ t.reactions, r.InNormalForm := by
  have label {t : Tables} (filled : t.Filled Key.Normal) : ∀ r ∈ t.reactions, r.InNormalForm := by
    intro r mem
    obtain ⟨k, has, own⟩ := filled r mem
    rw [StoredReaction.hasKey_iff] at has
    exact StoredReaction.inNormalForm_of_label (has.2.2.1 ▸ own)
  exact ⟨fun t stored => label (normal.world.rows.committed t stored),
    fun s t own => label (normal.world.rows.written s t own)⟩

end System

namespace Service

inductive Job.Repadded : Job → Job → Prop
  | same (job : Job) : Repadded job job
  | add {view comment : Option Uuid} {label other : String} {user : Option String}
      (core : Text.trim label = Text.trim other) :
      Repadded (.add view comment label user) (.add view comment other user)
  | remove {view comment : Option Uuid} {label other : String} {user : Option String}
      (core : Text.trim label = Text.trim other) :
      Repadded (.remove view comment label user) (.remove view comment other user)

theorem addReaction_congr {view comment : Option Uuid} {label other : String}
    {user : Option String} (core : Text.trim label = Text.trim other) :
    addReaction view comment label user = addReaction view comment other user := by
  rw [addReaction, addReaction, Label.normalize_congr core]

theorem removeReaction_congr {view comment : Option Uuid} {label other : String}
    {user : Option String} (core : Text.trim label = Text.trim other) :
    removeReaction view comment label user = removeReaction view comment other user := by
  rw [removeReaction, removeReaction, core]

theorem Job.Repadded.program {job other : Job} (repadded : job.Repadded other) :
    job.program = other.program := by
  cases repadded with
  | same => rfl
  | add core => rw [Job.program, Job.program, addReaction_congr core]
  | remove core => rw [Job.program, Job.program, removeReaction_congr core]

end Service

inductive Event.Repadded : Event → Event → Prop
  | same (e : Event) : Repadded e e
  | start (s : SessionName) {job other : Job} (repadded : job.Repadded other) :
      Repadded (.start s job) (.start s other)

/-- The turns tell no difference: the same world, journal, and answer or failure to the same
session. -/
structure Turn.Same (a b : Turn) : Prop where
  world : a.system.world = b.system.world
  journal : a.journal = b.journal
  returned : a.returned.map (fun ended => (ended.session, ended.outcome)) =
    b.returned.map fun ended => (ended.session, ended.outcome)

namespace System

def turns (σ : System) : List Event → List Turn
  | [] => []
  | e :: events => σ.step e :: (σ.step e).system.turns events

structure Alike (σ τ : System) : Prop where
  world : σ.world = τ.world
  threads : ∀ s, (σ.threads s).map Thread.rest = (τ.threads s).map Thread.rest

variable {σ τ : System} {e f : Event}

theorem Alike.thread (alike : Alike σ τ) {s : SessionName} {job : Job} {rest : Program Answer}
    (active : σ.threads s = some ⟨job, rest⟩) : ∃ other, τ.threads s = some ⟨other, rest⟩ := by
  have same := alike.threads s
  rw [active, Option.map_some] at same
  obtain ⟨⟨other, rest'⟩, active', rfl⟩ := Option.map_eq_some_iff.mp same.symm
  exact ⟨other, active'⟩

theorem Alike.free (alike : Alike σ τ) (s : SessionName) :
    τ.threads s = none ↔ σ.threads s = none := by
  have same := alike.threads s
  constructor
  · intro free
    rwa [free, Option.map_none, Option.map_eq_none_iff] at same
  · intro free
    rw [free, Option.map_none] at same
    exact Option.map_eq_none_iff.mp same.symm

theorem Alike.setThread (alike : Alike σ τ) {s : SessionName} {a b : Option Thread}
    (same : a.map Thread.rest = b.map Thread.rest) :
    Alike (σ.setThread s a) (τ.setThread s b) := by
  refine ⟨alike.world, fun r => ?_⟩
  simp only [System.setThread]
  split
  · exact same
  · exact alike.threads r

theorem Alike.resume (alike : Alike σ τ) (s : SessionName) (job other : Job)
    (p : Program Answer) :
    (σ.resume s job p).Same (τ.resume s other p) ∧
      Alike (σ.resume s job p).system (τ.resume s other p).system := by
  unfold System.resume
  split
  · exact ⟨⟨alike.world, rfl, rfl⟩, alike.setThread rfl⟩
  · exact ⟨⟨alike.world, rfl, rfl⟩, alike.setThread rfl⟩

theorem Alike.move (alike : Alike σ τ) (m : Move) :
    (σ.move m).Same (τ.move m) ∧ Alike (σ.move m).system (τ.move m).system := by
  have world : m.play σ.world = m.play τ.world := by rw [alike.world]
  exact ⟨⟨world, rfl, rfl⟩, world, alike.threads⟩

theorem Alike.still (alike : Alike σ τ) :
    σ.still.Same τ.still ∧ Alike σ.still.system τ.still.system :=
  ⟨⟨alike.world, rfl, rfl⟩, alike⟩

theorem Alike.start (alike : Alike σ τ) (s : SessionName) {job other : Job}
    (same : job.program = other.program) :
    (σ.step (.start s job)).Same (τ.step (.start s other)) ∧
      Alike (σ.step (.start s job)).system (τ.step (.start s other)).system := by
  simp only [System.step, ← same]
  cases active : σ.threads s with
  | none =>
    rw [(alike.free s).mpr active]
    exact alike.resume s job other _
  | some thread =>
    obtain ⟨_, active'⟩ := alike.thread active
    rw [active']
    exact alike.still

theorem Alike.step (alike : Alike σ τ) (repadded : e.Repadded f) :
    (σ.step e).Same (τ.step f) ∧ Alike (σ.step e).system (τ.step f).system := by
  cases repadded with
  | start s repadded => exact alike.start s repadded.program
  | same =>
    cases e with
    | start s job => exact alike.start s rfl
    | proceed s =>
      simp only [System.step]
      cases active : σ.threads s with
      | none =>
        rw [(alike.free s).mpr active]
        exact alike.still
      | some thread =>
        obtain ⟨job, rest⟩ := thread
        obtain ⟨other, active'⟩ := alike.thread active
        rw [active']
        cases rest with
        | done outcome => exact alike.still
        | note entry p => exact alike.still
        | call c next =>
          simp only [← alike.world]
          have replied : Alike { σ with world := (σ.world.reply s c).2 }
              { τ with world := (σ.world.reply s c).2 } := ⟨rfl, alike.threads⟩
          exact replied.resume s job other _
    | directory s change =>
      simp only [System.step, Option.isNone_iff_eq_none, alike.free s]
      split
      · exact alike.move _
      · exact alike.still
    | settle s how =>
      simp only [System.step, Option.isNone_iff_eq_none, alike.free s]
      split
      · exact alike.move _
      · exact alike.still
    | task t => exact alike.move _

theorem Alike.turns (alike : Alike σ τ) {events others : List Event}
    (repadded : List.Forall₂ Event.Repadded events others) :
    List.Forall₂ Turn.Same (σ.turns events) (τ.turns others) ∧
      Alike (σ.after events) (τ.after others) := by
  induction repadded generalizing σ τ with
  | nil => exact ⟨.nil, alike⟩
  | cons first _ ih =>
    obtain ⟨same, next⟩ := alike.step first
    obtain ⟨rest, last⟩ := ih next
    exact ⟨.cons same rest, last⟩

end System

namespace Service

variable {view comment : Option Uuid} {label : String} {user : Option String} {fault : Label.Fault}

theorem addReaction_of_refused (refused : Label.normalize label = .error fault) :
    addReaction view comment label user = .done (.error (.label fault)) := by
  rw [addReaction, refused]
  rfl

theorem refused_of_addReaction {s : SessionName} {c : Contention}
    (failed : (result (Contention.perform s) c (addReaction view comment label user)).1 =
      .error (.label fault)) : Label.normalize label = .error fault := by
  cases accepted : Label.normalize label with
  | error other =>
    rw [addReaction_of_refused accepted] at failed
    exact congrArg Except.error (Failure.label.inj (Except.error.inj failed))
  | ok core =>
    rw [result_addReaction _ c view comment user accepted] at failed
    have guarded : result (Contention.perform s) c (guarded "Failed to add reaction"
        (storeReaction ⟨view, comment, core, user⟩)) = (.error (.label fault), _) :=
      Prod.ext (error_of_map failed) rfl
    obtain ⟨_, _, _, same, _⟩ | ⟨-, stored⟩ := error_of_guarded _ c guarded
    · cases same
    · obtain ⟨same, -⟩ | store | row :=
        fault_of_storeReaction (Contention.faults_perform s) stored
      · cases same
      · cases store
      · cases row

end Service

namespace System

theorem removal_of_refused {events : List Event} (orderly : ∀ e ∈ events, e.Orderly)
    {s : SessionName} (free : (initial.after events).threads s = none)
    (turn : (initial.after events).world.mayWrite s = true) (view comment : Option Uuid)
    {label : String} (user : Option String) {fault : Label.Fault}
    (refused : Label.normalize label = .error fault) :
    (result (World.perform s) (initial.after events).world
      (removeReaction view comment label user)).1 = .ok false := by
  obtain ⟨t, seen⟩ := (inPlace_after orderly).exists_view s
  have unhindered : (initial.after events).world.Unhindered s t :=
    ⟨seen, (quiet_after s events).free free, sound_after orderly free, turn⟩
  have absent : ¬ t.Holds ⟨view, comment, Text.trim label, user⟩ := by
    rintro ⟨r, mem, has⟩
    have normal := (normal_after fun e mem => (orderly e mem).storesNothing).rows.view seen r mem
    have label : r.label = Text.trim label := ((StoredReaction.hasKey_iff _ r).mp has).2.2.1
    exact Label.not_normal_of_refused refused (label ▸ normal.label)
  rw [unhindered.removal, decide_eq_false absent]

section Sealed

attribute [local irreducible] addReaction removeReaction

/-- Blanks around a label are never observable: they change no turn of any run, and no stored label
has them. -/
theorem padding_is_not_observable :
    (∀ events : List Event, (∀ e ∈ events, e.StoresNothing) →
      (initial.after events).world.Everywhere fun t => ∀ r ∈ t.reactions, r.InNormalForm) ∧
    (∀ events others, List.Forall₂ Event.Repadded events others →
      List.Forall₂ Turn.Same (initial.turns events) (initial.turns others) ∧
        (initial.after events).world = (initial.after others).world) ∧
    ∀ (label : String) (fault : Label.Fault),
      (∃ s c view comment user, (result (Contention.perform s) c
        (addReaction view comment label user)).1 = .error (.label fault)) →
      (∀ (α : Type) (perform : Performer α) (state : α) (view comment : Option Uuid)
        (user : Option String),
        (addReaction view comment label user).run perform state =
            ⟨.error (.label fault), [], state⟩ ∧
          (addReaction view comment label user).trace perform state = []) ∧
      ∀ events : List Event, (∀ e ∈ events, e.Orderly) → ∀ s,
        (initial.after events).threads s = none →
        (initial.after events).world.mayWrite s = true → ∀ view comment user,
          (result (World.perform s) (initial.after events).world
            (removeReaction view comment label user)).1 = .ok false := by
  refine ⟨fun events stores => (normal_after stores).rows, fun events others repadded => ?_, ?_⟩
  · obtain ⟨same, last⟩ := Alike.turns (σ := initial) ⟨rfl, fun _ => rfl⟩ repadded
    exact ⟨same, last.world⟩
  · rintro label fault ⟨s, c, view, comment, user, failed⟩
    have refused := Service.refused_of_addReaction failed
    refine ⟨fun α perform state view comment user => ?_, ?_⟩
    · rw [Service.addReaction_of_refused refused]
      exact ⟨rfl, rfl⟩
    · intro events orderly s free turn view comment user
      exact removal_of_refused orderly free turn view comment user refused

end Sealed

namespace Padded

def own : SessionName := .named "own"

def history (label : String) : List Event :=
  [.task (.putUser (some "ann") (some "Ann")),
    .start own (.add (some (.ofNat 1)) (some (.ofNat 2)) label (some "ann")),
    .proceed own, .proceed own, .proceed own, .proceed own, .proceed own, .settle own .commit]

def row : StoredReaction :=
  ⟨1, (Uuid.ofNat 1).compact, (Uuid.ofNat 2).compact, "like", "ann", .text "2024-05-01 12:00:00"⟩

theorem padded_additions_are_the_same :
    (initial.after (history " like")).world.committed = some ⟨[row], [⟨"ann", "Ann"⟩]⟩ ∧
    row.InNormalForm ∧
    List.Forall₂ Turn.Same (initial.turns (history " like"))
      (initial.turns (history "like\u3000")) ∧
    (result (World.perform own) (initial.after (history " like")).world
      (removeReaction (some (.ofNat 1)) (some (.ofNat 2)) "\u3000" (some "ann"))).1 = .ok false := by
  have committed : (initial.after (history " like")).world.committed =
      some ⟨[row], [⟨"ann", "Ann"⟩]⟩ := by decide +kernel
  have orderly : ∀ e ∈ history " like", e.Orderly := by
    intro e mem
    simp only [history, List.mem_cons, List.not_mem_nil, or_false] at mem
    rcases mem with rfl | rfl | rfl | rfl | rfl | rfl | rfl | rfl <;> trivial
  have core : Text.trim " like" = Text.trim "like\u3000" := by decide +kernel
  obtain ⟨normal, same, refused⟩ := padding_is_not_observable
  refine ⟨committed, ?_, ?_, ?_⟩
  · exact (normal _ fun e mem => (orderly e mem).storesNothing).committed _ committed row
      List.mem_cons_self
  · refine (same _ _ (.cons (.same _) (.cons (.start own (.add core)) ?_))).1
    exact List.forall₂_same.mpr fun e _ => .same e
  · have rejected : (addReaction none none "\u3000" none) = .done (.error (.label .empty)) :=
      Service.addReaction_of_refused (by decide +kernel)
    refine (refused "\u3000" .empty ⟨own, ⟨.initial, [], []⟩, none, none, none, ?_⟩).2 _ orderly own
      ?_ ?_ _ _ _
    · rw [rejected]
      rfl
    · exact Option.isNone_iff_eq_none.mp (by decide +kernel)
    · decide +kernel

end Padded

end System

end ReactionLedger
