import ReactionLedger.Proofs.Concurrency.Acknowledged
import ReactionLedger.Proofs.Concurrency.Sound
import ReactionLedger.Proofs.Service.Causes

set_option autoImplicit false

namespace ReactionLedger

open Program (result)
open Service (Added Answer Job insertReaction storeReaction)

namespace World

def Unwritten (s : SessionName) (w w' : World) : Prop :=
  ∀ t, w'.writer = some (s, t) → w.writer = some (s, t)

variable {s : SessionName} {w w₁ w₂ w' : World}

theorem Unwritten.trans (first : Unwritten s w w₁) (second : Unwritten s w₁ w₂) :
    Unwritten s w w₂ := fun t own => first t (second t own)

theorem Spares.unwritten (spared : Spares s w w') : Unwritten s w w' :=
  fun t => (spared.writer t).mp

theorem unwritten_of_reader (reader : ∀ t, w'.writer ≠ some (s, t)) : Unwritten s w w' :=
  fun t own => absurd own (reader t)

theorem Unwritten.view (unwritten : Unwritten s w w') :
    w'.view s = w'.committed ∨ ∃ t, w.writer = some (s, t) ∧ w'.view s = some t := by
  by_cases own : ∃ t, w'.writer = some (s, t)
  · obtain ⟨t, own⟩ := own
    exact .inr ⟨t, unwritten t own, view_of_writer own⟩
  · exact .inl (view_of_not_writer (not_exists.mp own))

end World

namespace Contention

variable {s : SessionName} {c c' : Contention} {key : Key} {e : Failure}

def Unbroken : World → List (World × World) → World → Prop
  | w, [], w' => w'.committed = w.committed
  | w, x :: past, w' => x.1.committed = w.committed ∧ Unbroken x.2 past w'

theorem Unbroken.append {w w₁ w' : World} {past later : List (World × World)}
    (first : Unbroken w past w₁) (second : Unbroken w₁ later w') :
    Unbroken w (past ++ later) w' := by
  induction past generalizing w with
  | nil =>
    cases later with
    | nil => exact second.trans first
    | cons x later => exact ⟨second.1.trans first, second.2⟩
  | cons x past ih => exact ⟨first.1, ih first.2⟩

def Apart (c c' : Contention) : Prop :=
  ∃ past, c'.past = c.past ++ past ∧ Unbroken c.world past c'.world

theorem Apart.trans {c₁ c₂ : Contention} (first : Apart c c₁) (second : Apart c₁ c₂) :
    Apart c c₂ := by
  obtain ⟨past, kept, unbroken⟩ := first
  obtain ⟨later, kept', unbroken'⟩ := second
  exact ⟨past ++ later, by rw [kept', kept, List.append_assoc], unbroken.append unbroken'⟩

theorem apart_of_committed {w : World} (same : w.committed = c.world.committed) :
    Apart c { c with world := w } := ⟨[], by simp, same⟩

theorem apart_meet (c : Contention) : Apart c c.meet := by
  have any : ∀ block ∈ c.blocks, ∀ m ∈ block, True := fun _ _ _ _ => trivial
  refine meet_induction (P := Apart c) any ?_ ?_
  · exact ⟨[], by simp, rfl⟩
  · exact fun c' m _ before => before.trans ⟨[(c'.world, m.play c'.world)], rfl, rfl, rfl⟩

theorem apart_run {α : Type} (s : SessionName) (p : Program α) (c : Contention) :
    Apart c (p.run (perform s) c).state := by
  induction p generalizing c with
  | done outcome => exact ⟨[], by simp [Program.run], rfl⟩
  | note entry p ih => exact ih c
  | call d next ih =>
    have called : Apart c.meet (perform s d c).state :=
      apart_of_committed (World.committed_reply c.meet.world s d)
    exact ((apart_meet c).trans called).trans (ih _ _)

structure Steady (s : SessionName) (c : Contention) : Prop where
  reached : c.world.Reachable
  timely : c.world.Timely
  rivals : ∀ block ∈ c.blocks, ∀ m ∈ block, m.session? ≠ some s ∧ m.TellsTime

theorem Steady.meet (steady : Steady s c) :
    Steady s c.meet ∧ World.Spares s c.world c.meet.world := by
  have later : Steady s { c with blocks := c.blocks.tail } :=
    ⟨steady.reached, steady.timely,
      fun block mem => steady.rivals block (List.mem_of_mem_tail mem)⟩
  refine meet_induction (P := fun c' => Steady s c' ∧ World.Spares s c.world c'.world)
    steady.rivals ⟨later, .refl s _⟩ ?_
  rintro c' m ⟨other, tells⟩ ⟨steady', spared⟩
  exact ⟨⟨steady'.reached.play m, Move.play_timely tells steady'.timely, steady'.rivals⟩,
    spared.trans (Move.play_spares steady'.reached other)⟩

theorem Steady.own (steady : Steady s c) (call : Call) :
    Steady s { c with world := (c.world.reply s call).2 } :=
  ⟨steady.reached.play (.call s call),
    Move.play_timely (show (Move.call s call).TellsTime from trivial) steady.timely, steady.rivals⟩

theorem watched_run {W : Watch} {P : World → Prop} {α : Type} {p : Program α}
    {calls : List Exchange} {journal : Journal}
    (reply : ∀ w raised call, w.Timely → P w ∨ raised = true →
      P (w.reply s call).2 ∨ W.step raised ⟨call, (w.reply s call).1⟩ = true)
    (spared : ∀ w w', World.Spares s w w' → P w → P w')
    (lowers : p.Ensures W.Lowered calls journal) (steady : Steady s c)
    (told : P c.world ∨ W.raised calls = true) : P (p.run (perform s) c).state.world := by
  induction p generalizing c calls journal with
  | done outcome => exact told.resolve_right (by simp [show W.raised calls = false from lowers])
  | note entry p ih => exact ih lowers steady told
  | call d next ih =>
    obtain ⟨steady', spares⟩ := steady.meet
    refine ih _ (lowers _) (steady'.own d) ?_
    rw [Watch.raised_concat]
    exact reply _ _ d steady'.timely (told.imp_left (spared _ _ spares))

theorem idle_run (steady : Steady s c) (idle : World.Idle s c.world) (job : Job) :
    World.Idle s (job.program.run (perform s) c).state.world where
  pending := watched_run (P := fun w => w.pending s = [])
    (fun _ _ call _ told => World.pending_reply told call)
    (fun _ _ spared quiet => spared.pending.trans quiet)
    (Watch.program_lowers Service.pendingWatch job) steady (.inl idle.pending)
  failed := watched_run (P := fun w => w.failed s = none)
    (fun _ _ call timely told => World.failed_reply timely told call)
    (fun _ _ spared sound => spared.failed.trans sound)
    (Watch.program_lowers Service.faultWatch job) steady (.inl idle.failed)

theorem faults_perform (s : SessionName) : Service.Faults (perform s) :=
  fun _ _ _ failed => World.isStore_or_isRowFault_of_reply failed

open World (Unwritten unwritten_of_reader)

theorem reader_of_rollback (s : SessionName) (c : Contention) (t : Tables) :
    (perform s .rollback c).state.world.writer ≠ some (s, t) := World.not_writer_discard _ s t

theorem reader_of_lostRace {conflict : StoreFault} {outcome : Except Failure Added}
    (steady : Steady s c)
    (ended : result (perform s) c (Service.lostRace key conflict) = (outcome, c')) :
    ∀ t, c'.world.writer ≠ some (s, t) := by
  obtain ⟨steady₁, -⟩ := steady.meet
  obtain ⟨-, spared⟩ := (steady₁.own .rollback).meet
  rw [Service.result_lostRace] at ended
  obtain ⟨-, rfl⟩ := Prod.mk.inj ended
  exact spared.reader (reader_of_rollback s c)

theorem refresh_of_stored {clock : Option String} {t t' : Tables} (steady : Steady s c)
    (stored : World.insertOne clock t key = .ok t') (own : c.world.writer = some (s, t'))
    (sound : c.world.failed s = none) :
    ∃ reaction, (perform s (.refresh key) c).outcome = .ok reaction := by
  obtain ⟨steady', spared⟩ := steady.meet
  obtain ⟨row, rfl, -, has, ⟨reaction, load⟩, -⟩ := Tables.insertOne_inv stored
  have own' : c.meet.world.writer = some (s, _) := (spared.writer _).mpr own
  have unique := steady'.reached.keysUnique.written s _ own'
  exact ⟨reaction, World.refresh_of_mem (spared.failed.trans sound) (World.view_of_writer own')
    unique (List.mem_append_right _ List.mem_cons_self) has load⟩

theorem unwritten_of_insertReaction (steady : Steady s c) (idle : World.Idle s c.world)
    (ended : result (perform s) c (insertReaction key) = (.error e, c')) :
    Unwritten s c.world c'.world := by
  obtain ⟨steady₁, spared₁⟩ := steady.meet
  obtain ⟨quiet₁, sound₁⟩ := spared₁.idle idle
  have addedReply := perform_add key quiet₁
  set c₂ := c.queue s key
  have steady₂ : Steady s c₂ := by
    have own := steady₁.own (.add key)
    simpa [World.reply, quiet₁, c₂, queue] using own
  obtain ⟨steady₃, spared₃⟩ := steady₂.meet
  obtain ⟨queued, sound⟩ := queued_of_spares sound₁ spared₃
  have flushReply : perform s .flush c₂ = ⟨(c₂.meet.world.flush s).1, [],
      { c₂.meet with world := (c₂.meet.world.flush s).2 }⟩ := rfl
  have steady₄ := steady₃.own .flush
  rcases World.flush_cases queued sound with
    ⟨t, t', seen, free, stored, flushed⟩ | ⟨f, failed, -⟩
  · simp only [World.reply, flushed] at steady₄
    simp only [Service.result_insertReaction, addedReply, flushReply, flushed] at ended
    set c₄ : Contention := { c₂.meet with
      world := { c₂.meet.world.setPending s [] with writer := some (s, t') } }
    obtain ⟨reaction, refreshed⟩ := refresh_of_stored steady₄ stored rfl sound
    simp [refreshed, Except.map] at ended
  · simp only [World.reply, failed, World.failFlush] at steady₄
    rw [failed, World.failFlush] at flushReply
    set c₄ : Contention := { c₂.meet with
      world := (c₂.meet.world.discard s).setFailed s (some f) }
    have reader : ∀ t, c₄.world.writer ≠ some (s, t) := World.not_writer_discard _ s
    simp only [Service.result_insertReaction, addedReply, flushReply] at ended
    split at ended
    next same => cases same
    next same => cases same
    next => exact unwritten_of_reader (reader_of_lostRace steady₄ ended)
    next =>
      obtain ⟨-, rfl⟩ := Prod.mk.inj ended
      exact unwritten_of_reader reader

theorem unwritten_of_storeReaction (steady : Steady s c) (idle : World.Idle s c.world)
    (ended : result (perform s) c (storeReaction key) = (.error e, c')) :
    Unwritten s c.world c'.world := by
  obtain ⟨steady₁, spared₁⟩ := steady.meet
  obtain ⟨steady₂, spared₂⟩ := steady₁.meet
  have spared := spared₁.trans spared₂
  rw [Service.result_storeReaction] at ended
  dsimp only at ended
  split at ended
  next =>
    obtain ⟨-, rfl⟩ := Prod.mk.inj ended
    exact spared₁.unwritten
  next =>
    obtain ⟨-, rfl⟩ := Prod.mk.inj ended
    exact spared₁.unwritten
  next =>
    obtain ⟨-, rfl⟩ := Prod.mk.inj ended
    exact spared.unwritten
  next => cases ended
  next =>
    exact spared.unwritten.trans (unwritten_of_insertReaction steady₂ (spared.idle idle) ended)

theorem unwritten_of_deletion (steady : Steady s c) (idle : World.Idle s c.world)
    (ended : result (perform s) c (Service.deletion key) = (.error e, c')) :
    Unwritten s c.world c'.world := by
  obtain ⟨steady₁, spared₁⟩ := steady.meet
  have idle₁ := spared₁.idle idle
  have deleteReply : perform s (.deleteReaction key) c = ⟨(c.meet.world.delete s key).1, [],
      { c.meet with world := (c.meet.world.delete s key).2 }⟩ := rfl
  have steady₂ := steady₁.own (.deleteReaction key)
  simp only [Service.result_deletion, deleteReply] at ended
  rcases World.delete_cases c.meet.world s key with ⟨t, -, deleted⟩ | ⟨f, failed⟩
  · simp only [World.reply, deleted] at steady₂
    obtain ⟨-, spared₂⟩ := steady₂.meet
    have idle₂ := spared₂.idle ⟨idle₁.pending, idle₁.failed⟩
    simp only [deleted] at ended
    have flushed := error_of_map (Prod.mk.inj ended).1
    change (World.flush _ s).1 = _ at flushed
    rw [World.flush_idle idle₂.pending] at flushed
    cases flushed
  · simp only [failed] at ended
    obtain ⟨-, rfl⟩ := Prod.mk.inj ended
    exact spared₁.unwritten

def Refusal (e : Failure) : Prop := (∃ fault, e = .label fault) ∨ ∃ user, e = .unknownUser user

structure Withdraws (s : SessionName) (e : Failure) (calls : List Exchange) (w w' : World) :
    Prop where
  unwritten : Unwritten s w w'
  refused : Refusal e → World.Spares s w w' ∧ ∀ x ∈ calls, x.1 ≠ .rollback
  failed : e.isAccess = true → ∀ t, w'.writer ≠ some (s, t)

theorem not_refusal_of_fault (fault : e.isStore = true ∨ e.isRowFault = true) :
    ¬ Refusal e ∧ e.isAccess = false := by
  rcases fault with store | row
  · cases e with
    | store fault => exact ⟨by simp [Refusal], rfl⟩
    | _ => cases store
  · cases e with
    | value text => exact ⟨by simp [Refusal], rfl⟩
    | type text => exact ⟨by simp [Refusal], rfl⟩
    | _ => cases row

theorem withdraws_of_guarded {α : Type} {body : Program α} {failed : String}
    {calls : List Exchange}
    (inner : ∀ e c', result (perform s) c body = (.error e, c') →
      Unwritten s c.world c'.world ∧ (e.isStore = false → Withdraws s e calls c.world c'.world))
    (ended : result (perform s) c (Service.guarded failed body) = (.error e, c')) :
    Withdraws s e calls c.world c'.world := by
  obtain ⟨fault, c₁, -, rfl, rfl⟩ | ⟨other, ended⟩ :=
    Service.error_of_guarded (perform s) c ended
  · have reader := reader_of_rollback s c₁
    exact ⟨unwritten_of_reader reader, by simp [Refusal], fun _ => reader⟩
  · exact (inner e c' ended).2 other

theorem withdraws_of_fault {calls : List Exchange} (unwritten : Unwritten s c.world c'.world)
    (fault : e.isStore = true ∨ e.isRowFault = true) : Withdraws s e calls c.world c'.world := by
  obtain ⟨other, plain⟩ := not_refusal_of_fault fault
  exact ⟨unwritten, fun refused => absurd refused other, fun access => by simp [plain] at access⟩

theorem withdraws_of_addReaction {view comment : Option Uuid} {label : String}
    {user : Option String} (steady : Steady s c) (idle : World.Idle s c.world)
    (ended : result (perform s) c (Service.addReaction view comment label user) = (.error e, c')) :
    Withdraws s e ((Service.addReaction view comment label user).trace (perform s) c)
      c.world c'.world := by
  cases accepted : Label.normalize label with
  | error fault =>
    rw [Service.addReaction, accepted] at ended ⊢
    obtain ⟨same, rfl⟩ := Prod.mk.inj ended
    obtain rfl := Except.error.inj same
    exact ⟨fun _ own => own, fun _ => ⟨.refl s _, fun _ made => absurd made List.not_mem_nil⟩,
      fun access => by cases access⟩
  | ok core =>
    obtain ⟨rest, whole⟩ : ∃ rest, Service.addReaction view comment label user =
        Service.guarded "Failed to add reaction" (storeReaction ⟨view, comment, core, user⟩) >>=
          rest := ⟨_, by rw [Service.addReaction, accepted]; rfl⟩
    rw [Service.result_addReaction (perform s) c view comment user accepted] at ended
    obtain ⟨outcome, state⟩ := Prod.mk.inj ended
    rw [whole, Program.trace_bind_of_error (perform s) (error_of_map outcome)]
    refine withdraws_of_guarded (fun f c₁ stored => ?_) (Prod.ext (error_of_map outcome) state)
    have unwritten := unwritten_of_storeReaction steady idle stored
    refine ⟨unwritten, fun other => ?_⟩
    obtain ⟨rfl, known, rfl⟩ | fault := Service.fault_of_storeReaction (faults_perform s) stored
    · rw [Service.trace_of_stranger known]
      exact ⟨unwritten, fun _ => ⟨steady.meet.2, by simp⟩, fun access => by cases access⟩
    · exact withdraws_of_fault unwritten fault

theorem withdraws_of_removeReaction {view comment : Option Uuid} {label : String}
    {user : Option String} {calls : List Exchange} (steady : Steady s c)
    (idle : World.Idle s c.world)
    (ended : result (perform s) c (Service.removeReaction view comment label user) =
      (.error e, c')) : Withdraws s e calls c.world c'.world := by
  rw [Service.result_removeReaction] at ended
  obtain ⟨outcome, state⟩ := Prod.mk.inj ended
  refine withdraws_of_guarded (fun f c₁ deleted => ?_) (Prod.ext (error_of_map outcome) state)
  have unwritten := unwritten_of_deletion steady idle deleted
  exact ⟨unwritten, fun _ => withdraws_of_fault unwritten
    (Service.fault_of_deletion (faults_perform s) deleted)⟩

theorem withdraws_of_job {job : Job} (steady : Steady s c) (idle : World.Idle s c.world)
    (writes : job.added? ≠ none ∨ job.removed? ≠ none)
    (ended : result (perform s) c job.program = (.error e, c')) :
    Withdraws s e (job.program.trace (perform s) c) c.world c'.world := by
  cases job with
  | listComment comment => simp [Job.added?, Job.removed?] at writes
  | listView view comment => simp [Job.added?, Job.removed?] at writes
  | add view comment label user =>
    rw [Job.program, Program.result_bind_pure] at ended
    rw [Job.program, Program.trace_bind_pure]
    obtain ⟨outcome, state⟩ := Prod.mk.inj ended
    exact withdraws_of_addReaction steady idle (Prod.ext (error_of_map outcome) state)
  | remove view comment label user =>
    rw [Job.program, Program.result_bind_pure] at ended
    obtain ⟨outcome, state⟩ := Prod.mk.inj ended
    exact withdraws_of_removeReaction steady idle (Prod.ext (error_of_map outcome) state)

/-- What is left when a write that began in the world has failed: the committed tables as the rivals
have made them, a session that takes calls and has nothing to flush or commit that it did not have,
and a view of what is committed, or of the tables that it had written before. -/
structure LeavesNothing (s : SessionName) (w : World) (c : Contention) : Prop where
  committed : Unbroken w c.past c.world
  idle : World.Idle s c.world
  flush : c.world.flush s = (.ok (), c.world)
  commit : c.world.commit s = (.ok (), c.world.publish s)
  view : c.world.view s = c.world.committed ∨
    ∃ t, w.writer = some (s, t) ∧ c.world.view s = some t

/-- A write that fails leaves nothing of itself behind, whatever its rivals do meanwhile. -/
theorem failed_writes_leave_nothing {events : List Event} {s : SessionName}
    {blocks : List (List Move)} {job : Job} {e : Failure} {c : Contention}
    (telling : ∀ f ∈ events, f.TellsTime) (free : (System.initial.after events).threads s = none)
    (rivals : ∀ block ∈ blocks, ∀ m ∈ block, m.session? ≠ some s ∧ m.TellsTime)
    (writes : job.added? ≠ none ∨ job.removed? ≠ none)
    (failed : result (perform s) ⟨(System.initial.after events).world, blocks, []⟩ job.program =
      (.error e, c)) :
    let w := (System.initial.after events).world
    LeavesNothing s w c ∧
    ((∃ fault, e = .label fault) ∨ (∃ user, e = .unknownUser user) →
      (∀ t, c.world.writer = some (s, t) ↔ w.writer = some (s, t)) ∧
      ∀ x ∈ job.program.trace (perform s) ⟨w, blocks, []⟩, x.1 ≠ .rollback) ∧
    (e.isAccess = true →
      c.world.view s = c.world.committed ∧ ∀ t, c.world.writer ≠ some (s, t)) := by
  intro w
  have quiet := System.quiet_after s events
  have steady : Steady s ⟨w, blocks, []⟩ := ⟨quiet.reached, System.timely_after telling, rivals⟩
  have before : World.Idle s w := ⟨quiet.free free, System.unfailed_after telling free⟩
  obtain ⟨unwritten, refused, lost⟩ := withdraws_of_job steady before writes failed
  have run : c = (job.program.run (perform s) ⟨w, blocks, []⟩).state := (Prod.mk.inj failed).2.symm
  obtain ⟨past, kept, unbroken⟩ := apart_run s job.program ⟨w, blocks, []⟩
  have idle := idle_run steady before job
  rw [← run] at kept unbroken idle
  obtain rfl : c.past = past := kept
  refine ⟨⟨unbroken, idle, World.flush_idle idle.pending, World.commit_eq idle.pending idle.failed,
    unwritten.view⟩, fun plain => ?_, fun access => ?_⟩
  · obtain ⟨spared, calls⟩ := refused plain
    exact ⟨spared.writer, calls⟩
  · exact ⟨World.view_of_not_writer (lost access), lost access⟩

namespace Barred

def own : SessionName := .named "own"

def rival : SessionName := .named "rival"

def like : Key := ⟨some (.ofNat 1), some (.ofNat 2), "like", some "ann"⟩

def events : List Event := [.task (.putUser (some "ann") (some "Ann"))]

def blocks : List (List Move) := [[], [], [], [.call rival (.add like), .call rival .flush]]

def addition : Job := .add like.view like.comment "like" like.author

def accessFails {α : Type} : Except Failure α → Bool
  | .error e => e.isAccess
  | .ok _ => false

theorem barred_addition_leaves_nothing :
    ∃ e c, result (perform own) ⟨(System.initial.after events).world, blocks, []⟩ addition.program =
        (.error e, c) ∧ e.isAccess = true ∧
      LeavesNothing own (System.initial.after events).world c ∧
      c.world.view own = c.world.committed := by
  have fails : accessFails (result (perform own) ⟨(System.initial.after events).world, blocks, []⟩
      addition.program).1 = true := by decide +kernel
  have rivals : ∀ block ∈ blocks, ∀ m ∈ block, m.session? ≠ some own ∧ m.TellsTime := by
    intro block mem m inside
    simp only [blocks, List.mem_cons, List.not_mem_nil, or_false] at mem
    rcases mem with rfl | rfl | rfl | rfl
    · cases inside
    · cases inside
    · cases inside
    · simp only [List.mem_cons, List.not_mem_nil, or_false] at inside
      rcases inside with rfl | rfl
      · exact ⟨by decide, trivial⟩
      · exact ⟨by decide, trivial⟩
  have telling : ∀ f ∈ events, f.TellsTime := by
    intro f mem
    obtain rfl := List.mem_singleton.mp mem
    trivial
  rcases failed : result (perform own) ⟨(System.initial.after events).world, blocks, []⟩
    addition.program with ⟨e | answer, c⟩
  · rw [failed] at fails
    obtain ⟨nothing, -, lost⟩ :=
      failed_writes_leave_nothing telling rfl rivals (.inl (by decide)) failed
    exact ⟨e, c, rfl, fails, nothing, (lost fails).1⟩
  · rw [failed] at fails
    cases fails

end Barred

end Contention

end ReactionLedger
