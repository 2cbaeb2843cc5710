import ReactionLedger.Proofs.Concurrency.Serving
import ReactionLedger.Proofs.UnitOfWork

set_option autoImplicit false

namespace ReactionLedger

open Program (result)
open Service (Answer Job)

namespace Service.Job

def added? : Job → Option Key
  | .add view comment label user => some ⟨view, comment, Text.trim label, user⟩
  | _ => none

def removed? : Job → Option Key
  | .remove view comment label user => some ⟨view, comment, Text.trim label, user⟩
  | _ => none

structure Respects (job : Job) (Φ : Option Tables → Prop) : Prop where
  adding : ∀ key, job.added? = some key → ∀ clock t t', Φ (some t) →
    World.insertOne clock t key = .ok t' → Φ (some t')
  removing : ∀ key, job.removed? = some key → ∀ t, Φ (some t) →
    Φ (some (t.deleteWhere (StoredReaction.hasKey key)).1)

end Service.Job

namespace Contention

variable {s : SessionName} {Φ : Option Tables → Prop} {c c' : Contention}
variable {job : Job} {jobs : List Job} {answer : Answer} {answers : List Answer}

structure Continues (s : SessionName) (Φ : Option Tables → Prop) (c c' : Contention) : Prop where
  ready : Ready s c'
  idle : World.Idle s c'.world
  keeps : Keeps s Φ c c'

theorem add_spec {key : Key} (ready : Ready s c) (idle : World.Idle s c.world)
    (adds : job.added? = some key)
    (ended : result (perform s) c job.program = (.ok answer, c')) :
    ∃ reaction, answer = .reaction reaction ∧
      ∀ Φ, job.Respects Φ → Served s Φ key reaction c c' := by
  cases job with
  | add view comment label user =>
    obtain rfl := Option.some.inj adds
    obtain ⟨reaction, made, rfl⟩ := Program.ok_of_bind_pure (perform s) c ended
    obtain ⟨added, rfl, stored⟩ := Service.stored_of_addReaction (perform s) c made
    exact ⟨_, rfl, fun Φ respects => storeReaction_spec ready idle (respects.adding _ rfl) stored⟩
  | _ => simp [Job.added?] at adds

theorem remove_spec {key : Key} (ready : Ready s c) (idle : World.Idle s c.world)
    (removes : job.removed? = some key) (respects : job.Respects Φ)
    (ended : result (perform s) c job.program = (.ok answer, c')) :
    Continues s Φ c c' ∧ ∃ t, c'.world.writer = some (s, t) ∧ ¬ t.Holds key := by
  cases job with
  | remove view comment label user =>
    obtain rfl := Option.some.inj removes
    obtain ⟨removed, made, -⟩ := Program.ok_of_bind_pure (perform s) c ended
    rw [Service.result_removeReaction] at made
    rcases guarded : result (perform s) c (Service.guarded "Failed to remove reaction"
      (Service.deletion ⟨view, comment, Text.trim label, user⟩)) with ⟨e | count, c₁⟩
    · simp [guarded, Except.map] at made
    · simp only [guarded, Except.map, Prod.mk.injEq] at made
      obtain ⟨-, rfl⟩ := made
      obtain ⟨ready', idle', keeps, written⟩ := deletion_spec ready idle (respects.removing _ rfl)
        (Service.ok_of_guarded (perform s) c guarded)
      exact ⟨⟨ready', idle', keeps⟩, written⟩
  | _ => simp [Job.removed?] at removes

theorem job_spec (ready : Ready s c) (idle : World.Idle s c.world) (respects : job.Respects Φ)
    (ended : result (perform s) c job.program = (.ok answer, c')) : Continues s Φ c c' := by
  obtain ⟨ready₁, spared₁, keeps₁⟩ := ready.meet
  cases job with
  | add view comment label user =>
    obtain ⟨reaction, -, served⟩ := add_spec ready idle rfl ended
    exact ⟨(served Φ respects).ready, (served Φ respects).idle, (served Φ respects).keeps⟩
  | remove view comment label user => exact (remove_spec ready idle rfl respects ended).1
  | listComment comment =>
    obtain ⟨summaries, made, -⟩ := Program.ok_of_bind_pure (perform s) c ended
    rw [Service.result_listComment] at made
    obtain rfl : c.meet = c' := (Prod.mk.inj made).2
    exact ⟨ready₁, spared₁.idle idle, keeps₁ Φ⟩
  | listView view comment =>
    obtain ⟨summaries, made, -⟩ := Program.ok_of_bind_pure (perform s) c ended
    rw [Service.result_listView] at made
    obtain rfl : c.meet = c' := (Prod.mk.inj made).2
    exact ⟨ready₁, spared₁.idle idle, keeps₁ Φ⟩

theorem serve_cons (served : serve s (job :: jobs) c = (.ok answers, c')) :
    ∃ answer rest c₁, result (perform s) c job.program = (.ok answer, c₁) ∧
      serve s jobs c₁ = (.ok rest, c') ∧ answers = answer :: rest := by
  simp only [serve] at served
  rcases ended : job.program.run (perform s) c with ⟨e | answer, journal, c₁⟩
  · simp [ended] at served
  · simp only [ended] at served
    rcases later : serve s jobs c₁ with ⟨e | rest, c₂⟩
    · simp [later, Except.map] at served
    · simp only [later, Except.map, Prod.mk.injEq, Except.ok.injEq] at served
      obtain ⟨rfl, rfl⟩ := served
      exact ⟨answer, rest, c₁, by simp [result, ended], later, rfl⟩

theorem serve_append {first second : List Job}
    (served : serve s (first ++ second) c = (.ok answers, c')) :
    ∃ earlier later c₁, serve s first c = (.ok earlier, c₁) ∧ earlier.length = first.length ∧
      serve s second c₁ = (.ok later, c') ∧ answers = earlier ++ later := by
  induction first generalizing c answers with
  | nil => exact ⟨[], answers, c, rfl, rfl, served, rfl⟩
  | cons job first ih =>
    obtain ⟨answer, rest, c₁, ended, remaining, rfl⟩ := serve_cons served
    obtain ⟨earlier, later, c₂, before, same, after, rfl⟩ := ih remaining
    refine ⟨answer :: earlier, later, c₂, ?_, by simp [same], after, rfl⟩
    obtain ⟨outcome, state⟩ := Prod.mk.inj ended
    simp [serve, outcome, state, before, Except.map]

theorem serve_append_state {first second : List Job} {c₁ : Contention}
    (served : serve s first c = (.ok answers, c₁)) :
    (serve s (first ++ second) c).2 = (serve s second c₁).2 := by
  induction first generalizing c answers with
  | nil =>
    obtain ⟨-, rfl⟩ := Prod.mk.inj served
    rfl
  | cons job first ih =>
    obtain ⟨answer, rest, c₂, ended, remaining, rfl⟩ := serve_cons served
    obtain ⟨outcome, state⟩ := Prod.mk.inj ended
    simp [serve, outcome, state, ih remaining]

theorem serve_spec (ready : Ready s c) (idle : World.Idle s c.world)
    (respects : ∀ job ∈ jobs, job.Respects Φ) (served : serve s jobs c = (.ok answers, c')) :
    Continues s Φ c c' := by
  induction jobs generalizing c answers with
  | nil =>
    obtain ⟨-, rfl⟩ := Prod.mk.inj served
    exact ⟨ready, idle, .refl c⟩
  | cons job jobs ih =>
    obtain ⟨answer, rest, c₁, ended, remaining, rfl⟩ := serve_cons served
    have first := job_spec ready idle (respects job List.mem_cons_self) ended
    have later := ih first.ready first.idle
      (fun job mem => respects job (List.mem_cons_of_mem _ mem)) remaining
    exact ⟨later.ready, later.idle, first.keeps.trans later.keeps⟩

end Contention

namespace World

def Stores (w : World) (row : StoredReaction) : Prop :=
  ∃ t, w.committed = some t ∧ row ∈ t.reactions

end World

namespace Service.Job

variable {job : Job} {key : Key}

theorem respects_row {row : StoredReaction} (has : row.hasKey key = true)
    (other : job.removed? ≠ some key) :
    job.Respects fun seen => ∃ t, seen = some t ∧ row ∈ t.reactions where
  adding k adds clock t t' held stored := by
    obtain ⟨t, same, mem⟩ := held
    obtain rfl := Option.some.inj same
    obtain ⟨new, rfl, -⟩ := Tables.insertOne_inv stored
    exact ⟨_, rfl, List.mem_append_left _ mem⟩
  removing k removes t held := by
    obtain ⟨t, same, mem⟩ := held
    obtain rfl := Option.some.inj same
    refine ⟨_, rfl, List.mem_filter.mpr ⟨mem, ?_⟩⟩
    cases found : row.hasKey k with
    | false => rfl
    | true => exact absurd (StoredReaction.key_unique found has ▸ removes) other

theorem respects_absent (other : job.added? ≠ some key) :
    job.Respects fun seen => ∀ t, seen = some t → ¬ t.Holds key where
  adding k adds clock t t' absent stored := by
    intro t₁ same
    obtain rfl := Option.some.inj same
    obtain ⟨new, rfl, -, found, -⟩ := Tables.insertOne_inv stored
    rintro ⟨r, mem, has⟩
    rcases List.mem_append.mp mem with old | last
    · exact absent t rfl ⟨r, old, has⟩
    · obtain rfl := List.mem_singleton.mp last
      exact other (StoredReaction.key_unique found has ▸ adds)
  removing k removes t absent := by
    intro t₁ same
    obtain rfl := Option.some.inj same
    rintro ⟨r, mem, has⟩
    exact absent t rfl ⟨r, List.mem_of_mem_filter mem, has⟩

end Service.Job

namespace World

variable {w w' : World} {s : SessionName}

theorem committed_finish {failing : List Scenario.EndMethod} (idle : Idle s w)
    (finished : UnitOfWork.finish (Scenario.ending s failing) (.ok ()) w = (.ok (), w')) :
    w'.committed = w.view s := by
  have serves := UnitOfWork.serves_ending s failing
  have well := UnitOfWork.verdict_of_finish finished
  obtain ⟨-, -, kept⟩ := UnitOfWork.finish_closes serves (.ok ()) w
  rw [finished, UnitOfWork.committed_settle_ok serves well] at kept
  simpa only [id, flush_idle idle.pending] using kept

end World

namespace Contention

/-- After a unit that ended well, the row of each addition is committed unless a later removal or a
rival has taken it out, and no row of a removed key is left unless it was added again. -/
theorem acknowledged_calls_are_committed {s : SessionName} {c done : Contention} {w : World}
    (earlier later : List Job) (job : Job) {answers : List Answer}
    {failing : List Scenario.EndMethod} (reached : c.world.Reachable) (timely : c.world.OnTime)
    (idle : World.Idle s c.world)
    (rivals : ∀ block ∈ c.blocks, ∀ m ∈ block, m.session? ≠ some s ∧ m.KeepsTime)
    (served : serve s (earlier ++ job :: later) c = (.ok answers, done))
    (finished :
      UnitOfWork.finish (Scenario.ending s failing) (.ok ()) done.meet.world = (.ok (), w)) :
    let called := (serve s (earlier ++ [job]) c).2
    (∀ key, job.added? = some key → (∀ other ∈ later, other.removed? ≠ some key) →
      ∃ reaction row, answers[earlier.length]? = some (.reaction reaction) ∧
        row.hasKey key = true ∧ row.load = .ok reaction ∧
        (w.Stores row ∨ ∃ x ∈ done.meet.since called, x.1.Stores row ∧ ¬ x.2.Stores row)) ∧
    (∀ key, job.removed? = some key → (∀ other ∈ later, other.added? ≠ some key) →
      ∀ t, w.committed = some t → ¬ t.Holds key) := by
  intro called
  have everything (job : Job) : job.Respects fun _ => True := ⟨by simp, by simp⟩
  obtain ⟨before, rest, c₁, servedBefore, length, servedRest, rfl⟩ := serve_append served
  obtain ⟨answer, after, c₂, ended, servedAfter, rfl⟩ := serve_cons servedRest
  have same : called = c₂ := by
    obtain ⟨outcome, state⟩ := Prod.mk.inj ended
    refine (serve_append_state servedBefore).trans ?_
    simp [serve, outcome, state]
  have start := serve_spec ⟨reached, timely, rivals⟩ idle (fun job _ => everything job) servedBefore
  have reply : (before ++ answer :: after)[earlier.length]? = some answer := by simp [← length]
  have fromCall := job_spec start.ready start.idle (everything job) ended
  have toEnd {Φ : Option Tables → Prop} (respects : ∀ other ∈ later, other.Respects Φ) :
      World.Idle s done.meet.world ∧ Keeps s Φ c₂ done.meet := by
    have rest := serve_spec fromCall.ready fromCall.idle respects servedAfter
    obtain ⟨-, spared, keeps⟩ := rest.ready.meet
    exact ⟨spared.idle rest.idle, rest.keeps.trans (keeps Φ)⟩
  have committed := World.committed_finish (toEnd fun other _ => everything other).1 finished
  rw [same]
  refine ⟨fun key adds others => ?_, fun key removes others => ?_⟩
  · obtain ⟨reaction, rfl, made⟩ := add_spec start.ready start.idle adds ended
    obtain ⟨t, row, seen, mem, has, load⟩ := (made _ (everything job)).row
    refine ⟨reaction, row, reply, has, load, ?_⟩
    rw [World.Stores, committed]
    exact (toEnd fun other inside => Job.respects_row has (others other inside)).2.seen
      ⟨t, seen, mem⟩
  · obtain ⟨-, t, own, absent⟩ := remove_spec start.ready start.idle removes (everything job) ended
    obtain ⟨t', own', still⟩ :=
      (toEnd fun other inside => Job.respects_absent (others other inside)).2.written t own
    rw [committed, World.view_of_writer own']
    exact still fun t₁ same => Option.some.inj same ▸ absent

namespace Raced

def like : Key := ⟨some (.ofNat 1), some (.ofNat 2), "like", some "ann"⟩

def first : Job := .add like.view like.comment "like" like.author

def second : Job := .add like.view like.comment "love" like.author

-- the fourth call is the flush of the first addition
def start : Contention where
  world := World.initial.after [.task (.putUser (some "ann") (some "Ann"))]
  blocks := [[], [], [],
    [.call (.named "rival") (.add like), .settle (.named "rival") .commit]]
  past := []

theorem rivals_start :
    ∀ block ∈ start.blocks, ∀ m ∈ block, m.session? ≠ some (.unit 0) ∧ m.KeepsTime := by
  intro block mem m inside
  simp only [start, List.mem_cons, List.not_mem_nil, or_false] at mem
  rcases mem with rfl | rfl | rfl | rfl
  · cases inside
  · cases inside
  · cases inside
  · simp only [List.mem_cons, List.not_mem_nil, or_false] at inside
    rcases inside with rfl | rfl
    · exact ⟨by decide, trivial⟩
    · exact ⟨by decide, trivial⟩

theorem acknowledged_addition_of_lost_race :
    ∃ w row, UnitOfWork.finish (Scenario.ending (.unit 0) []) (.ok ())
        (serve (.unit 0) [first, second] start).2.meet.world = (.ok (), w) ∧
      row.hasKey like = true ∧ w.Stores row := by
  have well : (serve (.unit 0) [first, second] start).1.isOk = true := by decide +kernel
  have ends : (UnitOfWork.finish (Scenario.ending (.unit 0) []) (.ok ())
      (serve (.unit 0) [first, second] start).2.meet.world).1.isOk = true := by decide +kernel
  have quiet : ((serve (.unit 0) [first, second] start).2.meet.since
      (serve (.unit 0) ([] ++ [first]) start).2).isEmpty = true := by decide +kernel
  rcases served : serve (.unit 0) [first, second] start with ⟨e | answers, done⟩
  · rw [served] at well
    cases well
  rw [served] at ends quiet
  rcases finished : UnitOfWork.finish (Scenario.ending (.unit 0) []) (.ok ()) done.meet.world with
    ⟨e | _, w⟩
  · rw [finished] at ends
    cases ends
  obtain ⟨added, -⟩ := acknowledged_calls_are_committed [] [second] first
    (World.Reachable.after ⟨[], rfl⟩ _) (World.initial_onTime.congr rfl) ⟨rfl, rfl⟩ rivals_start
    served finished
  obtain ⟨reaction, row, -, has, -, stored | ⟨x, mem, -⟩⟩ := added like (by decide) (by decide)
  · exact ⟨w, row, rfl, has, stored⟩
  · rw [List.isEmpty_iff.mp quiet] at mem
    cases mem

end Raced

end Contention

end ReactionLedger
