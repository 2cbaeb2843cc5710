import ReactionLedger.Proofs.Service.Reading
import ReactionLedger.Proofs.Store.Invariants

set_option autoImplicit false

namespace ReactionLedger

open Program (Post)
open Service (Answer Job Reads EndsReading)

namespace World

theorem row_of_reads {w : World} {s : SessionName} {key : Key} {reaction : Reaction} {c : Call}
    (reads : Reads key reaction ⟨c, (w.reply s c).1⟩) :
    ∃ t row, w.view s = some t ∧ row ∈ t.reactions ∧ row.hasKey key = true ∧
      row.load = .ok reaction := by
  have found {t : Tables} (read : w.tables s noReactions = .ok t)
      (hit : t.find key = .ok (some reaction)) :
      ∃ t row, w.view s = some t ∧ row ∈ t.reactions ∧ row.hasKey key = true ∧
        row.load = .ok reaction := by
    obtain ⟨row, mem, has, load⟩ := Tables.mem_of_find hit
    exact ⟨t, row, (tables_eq_ok read).1, mem, has, load⟩
  cases c with
  | findReaction k =>
    obtain ⟨rfl, reply⟩ := reads
    cases read : w.tables s noReactions with
    | error e => simp [World.reply, read, Except.bind] at reply
    | ok t => exact found read (by simpa [World.reply, read, Except.bind] using reply)
  | refresh k =>
    obtain ⟨rfl, reply⟩ := reads
    cases read : w.tables s noReactions with
    | error e => simp [World.reply, refresh, read, bind, Except.bind] at reply
    | ok t =>
      cases hit : t.find k with
      | error e => simp [World.reply, refresh, read, hit, bind, Except.bind] at reply
      | ok row =>
        cases row with
        | none => simp [World.reply, refresh, read, hit, bind, Except.bind] at reply
        | some r =>
          have same : r = reaction := by
            simpa [World.reply, refresh, read, hit, bind, Except.bind, pure, Except.pure]
              using reply
          exact found read (same ▸ hit)
  | _ => exact reads.elim

end World

namespace System

def Outstanding : Job → Post Answer
  | .add view comment label user => fun calls journal outcome =>
    ∀ reaction, outcome = .ok (.reaction reaction) →
      EndsReading ⟨view, comment, Text.trim label, user⟩ calls journal (.ok reaction)
  | _ => fun _ _ _ => True

structure Orderly (σ : System) : Prop where
  reached : σ.world.Reachable
  outstanding : ∀ s job rest, σ.threads s = some ⟨job, rest⟩ →
    ∃ calls journal, rest.Ensures (Outstanding job) calls journal

section Sealed

attribute [local irreducible] Service.addReaction

theorem ensures_program (job : Job) : job.program.Ensures (Outstanding job) [] [] := by
  cases job with
  | add view comment label user =>
    rw [Job.program, Program.ensures_bind]
    refine (Service.addReaction_reads [] [] view comment label user).mono ?_
    intro calls journal outcome ends
    cases outcome with
    | error e => exact fun reaction made => by simp at made
    | ok answer =>
      intro reaction made
      obtain rfl : answer = reaction := by simpa using made
      exact ends
  | _ => exact Program.ensures_trivial _ _ _

end Sealed

theorem resume_orderly {σ : System} {s : SessionName} {job : Job} {p : Program Answer}
    {calls : List Exchange} {journal : Journal} (orderly : σ.Orderly)
    (ensures : p.Ensures (Outstanding job) calls journal) :
    (σ.resume s job p).system.Orderly ∧
      ∀ ended, (σ.resume s job p).returned = some ended → ended.session = s ∧ ended.job = job ∧
        ∃ journal, Outstanding job calls journal ended.outcome := by
  have later := ensures.ahead
  have replaced (thread : Option Thread) (fits : ∀ job rest, thread = some ⟨job, rest⟩ →
      ∃ calls journal, rest.Ensures (Outstanding job) calls journal) :
      (σ.setThread s thread).Orderly := by
    refine ⟨orderly.reached, fun r job rest active => ?_⟩
    simp only [setThread] at active
    split at active
    · exact fits job rest active
    · exact orderly.outstanding r job rest active
  unfold resume
  split
  next entries outcome stopped =>
    rw [stopped] at later
    refine ⟨replaced none (by simp), fun ended same => ?_⟩
    obtain rfl := Option.some.inj same
    exact ⟨rfl, rfl, _, later⟩
  next entries rest _ going =>
    rw [going] at later
    refine ⟨replaced _ fun job rest same => ?_, by simp⟩
    simp only [Option.some.injEq, Thread.mk.injEq] at same
    obtain ⟨rfl, rfl⟩ := same
    exact ⟨_, _, later⟩

theorem Orderly.move {σ : System} (orderly : σ.Orderly) (m : Move) : (σ.move m).system.Orderly :=
  ⟨orderly.reached.play m, orderly.outstanding⟩

theorem orderly_initial : initial.Orderly :=
  ⟨⟨[], rfl⟩, fun s job rest active => by simp [initial] at active⟩

structure Faithful (σ : System) (turn : Turn) : Prop where
  orderly : turn.system.Orderly
  returned : ∀ ended, turn.returned = some ended → ∃ calls journal,
    Outstanding ended.job calls journal ended.outcome ∧
      ∀ x, calls.getLast? = some x → ∃ c, x = ⟨c, (σ.world.reply ended.session c).1⟩

theorem faithful_move {σ : System} (orderly : σ.Orderly) (m : Move) : Faithful σ (σ.move m) :=
  ⟨orderly.move m, fun ended none => by simp [move, still] at none⟩

theorem faithful_still {σ : System} (orderly : σ.Orderly) : Faithful σ σ.still :=
  ⟨orderly, fun ended none => by simp [still] at none⟩

theorem faithful_step {σ : System} (orderly : σ.Orderly) (e : Event) : Faithful σ (σ.step e) := by
  cases e with
  | start s job =>
    simp only [step]
    split
    · obtain ⟨kept, returned⟩ := resume_orderly (s := s) orderly (ensures_program job)
      refine ⟨kept, fun ended same => ?_⟩
      obtain ⟨rfl, rfl, journal, held⟩ := returned ended same
      exact ⟨[], journal, held, by simp⟩
    · exact faithful_still orderly
  | proceed s =>
    simp only [step]
    split
    next job c next active =>
      obtain ⟨calls, journal, ensures⟩ := orderly.outstanding s _ _ active
      have moved : Orderly { σ with world := (σ.world.reply s c).2 } := orderly.move (.call s c)
      obtain ⟨kept, returned⟩ := resume_orderly (s := s) moved (ensures (σ.world.reply s c).1)
      refine ⟨kept, fun ended same => ?_⟩
      obtain ⟨rfl, rfl, journal, held⟩ := returned ended same
      refine ⟨_, journal, held, fun x last => ⟨c, ?_⟩⟩
      rw [List.getLast?_concat] at last
      exact (Option.some.inj last).symm
    · exact faithful_still orderly
  | directory s change =>
    simp only [step]
    split
    · exact faithful_move orderly _
    · exact faithful_still orderly
  | settle s how =>
    simp only [step]
    split
    · exact faithful_move orderly _
    · exact faithful_still orderly
  | task t => exact faithful_move orderly _

theorem orderly_after (events : List Event) : (initial.after events).Orderly := by
  induction events using List.reverseRecOn with
  | nil => exact orderly_initial
  | append_singleton events e ih =>
    rw [after, List.foldl_append]
    exact (faithful_step ih e).orderly

/-- Whatever sessions and owner do, no tables hold two rows of one key, and an addition answers with
a row that its session sees at its last call. -/
theorem unique_keys_and_visible_additions (events : List Event) :
    let σ := initial.after events
    (∀ t, σ.world.committed = some t → t.KeysUnique) ∧
      (∀ s t, σ.world.view s = some t → t.KeysUnique) ∧
      (∀ s key, (σ.world.reply s (.findReaction key)).1 ≠ .error (.store .ambiguous)) ∧
      ∀ e s view comment label user reaction,
        (σ.step e).returned = some ⟨s, .add view comment label user, .ok (.reaction reaction)⟩ →
        ∃ t row, σ.world.view s = some t ∧ row ∈ t.reactions ∧ row.load = .ok reaction ∧
          reaction.view = Value.ofOption .uuid view ∧
          reaction.comment = Value.ofOption .uuid comment ∧
          reaction.label = .text (Text.trim label) ∧
          reaction.author = Value.ofOption .text user := by
  intro σ
  have orderly : σ.Orderly := orderly_after events
  have unique := orderly.reached.keysUnique
  refine ⟨unique.committed, fun s t seen => unique.view seen, ?_, ?_⟩
  · intro s key ambiguous
    cases read : σ.world.tables s World.noReactions with
    | error e =>
      have same : e = .store .ambiguous := by
        simpa [World.reply, read, Except.bind] using ambiguous
      subst same
      unfold World.tables at read
      split at read <;> simp [World.inactive, World.noReactions, World.broken] at read
    | ok t =>
      have once := Tables.find_not_ambiguous key (unique.view (World.tables_eq_ok read).1)
      exact once (by simpa [World.reply, read, Except.bind] using ambiguous)
  · intro e s view comment label user reaction ended
    obtain ⟨calls, journal, outstanding, last⟩ := (faithful_step orderly e).returned _ ended
    obtain ⟨x, isLast, reads⟩ := outstanding reaction rfl reaction rfl
    obtain ⟨c, rfl⟩ := last x isLast
    obtain ⟨t, row, seen, mem, has, load⟩ := World.row_of_reads reads
    obtain ⟨created, read⟩ := StoredReaction.readTime_of_load load
    have columns := StoredReaction.load_of_hasKey has read
    rw [load] at columns
    obtain rfl := Except.ok.inj columns
    exact ⟨t, row, seen, mem, load, rfl, rfl, rfl, rfl⟩

end System

end ReactionLedger
