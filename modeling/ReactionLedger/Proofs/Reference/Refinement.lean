import ReactionLedger.Proofs.Reference.Listings
import ReactionLedger.Proofs.Service.Unhindered
import ReactionLedger.Proofs.Store.Order

set_option autoImplicit false

namespace ReactionLedger.Reference

open Program (result)
open Service (Added addReaction insertReaction storeReaction)

/-- The session's view records the current book, the committed tables the saved one, and no other
session writes. -/
structure Represents (s : SessionName) (w : World) (m : Machine) : Prop where
  quiet : w.pending s = []
  sound : w.failed s = none
  alone : ∀ r t, w.writer = some (r, t) → r = s
  clock : ∃ text, w.clock = some text ∧ Shows text m.clock
  current : ∃ t, w.view s = some t ∧ Keeps t m.current
  saved : ∃ t, w.committed = some t ∧ Keeps t m.saved

namespace Represents

variable {s : SessionName} {w : World} {m : Machine} {t : Tables} {b : Book}

theorem mayWrite (rep : Represents s w m) : w.mayWrite s = true := by
  unfold World.mayWrite
  rcases own : w.writer with _ | ⟨r, t⟩
  · rfl
  · simpa using rep.alone r t own

theorem unhindered (rep : Represents s w m) (seen : w.view s = some t) : w.Unhindered s t :=
  ⟨seen, rep.quiet, rep.sound, rep.mayWrite⟩

theorem flushed (rep : Represents s w m) (keys : List Key) :
    Represents s ((w.setPending s keys).setPending s []) m :=
  ⟨by simp, rep.sound, rep.alone, rep.clock, rep.current, rep.saved⟩

theorem wrote (rep : Represents s w m) (keeps : Keeps t b) :
    Represents s { w with writer := some (s, t) } { m with current := b } where
  quiet := rep.quiet
  sound := rep.sound
  alone r t' same := by
    rw [Option.some.injEq, Prod.mk.injEq] at same
    exact same.1.symm
  clock := rep.clock
  current := ⟨t, World.view_of_writer rfl, keeps⟩
  saved := rep.saved

theorem addition (rep : Represents s w m) (seen : w.view s = some t) (keeps : Keeps t m.current)
    {view comment : Uuid} {core author : String} :
    let e : Entry := ⟨view, comment, core, author, m.clock⟩
    m.current.find? e.key = none →
      ∃ n w', result (World.perform s) w (insertReaction e.key) =
          (.ok (.now { e.reaction with id := .int n }), w') ∧
        Represents s w' { m with current := m.current.append e } := by
  intro e new
  obtain ⟨now, shown, shows⟩ := rep.clock
  have absent : ¬ t.Holds e.key := (Tables.find_eq_none_iff t e.key).mp (keeps.find_none new)
  set row := t.newRow view comment core author now
  have records : Records row e := by
    refine ⟨rfl, rfl, rfl, rfl, ?_⟩
    simp [row, Tables.newRow, StoredReaction.readTime, shows.read, e]
  have inserted := (rep.unhindered seen).insertion keeps.keysUnique shown shows absent records.load
  exact ⟨row.id, _, inserted, (rep.flushed _).wrote (keeps.append records rfl new)⟩

theorem adding (rep : Represents s w m) (view comment : Uuid) (label : String)
    (user : Option String) :
    ∃ outcome w', result (World.perform s) w (addReaction (some view) (some comment) label user) =
        (outcome, w') ∧
      outcome.map (fun r => { r with id := .null }) = (m.add view comment label user).1 ∧
      Represents s w' (m.add view comment label user).2 := by
  cases accepted : Label.normalize label with
  | error fault =>
    refine ⟨.error (.label fault), w, ?_, ?_, ?_⟩
    · rw [addReaction, accepted]
      rfl
    · simp [Machine.add, accepted, Except.map]
    · simpa [Machine.add, accepted] using rep
  | ok core =>
    obtain ⟨t, seen, keeps⟩ := rep.current
    have whole := Service.result_addReaction (World.perform s) w (some view) (some comment) user
      accepted
    have storing := (rep.unhindered seen).storing ⟨some view, some comment, core, user⟩
    rw [keeps.knows] at storing
    cases member : m.current.member user with
    | none =>
      rw [member, Option.isSome_none, if_neg Bool.false_ne_true] at storing
      rw [Service.result_guarded_other _ _ storing rfl] at whole
      refine ⟨_, w, whole, ?_, ?_⟩
      · simp [Machine.add, accepted, member, Except.map]
      · simpa [Machine.add, accepted, member] using rep
    | some author =>
      obtain rfl : user = some author := (Option.filter_eq_some_iff.mp member).1
      set e : Entry := ⟨view, comment, core, author, m.clock⟩ with entry
      have key : (⟨some view, some comment, core, some author⟩ : Key) = e.key := rfl
      rw [key] at whole storing
      have known : (m.current.member e.key.author).isSome = true := congrArg Option.isSome member
      rw [if_pos known] at storing
      cases before : m.current.find? e.key with
      | some old =>
        obtain ⟨n, stored⟩ := keeps.find_some before
        rw [stored] at storing
        rw [Service.result_guarded_ok _ _ storing] at whole
        refine ⟨_, w, whole, ?_, ?_⟩
        · simp only [Machine.add, accepted, member, ← entry, before]
          rfl
        · simpa only [Machine.add, accepted, member, ← entry, before] using rep
      | none =>
        obtain ⟨n, w', inserted, rep'⟩ := rep.addition seen keeps before
        rw [keeps.find_none before] at storing
        rw [Service.result_guarded_ok _ _ (storing.trans inserted)] at whole
        refine ⟨_, w', whole, ?_, ?_⟩
        · simp only [Machine.add, accepted, member, ← entry, before]
          rfl
        · simpa only [Machine.add, accepted, member, ← entry, before] using rep'

theorem removing (rep : Represents s w m) (view comment : Option Uuid) (label : String)
    (user : Option String) :
    let key : Key := ⟨view, comment, Text.trim label, user⟩
    ∃ w', result (World.perform s) w (Service.removeReaction view comment label user) =
        (.ok (m.current.find? key).isSome, w') ∧
      Represents s w' { m with current := m.current.erase key } := by
  intro key
  obtain ⟨t, seen, keeps⟩ := rep.current
  refine ⟨_, ?_, rep.wrote (keeps.erase key)⟩
  rw [(rep.unhindered seen).removal, keeps.decide_holds]

theorem joinedRows (rep : Represents s w m) (seen : w.view s = some t)
    (conditions : List Condition) :
    World.perform s (.joinedRows conditions) w = ⟨t.joined conditions, [], w⟩ := by
  simp [World.perform, World.reply, (rep.unhindered seen).tables, Except.bind]

theorem listingComment (rep : Represents s w m) (comment : Uuid) :
    result (World.perform s) w (Service.listComment (some comment)) =
      (.ok (m.current.types comment), w) := by
  obtain ⟨t, seen, keeps⟩ := rep.current
  rw [Service.result_listComment]
  simp only [rep.joinedRows seen]
  rw [keeps.types]

theorem listingView (rep : Represents s w m) (view : Uuid) (comment : Option Uuid) :
    result (World.perform s) w (Service.listView (some view) comment) =
      (.ok (m.current.comments view comment), w) := by
  obtain ⟨t, seen, keeps⟩ := rep.current
  rw [Service.result_listView]
  simp only [rep.joinedRows seen]
  rw [keeps.comments]

theorem publish_eq (rep : Represents s w m) :
    w.publish s = { w with committed := w.view s, writer := none } := by
  unfold World.publish World.view
  rcases own : w.writer with _ | ⟨r, t⟩
  · simp [← own]
  · simp [rep.alone r t own]

theorem committing (rep : Represents s w m) :
    w.commit s = (.ok (), w.publish s) ∧
      Represents s (w.publish s) { m with saved := m.current } := by
  refine ⟨World.commit_eq rep.quiet rep.sound, ?_⟩
  rw [rep.publish_eq]
  exact ⟨rep.quiet, rep.sound, fun r t own => by simp at own, rep.clock, rep.current, rep.current⟩

theorem rollingBack (rep : Represents s w m) :
    Represents s (w.discard s) { m with current := m.saved } := by
  have reader := World.not_writer_discard w s
  refine ⟨by simp, by simp, fun r t own => ?_, by simpa using rep.clock, ?_,
    by simpa using rep.saved⟩
  · rw [World.writer_discard] at own
    exact rep.alone r t (Option.filter_eq_some_iff.mp own).1
  · rw [World.view_of_not_writer reader]
    simpa using rep.saved

theorem changing (rep : Represents s w m) (c : Directory.Change) :
    ((w.changeDirectory s c).1.map fun _ => Reply.done) = (m.change c).1 ∧
      Represents s (w.changeDirectory s c).2 (m.change c).2 := by
  obtain ⟨t, seen, keeps⟩ := rep.current
  simp only [World.changeDirectory, (rep.unhindered seen).tables, rep.mayWrite, if_true]
  cases c with
  | enroll user =>
    have known := m.current.isSome_member user.id
    by_cases taken : (m.current.users.any fun u => u.id == user.id) = true
    · simp only [Directory.Change.apply, Machine.change, keeps.users, known, if_pos taken]
      exact ⟨rfl, rep.wrote keeps⟩
    · have new : m.current.member (some user.id) = none := by simpa [← known] using taken
      simp only [Directory.Change.apply, Machine.change, keeps.users, known, if_neg taken]
      exact ⟨rfl, rep.wrote (keeps.enroll new)⟩
  | dismiss id =>
    simp only [Directory.Change.apply, Machine.change, keeps.users]
    exact ⟨rfl, rep.wrote (keeps.dismiss _)⟩

end Represents

theorem serve_eq {s : SessionName} {w w' : World} {α : Type} {p : Program α}
    {outcome : Except Failure α} {f : α → Service.Answer} (job : Service.Job)
    (shape : job.program = p >>= fun a => pure (f a))
    (ended : result (World.perform s) w p = (outcome, w')) :
    Step.serve s job w = (outcome.map fun a => .unnumbered (f a), w') := by
  have whole := Program.result_bind_pure (World.perform s) w p f
  rw [ended, ← shape] at whole
  obtain ⟨reply, state⟩ := Prod.mk.inj whole
  simp only [Step.serve, reply, state]
  cases outcome <;> rfl

theorem step_agrees {s : SessionName} {w : World} {m : Machine} (rep : Represents s w m)
    (a : Step) : (a.run s w).1 = (m.step a).1 ∧ Represents s (a.run s w).2 (m.step a).2 := by
  cases a with
  | add view comment label user =>
    obtain ⟨outcome, w', ended, answer, later⟩ := rep.adding view comment label user
    have served := serve_eq (.add (some view) (some comment) label user) rfl ended
    simp only [Step.run, Machine.step, served, ← answer]
    refine ⟨?_, later⟩
    cases outcome <;> rfl
  | remove view comment label user =>
    obtain ⟨w', ended, later⟩ := rep.removing (some view) (some comment) label user
    have served := serve_eq (.remove (some view) (some comment) label user) rfl ended
    simp only [Step.run, Machine.step, served]
    exact ⟨rfl, later⟩
  | listComment comment =>
    have served := serve_eq (.listComment (some comment)) rfl (rep.listingComment comment)
    simp only [Step.run, Machine.step, served]
    exact ⟨rfl, rep⟩
  | listView view comment =>
    have served := serve_eq (.listView (some view) comment) rfl (rep.listingView view comment)
    simp only [Step.run, Machine.step, served]
    exact ⟨rfl, rep⟩
  | commit =>
    obtain ⟨done, later⟩ := rep.committing
    simp only [Step.run, Machine.step, done]
    exact ⟨rfl, later⟩
  | rollback => exact ⟨rfl, rep.rollingBack⟩
  | directory c => exact rep.changing c
  | tick reading =>
    exact ⟨rfl, rep.quiet, rep.sound, rep.alone, ⟨_, rfl, reading.shows⟩, rep.current, rep.saved⟩

theorem replies_agree {s : SessionName} {w : World} {m : Machine} (rep : Represents s w m)
    (steps : List Step) : replies (Step.run s) steps w = replies Machine.step steps m := by
  induction steps generalizing w m with
  | nil => rfl
  | cons a steps ih =>
    obtain ⟨reply, later⟩ := step_agrees rep a
    rw [replies, replies, reply, ih later]

theorem represents_initial (s : SessionName) : Represents s World.initial Machine.initial where
  quiet := rfl
  sound := rfl
  alone r t own := by simp [World.initial] at own
  clock := ⟨_, rfl, ClockText.shows_start⟩
  current := ⟨.empty, rfl, ⟨.nil, rfl, List.nodup_nil, Tables.ordered_empty⟩⟩
  saved := ⟨.empty, rfl, ⟨.nil, rfl, List.nodup_nil, Tables.ordered_empty⟩⟩

/-- Whatever one session asks of a store that nobody else uses, the answers are those of the
machine. -/
theorem service_answers_like_machine (s : SessionName) (steps : List Step) :
    replies (Step.run s) steps World.initial = replies Machine.step steps Machine.initial :=
  replies_agree (represents_initial s) steps

end ReactionLedger.Reference
