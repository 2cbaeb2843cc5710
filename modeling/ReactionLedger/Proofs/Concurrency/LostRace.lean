import ReactionLedger.Proofs.Session.Results
import ReactionLedger.Proofs.Store.Flushing
import ReactionLedger.Proofs.Store.Rivals

set_option autoImplicit false

namespace ReactionLedger

open Program (result)
open Scenario (Contest Outcome Steps contest)
open Service (Added addReaction insertReaction reread storeReaction)

section Race

variable {w : World} {s : SessionName} {key : Key} {t : Tables}
variable (before after : Steps (List Outcome)) (dead : Bool)

theorem result_storeReaction_contest (clean : w.Clean s) (stored : w.committed = some t)
    (known : t.knows key.author = true) (absent : ¬ t.Holds key) :
    result (contest s before after dead) ⟨w, false, false, []⟩ (storeReaction key) =
      result (contest s before after dead) ⟨w, false, false, []⟩ (insertReaction key) := by
  have user : (w.reply s (.userKnown key.author)).1 = .ok true := by
    simp [World.reply, clean.tables stored, known, Except.map]
  have found : (w.reply s (.findReaction key)).1 = .ok none := by
    simp [World.reply, clean.tables stored, Except.bind, (Tables.find_eq_none_iff t key).mpr absent]
  have knownReply : contest s before after dead (.userKnown key.author) ⟨w, false, false, []⟩ =
      ⟨.ok true, [], ⟨w, false, false, []⟩⟩ := by
    rw [← user]
    rfl
  have foundReply : contest s before after dead (.findReaction key) ⟨w, false, false, []⟩ =
      ⟨.ok none, [], ⟨w, false, false, []⟩⟩ := by
    rw [← found]
    rfl
  simp only [Service.result_storeReaction, knownReply, foundReply]

theorem result_insertReaction_contest (key : Key) (quiet : w.pending s = []) :
    result (contest s before after dead) ⟨w, false, false, []⟩ (insertReaction key) =
      let first := before (w.setPending s [key])
      let flushed := first.world.flush s
      match flushed.1 with
      | .ok () =>
        ((flushed.2.refresh s key).map Added.now, ⟨flushed.2, true, false, first.outcome⟩)
      | .error (.store (.integrity origin text)) =>
        let second := after (flushed.2.discard s)
        let found := (second.world.tables s World.noReactions).bind fun t => t.find key
        (reread (.integrity origin text) found,
          ⟨second.world, true, true, first.outcome ++ second.outcome⟩)
      | .error e => (.error e, ⟨flushed.2, true, false, first.outcome⟩) := by
  have added : contest s before after dead (.add key) ⟨w, false, false, []⟩ =
      ⟨.ok (), [], ⟨w.setPending s [key], false, false, []⟩⟩ := by
    simp [contest, World.reply, quiet]
  have flush (w : World) : contest s before after dead .flush ⟨w, false, false, []⟩ =
      ⟨((before w).world.flush s).1, (before w).journal,
        ⟨((before w).world.flush s).2, true, false, (before w).outcome⟩⟩ := rfl
  rw [Service.result_insertReaction]
  simp only [added, flush]
  rcases (before (w.setPending s [key])).world.flush s with ⟨e | _, w'⟩
  · cases e with
    | store fault =>
      cases fault with
      | integrity origin text =>
        dsimp only
        rw [Service.result_lostRace]
        rfl
      | _ => rfl
    | _ => rfl
  · rfl

section Ways

variable {failed : String} {first second : Scenario.Course (List Outcome)}
variable (quiet : w.pending s = []) (came : before (w.setPending s [key]) = first)
include quiet came

theorem result_contest_locked (went : after (first.world.discard s) = second)
    (refused : first.world.flush s = first.world.failFlush s World.locked) :
    result (contest s before after dead) ⟨w, false, false, []⟩
        (Service.guarded failed (insertReaction key)) =
      (.error (.access failed (some World.locked)),
        ⟨second.world, true, true, first.outcome ++ second.outcome⟩) := by
  have body := result_insertReaction_contest before after dead key quiet
  simp only [came, refused] at body
  rw [Service.result_guarded_store _ _ body, ← went,
    ← World.discard_failFlush first.world s World.locked]
  rfl

theorem result_contest_stored {w' : World} {reaction : Reaction}
    (flushed : first.world.flush s = (.ok (), w')) (found : w'.refresh s key = .ok reaction) :
    result (contest s before after dead) ⟨w, false, false, []⟩
        (Service.guarded failed (insertReaction key)) =
      (.ok (.now reaction), ⟨w', true, false, first.outcome⟩) := by
  have body := result_insertReaction_contest before after dead key quiet
  simp only [came, flushed, found, Except.map] at body
  exact Service.result_guarded_ok _ _ body

theorem result_contest_found {reaction : Reaction} {t' : Tables}
    (went : after (first.world.discard s) = second)
    (refused : first.world.flush s = first.world.failFlush s Tables.duplicate)
    (read : second.world.tables s World.noReactions = .ok t')
    (found : t'.find key = .ok (some reaction)) :
    result (contest s before after dead) ⟨w, false, false, []⟩
        (Service.guarded failed (insertReaction key)) =
      (.ok (.before reaction), ⟨second.world, true, true, first.outcome ++ second.outcome⟩) := by
  have body := result_insertReaction_contest before after dead key quiet
  simp only [came, refused, World.discard_failFlush, went, read, Except.bind, found] at body
  exact Service.result_guarded_ok _ _ body

theorem result_contest_gone {t' : Tables}
    (went : after (first.world.discard s) = second)
    (refused : first.world.flush s = first.world.failFlush s Tables.duplicate)
    (read : second.world.tables s World.noReactions = .ok t')
    (gone : t'.find key = .ok none) :
    result (contest s before after dead) ⟨w, false, false, []⟩
        (Service.guarded failed (insertReaction key)) =
      (.error (.access failed (some Tables.duplicate)),
        ⟨second.world.discard s, true, true, first.outcome ++ second.outcome⟩) := by
  have body := result_insertReaction_contest before after dead key quiet
  simp only [came, refused, World.discard_failFlush, went, read, Except.bind, gone] at body
  exact Service.result_guarded_store _ _ body

end Ways

end Race

namespace World

variable {w w' : World} {s : SessionName} {key : Key} {t : Tables}

theorem mayWrite_eq_false_iff (w : World) (s : SessionName) :
    w.mayWrite s = false ↔ w.HeldByRival s := by
  unfold mayWrite HeldByRival
  rcases w.writer with _ | ⟨r, t⟩
  · simp
  · simp

theorem mayWrite_of_free (free : ¬ w.HeldByRival s) : w.mayWrite s = true := by
  simpa using (mayWrite_eq_false_iff w s).not.mpr free

theorem writer_discard_of_reader (reader : ∀ t, w.writer ≠ some (s, t)) :
    (w.discard s).writer = w.writer := by
  rw [writer_discard]
  cases own : w.writer with
  | none => rfl
  | some writer =>
    have other : writer.1 ≠ s := fun same => reader writer.2 (same ▸ own)
    simp [Option.filter, other]

structure AtFlush (key : Key) (s : SessionName) (w : World) : Prop where
  order : InOrder key w
  queued : w.pending s = [key]
  sound : w.failed s = none
  unchanged : w.Unchanged s

theorem Clean.atFlush (clean : w.Clean s) (order : InOrder key w)
    (rivals : Rivals s (w.setPending s [key]) w') : AtFlush key s w' := by
  have queuing : (Move.call s (.add key)).play w = w.setPending s [key] := by
    simp [Move.play, World.reply, clean.pending]
  have queued := order.play (show (Move.call s (.add key)).Orderly from trivial)
  rw [queuing] at queued
  obtain ⟨order', spared⟩ := rivals.keeps queued
  exact ⟨order', spared.pending.trans (by simp), spared.failed.trans clean.failed,
    spared.unchanged clean.unchanged⟩

namespace AtFlush

variable (met : AtFlush key s w)
include met

theorem seen (stored : w.committed = some t) : w.view s = some t := met.unchanged.view.trans stored

theorem locked (stored : w.committed = some t) (held : w.HeldByRival s) :
    w.flush s = w.failFlush s World.locked :=
  flush_locked met.queued met.sound (met.seen stored) ((mayWrite_eq_false_iff w s).mpr held)

theorem resumed (rivals : Rivals s (w.discard s) w') :
    InOrder key w' ∧ w'.Clean s ∧ ∀ t, w'.writer ≠ some (s, t) := by
  obtain ⟨order, spared⟩ :=
    rivals.keeps (met.order.play (show (Move.call s .rollback).Orderly from trivial))
  exact ⟨order, spared.clean (clean_discard w s),
    fun t own => not_writer_discard w s t ((spared.writer t).mp own)⟩

end AtFlush

section Flush

variable {view comment : Uuid} {label author : String}

theorem AtFlush.refused (met : AtFlush ⟨some view, some comment, label, some author⟩ s w)
    (free : ¬ w.HeldByRival s) (stored : w.committed = some t)
    (present : t.Holds ⟨some view, some comment, label, some author⟩) :
    w.flush s = w.failFlush s Tables.duplicate := by
  obtain ⟨now, stamp, shown, shows⟩ := met.order.onTime
  refine flush_refuses met.queued met.sound (met.seen stored) (mayWrite_of_free free) ?_
  rw [shown]
  exact Tables.insertOne_duplicate shows present

-- the row is read back from the session's own tables
theorem AtFlush.stores {now : String}
    (met : AtFlush ⟨some view, some comment, label, some author⟩ s w)
    (free : ¬ w.HeldByRival s) (stored : w.committed = some t) (shown : w.clock = some now)
    (absent : ¬ t.Holds ⟨some view, some comment, label, some author⟩) :
    let row := t.newRow view comment label author now
    ∃ w' reaction, w.flush s = (.ok (), w') ∧ w'.committed = w.committed ∧
      w'.writer = some (s, { t with reactions := t.reactions ++ [row] }) ∧
      row.load = .ok reaction ∧
      w'.refresh s ⟨some view, some comment, label, some author⟩ = .ok reaction := by
  intro row
  obtain ⟨text, stamp, same, shows⟩ := met.order.onTime
  obtain rfl : now = text := Option.some.inj (shown.symm.trans same)
  have flushed := flush_stores met.queued met.sound (met.seen stored) (mayWrite_of_free free)
    (shown ▸ Tables.insertOne_absent shows absent)
  have has : row.hasKey _ = true := t.newRow_hasKey view comment label author now
  have read : StoredReaction.readTime row.created = .ok (.stamp stamp) := by
    simp [row, Tables.newRow, StoredReaction.readTime, shows.read]
  have load := StoredReaction.load_of_hasKey has read
  have reached : (w.flush s).2.Reachable := met.order.reached.play (.call s .flush)
  rw [flushed] at reached
  refine ⟨_, _, flushed, rfl, rfl, load, ?_⟩
  exact refresh_of_mem met.sound (view_of_writer rfl) (reached.keysUnique.written s _ rfl)
    (List.mem_append_right _ List.mem_cons_self) has load

end Flush

theorem InOrder.found (order : InOrder key w) (stored : w.committed = some t) (held : t.Holds key) :
    ∃ reaction, t.find key = .ok (some reaction) ∧
      ∀ row ∈ t.reactions, row.hasKey key = true → row.load = .ok reaction := by
  obtain ⟨row, mem, has⟩ := held
  have unique := order.reached.keysUnique.committed t stored
  obtain ⟨reaction, load⟩ := order.legible.committed t stored row mem has
  refine ⟨reaction, by simp [Tables.find_of_mem unique mem has, load, Except.map], ?_⟩
  intro q inside hasToo
  have same : q = row :=
    List.inj_on_of_nodup_map unique inside mem (StoredReaction.key_eq hasToo has)
  rw [same, load]

end World

/-- The committed row with its key, at the flush and again after the rollback, decides how the
addition ends. -/
theorem outcome_of_interrupted_addition {w : World} {s : SessionName} {t : Tables}
    {view comment : Uuid} {label core user : String} (before after : Steps (List Outcome))
    (dead : Bool) (reached : w.Reachable) (onTime : w.OnTime) (clean : w.Clean s)
    (accepted : Label.normalize label = .ok core) (stored : w.committed = some t)
    (known : t.knows (some user) = true)
    (absent : ¬ t.Holds ⟨some view, some comment, core, some user⟩)
    (rivalsBefore : ∀ w, World.Rivals s w (before w).world)
    (rivalsAfter : ∀ w, World.Rivals s w (after w).world) :
    let key : Key := ⟨some view, some comment, core, some user⟩
    let atFlush := (before (w.setPending s [key])).world
    let resumed := (after (atFlush.discard s)).world
    let r := (addReaction (some view) (some comment) label (some user)).run
      (contest s before after dead) ⟨w, false, false, []⟩
    let failure (cause : Failure) : Failure := .access "Failed to add reaction" (some cause)
    (atFlush.HeldByRival s → r.outcome = .error (failure World.locked)) ∧
    (¬ atFlush.HeldByRival s → ∃ t now, atFlush.committed = some t ∧ atFlush.clock = some now ∧
      (¬ t.Holds key →
        let row := t.newRow view comment core user now
        r.state.rolledBack = false ∧ r.state.world.committed = some t ∧
        r.state.world.writer = some (s, { t with reactions := t.reactions ++ [row] }) ∧
        ∃ reaction, row.load = .ok reaction ∧ r.outcome = .ok reaction) ∧
      (t.Holds key →
        r.state.rolledBack = true ∧ r.state.world.committed = resumed.committed ∧
        r.state.world.writer = resumed.writer ∧ r.state.world.pending s = [] ∧
        ∃ t', resumed.committed = some t' ∧
          (∀ row ∈ t'.reactions, row.hasKey key = true →
            ∃ reaction, row.load = .ok reaction ∧ r.outcome = .ok reaction) ∧
          (¬ t'.Holds key → r.outcome = .error (failure Tables.duplicate)))) ∧
    r.state.world.KeysUnique := by
  intro key atFlush resumed r failure
  have ends {outcome : Except Failure Added} {final : Contest}
      (ended : result (contest s before after dead) ⟨w, false, false, []⟩
        (Service.guarded "Failed to add reaction" (insertReaction key)) = (outcome, final)) :
      r.outcome = outcome.map Added.reaction ∧ r.state = final := by
    have whole := Service.result_addReaction (contest s before after dead) ⟨w, false, false, []⟩
      (some view) (some comment) (some user) accepted
    rw [Service.result_guarded_congr _ _
      (result_storeReaction_contest before after dead clean stored known absent), ended] at whole
    exact Prod.mk.inj whole
  have order : World.InOrder key w :=
    ⟨reached, onTime, by simp [stored], reached.legible stored absent⟩
  have met : World.AtFlush key s atFlush := clean.atFlush order (rivalsBefore _)
  obtain ⟨order₂, clean₂, reader⟩ := met.resumed (rivalsAfter _)
  obtain ⟨t₁, stored₁⟩ := Option.isSome_iff_exists.mp met.order.stored
  obtain ⟨t₂, stored₂⟩ := Option.isSome_iff_exists.mp order₂.stored
  by_cases held : atFlush.HeldByRival s
  · obtain ⟨outcome, state⟩ := ends (result_contest_locked before after dead clean.pending rfl rfl
      (met.locked stored₁ held))
    rw [state]
    exact ⟨fun _ => outcome, fun idle => absurd held idle, order₂.reached.keysUnique⟩
  refine ⟨fun busy => absurd busy held, ?_⟩
  obtain ⟨now, -, shown, -⟩ := met.order.onTime
  by_cases present : t₁.Holds key
  · have refused := met.refused held stored₁ present
    have read := clean₂.tables stored₂ World.noReactions
    by_cases still : t₂.Holds key
    · obtain ⟨reaction, found, loads⟩ := order₂.found stored₂ still
      obtain ⟨outcome, state⟩ :=
        ends (result_contest_found before after dead clean.pending rfl rfl refused read found)
      rw [state]
      refine ⟨fun _ => ⟨t₁, now, stored₁, shown, fun none => absurd present none, fun _ => ?_⟩,
        order₂.reached.keysUnique⟩
      exact ⟨rfl, rfl, rfl, clean₂.pending, t₂, stored₂,
        fun row mem has => ⟨reaction, loads row mem has, outcome⟩, fun gone => absurd still gone⟩
    · obtain ⟨outcome, state⟩ := ends (result_contest_gone before after dead clean.pending rfl rfl
        refused read ((Tables.find_eq_none_iff t₂ key).mpr still))
      rw [state]
      refine ⟨fun _ => ⟨t₁, now, stored₁, shown, fun none => absurd present none, fun _ => ?_⟩,
        (order₂.reached.play (.call s .rollback)).keysUnique⟩
      exact ⟨rfl, World.committed_discard resumed s, World.writer_discard_of_reader reader,
        (World.clean_discard resumed s).pending, t₂, stored₂,
        fun row mem has => absurd ⟨row, mem, has⟩ still, fun _ => outcome⟩
  · obtain ⟨w', reaction, flushed, committed, written, load, found⟩ :=
      met.stores held stored₁ shown present
    obtain ⟨outcome, state⟩ :=
      ends (result_contest_stored before after dead clean.pending rfl flushed found)
    have reached₁ : (atFlush.flush s).2.Reachable := met.order.reached.play (.call s .flush)
    rw [flushed] at reached₁
    rw [state]
    refine ⟨fun _ => ⟨t₁, now, stored₁, shown, fun _ => ?_, fun held => absurd held present⟩,
      reached₁.keysUnique⟩
    exact ⟨rfl, committed.trans stored₁, written, reaction, load, outcome⟩

namespace Race

def key : Key := ⟨some (.ofNat 1), some (.ofNat 2), "like", some "ann"⟩

def row : StoredReaction :=
  ⟨1, (Uuid.ofNat 1).compact, (Uuid.ofNat 2).compact, "like", "ann", .text "2024-05-01 12:00:00"⟩

def users : List User := [⟨"ann", "Ann"⟩]

def start : World := World.initial.after [.task (.putUser (some "ann") (some "Ann"))]

def rivalSteps : List Scenario.Step :=
  [.call (some "rival")
      (.add (some (Uuid.ofNat 1).compact) (some (Uuid.ofNat 2).compact) "like" (some "ann")),
    .settle (some "rival") .commit]

def rivalAddition : Steps (List Outcome) := Scenario.playAll 0 Scenario.mainSession rivalSteps

def nothing : Steps (List Outcome) := fun w => ⟨[], [], w⟩

theorem rivals_rivalAddition (w : World) :
    World.Rivals (.named "own") w (rivalAddition w).world := by
  refine Scenario.rivals_playAll (fun step mem => ?_) 0 Scenario.mainSession w
  have other : SessionName.named "rival" ≠ .named "own" := by decide
  simp only [rivalSteps, List.mem_cons, List.not_mem_nil, or_false] at mem
  rcases mem with rfl | rfl <;> exact other

theorem committed_rivalAddition :
    (rivalAddition (start.setPending (.named "own") [key])).world.committed =
      some ⟨[row], users⟩ := by decide +kernel

theorem interrupted_by_same_addition :
    ∃ reaction, row.load = .ok reaction ∧
      ((addReaction (some (.ofNat 1)) (some (.ofNat 2)) " like" (some "ann")).run
        (contest (.named "own") rivalAddition nothing true) ⟨start, false, false, []⟩).outcome =
          .ok reaction := by
  have clean : start.Clean (.named "own") := ⟨rfl, rfl, fun t own => by cases own⟩
  have has : row.hasKey key = true := by decide +kernel
  obtain ⟨-, idle, -⟩ := outcome_of_interrupted_addition rivalAddition nothing true
    (World.Reachable.after ⟨[], rfl⟩ _) (World.initial_onTime.congr rfl) clean
    (show Label.normalize " like" = .ok "like" by decide +kernel)
    (show start.committed = some ⟨[], users⟩ from rfl)
    (show Tables.knows _ (some "ann") = true by decide)
    (show ¬ Tables.Holds _ key by decide) rivals_rivalAddition fun w => .refl _ w
  obtain ⟨t, now, stored, -, -, lost⟩ :=
    idle ((not_congr (World.mayWrite_eq_false_iff _ _)).mp (by decide +kernel))
  obtain rfl := Option.some.inj (committed_rivalAddition.symm.trans stored)
  obtain ⟨-, -, -, -, t', resumed, found, -⟩ := lost ⟨row, List.mem_cons_self, has⟩
  have same : some t' = some ⟨[row], users⟩ := by
    rw [← resumed, ← committed_rivalAddition]
    exact World.committed_discard _ _
  obtain rfl := Option.some.inj same
  exact found row List.mem_cons_self has

end Race

end ReactionLedger
