import ReactionLedger.Proofs.Concurrency.Additions
import ReactionLedger.Proofs.Session.Results
import ReactionLedger.Proofs.Store.Contention
import ReactionLedger.Proofs.Store.Flushing

set_option autoImplicit false

namespace ReactionLedger

open Program (result)
open Service (Added insertReaction reread storeReaction)

namespace World

structure Idle (s : SessionName) (w : World) : Prop where
  pending : w.pending s = []
  failed : w.failed s = none

variable {s : SessionName} {Φ : Option Tables → Prop} {w w' : World} {t t' : Tables}

theorem Spares.idle (spared : Spares s w w') (idle : Idle s w) : Idle s w' :=
  ⟨spared.pending.trans idle.pending, spared.failed.trans idle.failed⟩

theorem Spares.reader (spared : Spares s w w') (reader : ∀ t, w.writer ≠ some (s, t)) :
    ∀ t, w'.writer ≠ some (s, t) :=
  fun t own => reader t ((spared.writer t).mp own)

theorem carries_edit (seen : w.view s = some t) (keeps : Φ (some t) → Φ (some t'))
    (own : w'.writer = some (s, t')) : Carries s Φ w w' where
  seen held := by
    rw [view_of_writer own]
    exact keeps (seen ▸ held)
  written old before := by
    obtain rfl : old = t := Option.some.inj ((view_of_writer before).symm.trans seen)
    exact ⟨t', own, keeps⟩

theorem carries_reader (reader : ∀ t, w.writer ≠ some (s, t))
    (committed : w'.committed = w.committed) (reader' : ∀ t, w'.writer ≠ some (s, t)) :
    Carries s Φ w w' where
  seen held := by
    rw [view_of_not_writer reader] at held
    rwa [view_of_not_writer reader', committed]
  written t own := absurd own (reader t)

theorem reader_of_refused {key : Key} {row : StoredReaction} {e : Failure} (timely : w.OnTime)
    (full : row.hasKey key = true) (seen : w.view s = some t)
    (refused : insertOne w.clock t key = .error e)
    (absent : ∀ t, w.writer = some (s, t) → ¬ t.Holds key) : ∀ t, w.writer ≠ some (s, t) := by
  intro t' own
  obtain rfl : t' = t := Option.some.inj ((view_of_writer own).symm.trans seen)
  obtain ⟨now, stamp, shown, shows⟩ := timely
  obtain ⟨view, comment, label, author, rfl⟩ := StoredReaction.full_of_hasKey full
  rw [shown, Tables.insertOne_absent shows (absent t' own)] at refused
  cases refused

end World

namespace Contention

variable {s : SessionName} {Φ : Option Tables → Prop} {c c' : Contention} {key : Key}

theorem Ready.own (ready : Ready s c) (call : Call) :
    Ready s { c with world := (c.world.reply s call).2 } :=
  ⟨ready.reached.play (.call s call),
    Move.play_onTime (show (Move.call s call).KeepsTime from trivial) ready.timely, ready.rivals⟩

structure Served (s : SessionName) (Φ : Option Tables → Prop) (key : Key) (reaction : Reaction)
    (c c' : Contention) : Prop where
  ready : Ready s c'
  idle : World.Idle s c'.world
  keeps : Keeps s Φ c c'
  row : ∃ t row, c'.world.view s = some t ∧ row ∈ t.reactions ∧ row.hasKey key = true ∧
    row.load = .ok reaction

theorem Served.after {c₀ : Contention} {reaction : Reaction} (served : Served s Φ key reaction c c')
    (keeps : Keeps s Φ c₀ c) : Served s Φ key reaction c₀ c' :=
  ⟨served.ready, served.idle, keeps.trans served.keeps, served.row⟩

theorem served_of_reads {call : Call} {reaction : Reaction} (ready : Ready s c)
    (idle : World.Idle s c.world)
    (reads : Service.Reads key reaction ⟨call, (c.meet.world.reply s call).1⟩) :
    Served s Φ key reaction c c.meet := by
  obtain ⟨ready', spared, keeps⟩ := ready.meet
  obtain ⟨t, row, seen, mem, has, load⟩ := World.row_of_reads reads
  exact ⟨ready', spared.idle idle, keeps Φ, t, row, seen, mem, has, load⟩

theorem lostRace_spec {conflict : StoreFault} {added : Added} (ready : Ready s c)
    (reader : ∀ t, c.world.writer ≠ some (s, t))
    (ended : result (perform s) c (Service.lostRace key conflict) = (.ok added, c')) :
    Served s Φ key added.reaction c c' := by
  obtain ⟨ready₁, spared₁, keeps₁⟩ := ready.meet
  have ready₂ := ready₁.own .rollback
  set c₂ : Contention := { c.meet with world := c.meet.world.discard s } with state₂
  have rollback : (perform s .rollback c).state = c₂ := rfl
  have idle₂ : World.Idle s c₂.world := ⟨by simp [c₂], by simp [c₂]⟩
  have keeps₂ : Keeps s Φ c c₂ := (keeps₁ Φ).trans (keeps_of_carries (World.carries_reader
    (spared₁.reader reader) (World.committed_discard _ s) (World.not_writer_discard _ s)))
  simp only [Service.result_lostRace, rollback, Prod.mk.injEq] at ended
  obtain ⟨outcome, rfl⟩ := ended
  cases found : (perform s (.findReaction key) c₂).outcome with
  | error e => simp [found, reread] at outcome
  | ok stored? =>
    cases stored? with
    | none => simp [found, reread] at outcome
    | some stored =>
      simp only [found, reread, Except.ok.injEq] at outcome
      subst outcome
      have served : Served s Φ key stored c₂ c₂.meet :=
        served_of_reads ready₂ idle₂ (show Service.Reads key stored ⟨.findReaction key, _⟩ from
          ⟨rfl, found⟩)
      exact served.after keeps₂

def queue (s : SessionName) (key : Key) (c : Contention) : Contention :=
  { c.meet with world := c.meet.world.setPending s [key] }

theorem perform_add (key : Key) (quiet : c.meet.world.pending s = []) :
    perform s (.add key) c = ⟨.ok (), [], c.queue s key⟩ := by
  simp [perform, World.reply, quiet, queue]

-- what is handed over stays so until the flush
theorem queued_of_spares {w : World} (sound : c.meet.world.failed s = none)
    (spared : World.Spares s (c.queue s key).world w) :
    w.pending s = [key] ∧ w.failed s = none :=
  ⟨spared.pending.trans (by simp [queue]), spared.failed.trans sound⟩

theorem insertReaction_spec {added : Added} (ready : Ready s c) (idle : World.Idle s c.world)
    (absent : ∀ t, c.world.writer = some (s, t) → ¬ t.Holds key)
    (respects : ∀ clock t t', Φ (some t) → World.insertOne clock t key = .ok t' → Φ (some t'))
    (ended : result (perform s) c (insertReaction key) = (.ok added, c')) :
    Served s Φ key added.reaction c c' := by
  obtain ⟨ready₁, spared₁, keeps₁⟩ := ready.meet
  obtain ⟨quiet₁, sound₁⟩ := spared₁.idle idle
  have addedReply := perform_add key quiet₁
  set c₂ := c.queue s key
  have ready₂ : Ready s c₂ := by
    have own := ready₁.own (.add key)
    simpa [World.reply, quiet₁, c₂, queue] using own
  have keeps₂ : Keeps s Φ c c₂ := (keeps₁ Φ).trans (keeps_of_carries (.of_same rfl rfl))
  obtain ⟨ready₃, spared₃, keeps₃⟩ := ready₂.meet
  obtain ⟨queued, sound⟩ := queued_of_spares sound₁ spared₃
  have flushReply : perform s .flush c₂ = ⟨(c₂.meet.world.flush s).1, [],
      { c₂.meet with world := (c₂.meet.world.flush s).2 }⟩ := rfl
  have ready₄ := ready₃.own .flush
  rcases World.flush_cases queued sound with
    ⟨t, t', seen, free, stored, flushed⟩ | ⟨e, failed, reason⟩
  · simp only [World.reply, flushed] at ready₄
    simp only [Service.result_insertReaction, addedReply, flushReply, flushed] at ended
    set c₄ : Contention := { c₂.meet with
      world := { c₂.meet.world.setPending s [] with writer := some (s, t') } }
    have idle₄ : World.Idle s c₄.world := ⟨by simp [c₄], sound⟩
    have keeps₄ : Keeps s Φ c₂.meet c₄ :=
      keeps_of_carries (World.carries_edit seen (fun held => respects _ t t' held stored) rfl)
    cases refreshed : (perform s (.refresh key) c₄).outcome with
    | error e => simp [refreshed, Except.map] at ended
    | ok reaction =>
      simp only [refreshed, Except.map, Prod.mk.injEq, Except.ok.injEq] at ended
      obtain ⟨rfl, rfl⟩ := ended
      have served : Served s Φ key reaction c₄ c₄.meet :=
        served_of_reads ready₄ idle₄ (show Service.Reads key reaction ⟨.refresh key, _⟩ from
          ⟨rfl, refreshed⟩)
      exact served.after ((keeps₂.trans (keeps₃ Φ)).trans keeps₄)
  · simp only [World.reply, failed, World.failFlush] at ready₄
    rw [failed, World.failFlush] at flushReply
    set c₄ : Contention := { c₂.meet with
      world := (c₂.meet.world.discard s).setFailed s (some e) }
    obtain ⟨origin, text, rfl, lost⟩ :=
      Service.lostRace_of_failed_flush (perform s) c addedReply flushReply ended
    obtain ⟨t, seen, refused⟩ : ∃ t, c₂.meet.world.view s = some t ∧
        World.insertOne c₂.meet.world.clock t key = .error (.store (.integrity origin text)) := by
      simpa [World.noReactions, World.locked, World.broken] using reason
    have served := lostRace_spec (Φ := Φ) ready₄ (World.not_writer_discard _ s) lost
    obtain ⟨_, row, -, -, has, -⟩ := served.row
    have reader : ∀ t, c₂.meet.world.writer ≠ some (s, t) :=
      World.reader_of_refused ready₃.timely has seen refused fun t own =>
        absent t ((spared₁.writer t).mp ((spared₃.writer t).mp own))
    have keeps₄ : Keeps s Φ c₂.meet c₄ := keeps_of_carries
      (World.carries_reader reader (World.committed_discard _ s) (World.not_writer_discard _ s))
    exact served.after ((keeps₂.trans (keeps₃ Φ)).trans keeps₄)

theorem storeReaction_spec {added : Added} (ready : Ready s c) (idle : World.Idle s c.world)
    (respects : ∀ clock t t', Φ (some t) → World.insertOne clock t key = .ok t' → Φ (some t'))
    (ended : result (perform s) c (storeReaction key) = (.ok added, c')) :
    Served s Φ key added.reaction c c' := by
  obtain ⟨ready₁, spared₁, keeps₁⟩ := ready.meet
  obtain ⟨ready₂, spared₂, keeps₂⟩ := ready₁.meet
  simp only [Service.result_storeReaction] at ended
  split at ended
  next => simp at ended
  next => simp at ended
  next => simp at ended
  next stored known found =>
    simp only [Prod.mk.injEq, Except.ok.injEq] at ended
    obtain ⟨rfl, rfl⟩ := ended
    have served : Served s Φ key stored c.meet c.meet.meet :=
      served_of_reads ready₁ (spared₁.idle idle)
        (show Service.Reads key stored ⟨.findReaction key, _⟩ from ⟨rfl, found⟩)
    exact served.after (keeps₁ Φ)
  next known found =>
    have absent : ∀ t, c.meet.meet.world.writer = some (s, t) → ¬ t.Holds key := by
      intro t own
      have idle₂ := spared₂.idle (spared₁.idle idle)
      have reply : (c.meet.meet.world.tables s World.noReactions).bind (fun t => t.find key) =
        .ok none := found
      simp only [World.tables, idle₂.failed, World.view_of_writer own, Except.bind] at reply
      exact (Tables.find_eq_none_iff t key).mp reply
    have served :=
      insertReaction_spec ready₂ (spared₂.idle (spared₁.idle idle)) absent respects ended
    exact served.after ((keeps₁ Φ).trans (keeps₂ Φ))

theorem deletion_spec {count : Int} (ready : Ready s c) (idle : World.Idle s c.world)
    (respects : ∀ t, Φ (some t) → Φ (some (t.deleteWhere (StoredReaction.hasKey key)).1))
    (ended : result (perform s) c (Service.deletion key) = (.ok count, c')) :
    Ready s c' ∧ World.Idle s c'.world ∧ Keeps s Φ c c' ∧
      ∃ t, c'.world.writer = some (s, t) ∧ ¬ t.Holds key := by
  obtain ⟨ready₁, spared₁, keeps₁⟩ := ready.meet
  have idle₁ := spared₁.idle idle
  have ready₂ := ready₁.own (.deleteReaction key)
  have deleteReply : perform s (.deleteReaction key) c = ⟨(c.meet.world.delete s key).1, [],
      { c.meet with world := (c.meet.world.delete s key).2 }⟩ := rfl
  simp only [Service.result_deletion, deleteReply] at ended
  rcases World.delete_cases c.meet.world s key with ⟨t, seen, deleted⟩ | ⟨e, failed⟩
  · simp only [World.reply, deleted] at ready₂
    simp only [deleted] at ended
    set t' := (t.deleteWhere (StoredReaction.hasKey key)).1
    set c₂ : Contention := { c.meet with world := { c.meet.world with writer := some (s, t') } }
    obtain ⟨ready₃, spared₃, keeps₃⟩ := ready₂.meet
    have idle₃ : World.Idle s c₂.meet.world := spared₃.idle ⟨idle₁.pending, idle₁.failed⟩
    have flushReply : perform s .flush c₂ = ⟨(c₂.meet.world.flush s).1, [],
        { c₂.meet with world := (c₂.meet.world.flush s).2 }⟩ := rfl
    have keeps₂ : Keeps s Φ c.meet c₂ :=
      keeps_of_carries (World.carries_edit seen (respects t) rfl)
    simp only [flushReply, World.flush_idle idle₃.pending, Prod.mk.injEq] at ended
    obtain ⟨-, rfl⟩ := ended
    refine ⟨ready₃, idle₃, ((keeps₁ Φ).trans keeps₂).trans (keeps₃ Φ), t',
      (spared₃.writer t').mpr rfl, ?_⟩
    exact Tables.not_holds_deleteWhere t key
  · simp [failed] at ended

end Contention

end ReactionLedger
