import ReactionLedger.Proofs.Concurrency.Orderly
import ReactionLedger.Proofs.Journal.Chronicle
import ReactionLedger.Proofs.Store.Faults

set_option autoImplicit false

namespace ReactionLedger

open Service (Answer Job Recounts StoreFaults Vain infos progress)

namespace Dialogue

def deeds (calls : List Dialogue) : List Deed := calls.filterMap deed?

theorem deeds_append (calls later : List Dialogue) :
    deeds (calls ++ later) = deeds calls ++ deeds later := List.filterMap_append

variable {d : Dialogue}

theorem deed?_of_quiet (quiet : infos d.journal = []) : d.deed? = none := by
  refine Option.filter_eq_none_iff.mpr fun deed _ recorded => ?_
  have mem : deed.entry ∈ infos d.journal :=
    List.mem_filter.mpr ⟨by simpa using recorded, by simp [deed.level_entry]⟩
  rw [quiet] at mem
  cases mem

theorem deed?_of_recorded {deed : Deed} (own : d.job.deed? = some deed)
    (recorded : infos d.journal = [deed.entry]) : d.deed? = some deed := by
  refine Option.filter_eq_some_iff.mpr ⟨own, ?_⟩
  have mem : deed.entry ∈ infos d.journal := recorded ▸ List.mem_cons_self
  simpa using List.mem_of_mem_filter mem

theorem rolledBack_exchange (d : Dialogue) (x : Exchange) :
    (d.exchange x).rolledBack = (d.rolledBack || decide (x.1 = .rollback)) := by
  simp [rolledBack, exchange]

theorem base_exchange (d : Dialogue) (x : Exchange) (s : SessionName) :
    (d.exchange x).base s = World.left x.1 none (d.base s) := by
  rw [base, rolledBack_exchange, World.left]
  by_cases back : x.1 = .rollback
  · rw [decide_eq_true back, Bool.or_true, if_pos rfl, if_pos back]
  · rw [decide_eq_false back, Bool.or_false, if_neg back]
    rfl

end Dialogue

open Dialogue (deeds)

structure Finished.Honest (f : Finished) : Prop where
  records : infos f.journal = [] ∨ ∃ deed a, f.job.deed? = some deed ∧
    infos f.journal = [deed.entry] ∧ f.outcome = .ok a ∧ ∀ x ∈ f.exchanges, ¬ Vain x
  silent : infos f.journal = [] → f.after.Retains f.session (f.base f.session)

structure Underway (s : SessionName) (earlier : List Deed) (d : Dialogue) (p : Program Answer)
    (w : World) : Prop where
  recounts : p.Ensures (Recounts d.job.deed?) d.exchanges d.journal
  faults : StoreFaults d.exchanges
  reached : w.failed s = none → w.Reached s (d.base s) earlier (progress d.exchanges)

section Underway

variable {s : SessionName} {earlier : List Deed} {d : Dialogue} {w w' : World}

theorem underway_start (balanced : w.Balanced s earlier) (quiet : w.pending s = []) (job : Job) :
    Underway s earlier ⟨job, w, [], []⟩ job.program w where
  recounts := Service.program_recounts job
  faults := nofun
  reached _ := World.reached_start balanced quiet

theorem Underway.spares {p : Program Answer} (underway : Underway s earlier d p w)
    (spared : World.Spares s w w') : Underway s earlier d p w' where
  recounts := underway.recounts
  faults := underway.faults
  reached sound := (underway.reached (spared.failed.symm.trans sound)).spares spared

theorem Underway.ahead {p : Program Answer} (underway : Underway s earlier d p w) :
    Underway s earlier (d.record p.ahead.1) p.ahead.2 w where
  recounts := underway.recounts.ahead
  faults := underway.faults
  reached := underway.reached

theorem Underway.exchange {c : Call} {next : Except Failure c.Reply → Program Answer}
    (underway : Underway s earlier d (.call c next) w) (timely : w.Timely) (inPlace : w.InPlace) :
    Underway s (World.left c [] earlier) (d.exchange ⟨c, (w.reply s c).1⟩)
      (next (w.reply s c).1) (w.reply s c).2 where
  recounts := underway.recounts _
  faults c' e mem := by
    rcases List.mem_append.mp mem with old | new
    · exact underway.faults c' e old
    · obtain ⟨rfl, same⟩ := Sigma.mk.inj (List.mem_singleton.mp new)
      exact World.isStore_of_reply timely (fun t => inPlace.readable.view) (eq_of_heq same).symm
  reached sound := by
    rw [Dialogue.base_exchange]
    change World.Reached _ _ _ (progress (d.exchanges ++ [_])) _
    rw [Service.progress_concat]
    exact World.reached_reply underway.reached c sound

theorem Underway.ended {outcome : Except Failure Answer}
    (underway : Underway s earlier d (.done outcome) w) (sound : w.failed s = none) :
    w.Balanced s (earlier ++ deeds (if outcome.isOk then [d] else [])) ∧
      Finished.Honest ⟨d, s, outcome, w⟩ := by
  have reached := underway.reached sound
  have balanced := reached.balanced
  rcases underway.recounts underway.faults with
    ⟨quiet, none⟩ | ⟨deed, own, recorded, done, ⟨a, rfl⟩, useful⟩
  · have silent : deeds (if outcome.isOk then [d] else []) = [] := by
      split <;> simp [deeds, Dialogue.deed?_of_quiet quiet]
    rw [silent]
    rw [none] at balanced
    exact ⟨balanced, .inl quiet, fun _ => reached.retained none⟩
  · have told : deeds [d] = [deed] := by
      simp [deeds, Dialogue.deed?_of_recorded own recorded]
    rw [done] at balanced
    refine ⟨?_, .inr ⟨deed, a, own, recorded, rfl, useful⟩, fun quiet => ?_⟩
    · simpa only [Except.isOk, Except.toBool, if_true, told] using balanced
    · cases recorded.symm.trans quiet

end Underway

end ReactionLedger
