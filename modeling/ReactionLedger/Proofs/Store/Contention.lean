import ReactionLedger.Proofs.Store.Order
import ReactionLedger.Store.Contention

set_option autoImplicit false

namespace ReactionLedger

namespace World

structure Carries (s : SessionName) (Φ : Option Tables → Prop) (w w' : World) : Prop where
  seen : Φ (w.view s) → Φ (w'.view s)
  written : ∀ t, w.writer = some (s, t) →
    ∃ t', w'.writer = some (s, t') ∧ (Φ (some t) → Φ (some t'))

variable {s : SessionName} {Φ : Option Tables → Prop} {w w' : World}

theorem Carries.of_same (view : w'.view s = w.view s) (writer : w'.writer = w.writer) :
    Carries s Φ w w' :=
  ⟨fun held => view ▸ held, fun t own => ⟨t, writer.trans own, id⟩⟩

theorem Spares.view_of_writer {t : Tables} (spared : Spares s w w') (own : w.writer = some (s, t)) :
    w'.view s = w.view s := by
  rw [World.view_of_writer own, World.view_of_writer ((spared.writer t).mpr own)]

theorem Spares.view_of_reader (spared : Spares s w w') (reader : ∀ t, w.writer ≠ some (s, t)) :
    w.view s = w.committed ∧ w'.view s = w'.committed :=
  ⟨view_of_not_writer reader, view_of_not_writer fun t own => reader t ((spared.writer t).mp own)⟩

end World

namespace Contention

variable {s : SessionName} {Φ : Option Tables → Prop} {c c' c'' : Contention}

def Ends (Φ : Option Tables → Prop) (x : World × World) : Prop :=
  Φ x.1.committed ∧ ¬ Φ x.2.committed

structure Keeps (s : SessionName) (Φ : Option Tables → Prop) (c c' : Contention) : Prop where
  grown : c.past <+: c'.past
  seen : Φ (c.world.view s) → Φ (c'.world.view s) ∨ ∃ x ∈ c'.since c, Ends Φ x
  written : ∀ t, c.world.writer = some (s, t) →
    ∃ t', c'.world.writer = some (s, t') ∧ (Φ (some t) → Φ (some t'))

theorem mem_since_of_mem_since {x : World × World} (grown : c.past <+: c'.past)
    (mem : x ∈ c''.since c') : x ∈ c''.since c := by
  have shorter : c.past.length ≤ c'.past.length := grown.length_le
  simp only [since] at mem ⊢
  rw [← Nat.add_sub_of_le shorter, ← List.drop_drop] at mem
  exact List.mem_of_mem_drop mem

theorem mem_since_of_grown {x : World × World} (grown : c'.past <+: c''.past)
    (mem : x ∈ c'.since c) : x ∈ c''.since c := by
  simp only [since] at mem ⊢
  exact (grown.drop _).subset mem

theorem Keeps.refl (c : Contention) : Keeps s Φ c c :=
  ⟨List.prefix_rfl, fun held => .inl held, fun t own => ⟨t, own, id⟩⟩

theorem Keeps.trans (first : Keeps s Φ c c') (second : Keeps s Φ c' c'') : Keeps s Φ c c'' where
  grown := first.grown.trans second.grown
  seen held := by
    rcases first.seen held with kept | ⟨x, mem, ends⟩
    · rcases second.seen kept with still | ⟨x, mem, ends⟩
      · exact .inl still
      · exact .inr ⟨x, mem_since_of_mem_since first.grown mem, ends⟩
    · exact .inr ⟨x, mem_since_of_grown second.grown mem, ends⟩
  written t own := by
    obtain ⟨t', own', keeps⟩ := first.written t own
    obtain ⟨t'', own'', keeps'⟩ := second.written t' own'
    exact ⟨t'', own'', keeps' ∘ keeps⟩

theorem keeps_of_carries {w : World} (carries : World.Carries s Φ c.world w) :
    Keeps s Φ c { c with world := w } :=
  ⟨List.prefix_rfl, fun held => .inl (carries.seen held), carries.written⟩

structure Ready (s : SessionName) (c : Contention) : Prop where
  reached : c.world.Reachable
  timely : c.world.OnTime
  rivals : ∀ block ∈ c.blocks, ∀ m ∈ block, m.session? ≠ some s ∧ m.KeepsTime

theorem keeps_play {m : Move} (reached : c.world.Reachable) (other : m.session? ≠ some s) :
    Keeps s Φ c (c.play m) := by
  have spared := Move.play_spares reached other
  refine ⟨List.prefix_append _ _, fun held => ?_, fun t own =>
    ⟨t, (spared.writer t).mpr own, id⟩⟩
  by_cases writes : ∃ t, c.world.writer = some (s, t)
  · obtain ⟨t, own⟩ := writes
    exact .inl ((spared.view_of_writer own).symm ▸ held)
  · obtain ⟨before, after⟩ := spared.view_of_reader (not_exists.mp writes)
    by_cases still : Φ ((c.play m).world.view s)
    · exact .inl still
    · refine .inr ⟨(c.world, m.play c.world), by simp [since, play], before ▸ held, ?_⟩
      exact after ▸ still

theorem Ready.play {m : Move} (ready : Ready s c) (keeps : m.KeepsTime) : Ready s (c.play m) :=
  ⟨ready.reached.play m, Move.play_onTime keeps ready.timely, ready.rivals⟩

theorem meet_induction {P : Contention → Prop} {allowed : Move → Prop}
    (rivals : ∀ block ∈ c.blocks, ∀ m ∈ block, allowed m)
    (start : P { c with blocks := c.blocks.tail })
    (step : ∀ c m, allowed m → P c → P (c.play m)) : P c.meet := by
  have along (moves : List Move) (inside : ∀ m ∈ moves, allowed m) (c : Contention) (held : P c) :
      P (moves.foldl play c) := by
    induction moves generalizing c with
    | nil => exact held
    | cons m moves ih =>
      exact ih (fun m mem => inside m (List.mem_cons_of_mem _ mem)) _
        (step c m (inside m List.mem_cons_self) held)
  obtain ⟨w, _ | ⟨block, blocks⟩, past⟩ := c
  · exact start
  · exact along block (rivals block List.mem_cons_self) _ start

theorem Ready.meet (ready : Ready s c) :
    Ready s c.meet ∧ World.Spares s c.world c.meet.world ∧ ∀ Φ, Keeps s Φ c c.meet := by
  have later : Ready s { c with blocks := c.blocks.tail } :=
    ⟨ready.reached, ready.timely, fun block mem => ready.rivals block (List.mem_of_mem_tail mem)⟩
  refine meet_induction (P := fun c' => Ready s c' ∧ World.Spares s c.world c'.world ∧
    ∀ Φ, Keeps s Φ c c') ready.rivals ⟨later, .refl s _, fun Φ => ?_⟩ ?_
  · exact ⟨List.prefix_rfl, fun held => .inl held, fun t own => ⟨t, own, id⟩⟩
  · rintro c' m ⟨other, timely⟩ ⟨ready', spared, keeps⟩
    exact ⟨ready'.play timely, spared.trans (Move.play_spares ready'.reached other),
      fun Φ => (keeps Φ).trans (keeps_play ready'.reached other)⟩

end Contention

end ReactionLedger
