import ReactionLedger.Proofs.Concurrency.Quiet
import ReactionLedger.Proofs.Concurrency.Sound
import ReactionLedger.Proofs.Reference.Machine
import ReactionLedger.Proofs.Service.Unhindered

set_option autoImplicit false

namespace ReactionLedger

open Program (result)
open Reference (ClockReading)
open Service (addReaction removeReaction)

inductive Write where
  | add (view comment : Uuid) (label : String) (user : Option String)
  | remove (view comment : Uuid) (label : String) (user : Option String)

inductive Fate where
  | inserted
  | present
  | removed
  | missing
  | failed (e : Failure)

def Reaction.hasNumber (r : Reaction) (n : Nat) : Bool :=
  match r.id with
  | .int m => m = n
  | _ => false

def World.shows (w : World) (s : SessionName) (r : Reaction) : Bool :=
  (w.view s).any fun t => t.reactions.any fun row => r.hasNumber row.id

namespace Write

def key : Write → Key
  | .add view comment label user | .remove view comment label user =>
    ⟨some view, some comment, Text.trim label, user⟩

def isRemoval : Write → Bool
  | .add .. => false
  | .remove .. => true

def run (s : SessionName) (w : World) : Write → Fate × World
  | .add view comment label user =>
    match result (World.perform s) w (addReaction (some view) (some comment) label user) with
    | (.ok reaction, w') => (if w.shows s reaction then .present else .inserted, w')
    | (.error e, w') => (.failed e, w')
  | .remove view comment label user =>
    match result (World.perform s) w (removeReaction (some view) (some comment) label user) with
    | (.ok removed, w') => (if removed then .removed else .missing, w')
    | (.error e, w') => (.failed e, w')

def expected (known held : Bool) : Write → Fate
  | .add _ _ label user =>
    match Label.normalize label with
    | .error fault => .failed (.label fault)
    | .ok _ =>
      if known then if held then .present else .inserted
      else .failed (.unknownUser user)
  | .remove .. => if held then .removed else .missing

theorem expected_of_accepted {label core : String} (accepted : Label.normalize label = .ok core)
    (view comment : Uuid) (user : Option String) (known held : Bool) :
    (add view comment label user).expected known held =
      if known then if held then .present else .inserted else .failed (.unknownUser user) := by
  simp only [expected, accepted]

def Refused (x : Write) (e : Failure) : Prop :=
  (∃ fault, e = .label fault) ∨ e = .unknownUser x.key.author

theorem failure_of_expected {x : Write} {known held : Bool} {e : Failure}
    (failed : x.expected known held = .failed e) : x.Refused e := by
  cases x with
  | add view comment label user =>
    cases normal : Label.normalize label with
    | error fault =>
      simp only [expected, normal] at failed
      exact .inl ⟨fault, (Fate.failed.inj failed).symm⟩
    | ok core =>
      cases known with
      | true => cases held <;> cases (expected_of_accepted normal ..).symm.trans failed
      | false =>
        rw [expected_of_accepted normal] at failed
        exact .inr (Fate.failed.inj failed).symm
  | remove view comment label user => cases held <;> simp [expected] at failed

end Write

def Fate.leaves (held : Bool) : Fate → Bool
  | .inserted | .present => true
  | .removed | .missing => false
  | .failed _ => held

structure Timed where
  write : Write
  reading : ClockReading

def serveWrites (s : SessionName) : World → List Timed → List (Write × Fate) × World
  | w, [] => ([], w)
  | w, x :: xs =>
    let (fate, w₁) := x.write.run s { w with clock := some x.reading.text }
    let (rest, w₂) := serveWrites s w₁ xs
    ((x.write, fate) :: rest, w₂)

def callsOn (k : Key) (calls : List Write) : List Write := calls.filter fun x => x.key = k

def endsOn (k : Key) (ended : List (Write × Fate)) : List (Write × Fate) :=
  ended.filter fun p => p.1.key = k

def fates (knows : Option String → Bool) : Bool → List Write → List (Write × Fate)
  | _, [] => []
  | held, x :: xs =>
    let fate := x.expected (knows x.key.author) held
    (x, fate) :: fates knows (fate.leaves held) xs

theorem StoredReaction.hasNumber_of_load {row : StoredReaction} {reaction : Reaction}
    (load : row.load = .ok reaction) (n : Nat) : reaction.hasNumber n = decide (row.id = n) := by
  obtain ⟨created, time⟩ := readTime_of_load load
  have number : reaction.id = .int row.id := by
    simp only [StoredReaction.load, time] at load
    cases view : readUuid row.view with
    | error e => simp [view, bind, Except.bind] at load
    | ok v =>
      cases comment : readUuid row.comment with
      | error e => simp [view, comment, bind, Except.bind] at load
      | ok c =>
        simp only [view, comment, bind, Except.bind, pure, Except.pure, Except.ok.injEq] at load
        rw [← load]
  simp [Reaction.hasNumber, number]

namespace World

structure Ready (s : SessionName) (t : Tables) (w : World) : Prop extends Unhindered s t w where
  kept : t.Kept

structure Wrote (x : Write) (fate : Fate) (t t' : Tables) : Prop where
  users : t'.users = t.users
  own : decide (t'.Holds x.key) = fate.leaves (decide (t.Holds x.key))
  others : ∀ k, k ≠ x.key → decide (t'.Holds k) = decide (t.Holds k)
  rows : ∀ row ∈ t.reactions, (x.isRemoval = true → row.hasKey x.key = false) → row ∈ t'.reactions

def Advances (s : SessionName) (t : Tables) (x : Write) (r : Fate × World) : Prop :=
  ∃ t', r.1 = x.expected (t.knows x.key.author) (decide (t.Holds x.key)) ∧ Ready s t' r.2 ∧
    Wrote x r.1 t t'

section Step

variable {s : SessionName} {t : Tables} {w : World}

theorem wrote_nothing {x : Write} {fate : Fate}
    (same : fate.leaves (decide (t.Holds x.key)) = decide (t.Holds x.key)) :
    Wrote x fate t t :=
  ⟨rfl, same.symm, fun _ _ => rfl, fun _ mem _ => mem⟩

theorem Ready.shows (ready : Ready s t w) (reaction : Reaction) :
    w.shows s reaction = t.reactions.any fun row => reaction.hasNumber row.id := by
  rw [World.shows, ready.seen, Option.any_some]

theorem Ready.remove (ready : Ready s t w) (view comment : Uuid) (label : String)
    (user : Option String) :
    let x : Write := .remove view comment label user
    Advances s t x (x.run s w) := by
  intro x
  set t' := (t.deleteWhere (StoredReaction.hasKey x.key)).1
  have ended : x.run s w = (x.expected (t.knows user) (decide (t.Holds x.key)),
      { w with writer := some (s, t') }) := by
    simp only [x, Write.run, ready.removal]
    rfl
  rw [ended]
  refine ⟨t', rfl, ⟨⟨view_of_writer rfl, ready.quiet, ready.sound, by simp [mayWrite]⟩,
    ready.kept.edit (.delete _)⟩, rfl, ?_,
    fun k apart => decide_eq_decide.mpr (Tables.holds_deleteWhere_iff apart),
    fun row mem spared => List.mem_filter.mpr ⟨mem, by simp [spared rfl]⟩⟩
  rw [decide_eq_false (t.not_holds_deleteWhere x.key)]
  cases decide (t.Holds x.key) <;> rfl

theorem Ready.unchanged (ready : Ready s t w) {x : Write} (fate : Fate)
    (ended : x.run s w = (fate, w))
    (same : fate = x.expected (t.knows x.key.author) (decide (t.Holds x.key)))
    (left : fate.leaves (decide (t.Holds x.key)) = decide (t.Holds x.key)) :
    Advances s t x (x.run s w) := by
  rw [ended]
  exact ⟨t, same, ready, wrote_nothing left⟩

theorem Ready.insert (ready : Ready s t w) {reading : ClockReading}
    (shown : w.clock = some reading.text) {view comment : Uuid} {label : String}
    {user : Option String} (normal : Label.normalize label = .ok (Text.trim label))
    (known : t.knows user = true) :
    let x : Write := .add view comment label user
    ¬ t.Holds x.key → Advances s t x (x.run s w) := by
  intro x absent
  obtain ⟨author, rfl⟩ : ∃ author, user = some author := by
    obtain ⟨u, -, same⟩ := List.any_eq_true.mp known
    exact ⟨u.id, eq_of_beq same⟩
  set row := t.newRow view comment (Text.trim label) author reading.text
  set t' : Tables := { t with reactions := t.reactions ++ [row] }
  have has : row.hasKey x.key = true := t.newRow_hasKey ..
  have time : StoredReaction.readTime row.created = .ok (.stamp reading.stamp) := by
    simp [row, Tables.newRow, StoredReaction.readTime, reading.shows.read]
  obtain ⟨reaction, load⟩ : ∃ reaction, row.load = .ok reaction :=
    ⟨_, StoredReaction.load_of_hasKey has time⟩
  have stored := ready.addition_of_absent normal ready.kept.unique known shown reading.shows absent
    load
  have new : w.shows s reaction = false := by
    rw [ready.shows, List.any_eq_false]
    intro r mem
    have number : r.id < row.id := Tables.lt_nextId mem
    simpa [StoredReaction.hasNumber_of_load load] using Nat.ne_of_gt number
  have ended : (x.run s w).1 = .inserted := by
    simp only [x, Write.run, stored, new, Bool.false_eq_true, if_false]
  have after : (x.run s w).2 = { (w.setPending s [x.key]).setPending s [] with
      writer := some (s, t') } := by
    simp only [x, Write.run, stored]
    rfl
  refine ⟨t', ?_, ?_, rfl, ?_,
    fun k apart => decide_eq_decide.mpr (Tables.holds_append_iff has apart),
    fun r mem _ => List.mem_append_left _ mem⟩
  · rw [ended, Write.expected_of_accepted normal, show t.knows x.key.author = true from known,
      decide_eq_false absent]
    rfl
  · rw [after]
    have inserted := Tables.insertOne_absent reading.shows absent
    exact ⟨⟨view_of_writer rfl, by simp, ready.sound, by simp [mayWrite]⟩,
      ready.kept.edit (.insert inserted)⟩
  · rw [ended]
    exact decide_eq_true ⟨row, List.mem_append_right _ List.mem_cons_self, has⟩

theorem Ready.add (ready : Ready s t w) {reading : ClockReading}
    (shown : w.clock = some reading.text) (view comment : Uuid) (label : String)
    (user : Option String) :
    let x : Write := .add view comment label user
    Advances s t x (x.run s w) := by
  intro x
  have free := ready.toUnhindered
  cases normal : Label.normalize label with
  | error fault =>
    refine ready.unchanged (.failed (.label fault)) ?_ ?_ rfl
    · simp only [x, Write.run, Unhindered.addition_refused normal]
    · simp only [x, Write.expected, normal]
  | ok core =>
    obtain ⟨rfl, -, -⟩ := (Label.normalize_eq_ok_iff label core).mp normal
    by_cases known : t.knows user = true
    · by_cases held : t.Holds x.key
      · have ⟨row, mem, has⟩ := held
        obtain ⟨reaction, load⟩ := ready.kept.readable row mem
        have seen : w.shows s reaction = true := by
          rw [ready.shows, List.any_eq_true]
          exact ⟨row, mem, by simp [StoredReaction.hasNumber_of_load load]⟩
        have found := free.addition_of_held normal ready.kept.unique known mem has load
        refine ready.unchanged .present ?_ ?_ ?_
        · simp only [x, Write.run, found, seen, if_true]
        · rw [Write.expected_of_accepted normal, show t.knows x.key.author = true from known,
            decide_eq_true held]
          rfl
        · exact (decide_eq_true held).symm
      · exact ready.insert shown normal known held
    · have stranger : t.knows user = false := by simpa using known
      refine ready.unchanged (.failed (.unknownUser user)) ?_ ?_ rfl
      · simp only [x, Write.run, free.addition_of_stranger normal stranger]
      · rw [Write.expected_of_accepted normal, show t.knows x.key.author = false from stranger]
        rfl

theorem Ready.step (ready : Ready s t w) (x : Timed) :
    Advances s t x.write (x.write.run s { w with clock := some x.reading.text }) := by
  have ready' : Ready s t { w with clock := some x.reading.text } :=
    ⟨⟨ready.seen, ready.quiet, ready.sound, ready.turn⟩, ready.kept⟩
  obtain ⟨write, reading⟩ := x
  cases write with
  | add view comment label user => exact ready'.add rfl view comment label user
  | remove view comment label user => exact ready'.remove view comment label user

end Step

/-- What a list of calls answers and leaves, told for each key by the calls on it. -/
structure Served (xs : List Timed) (ended : List (Write × Fate)) (t t' : Tables) : Prop where
  users : t'.users = t.users
  ends : ∀ k, endsOn k ended = fates t.knows (decide (t.Holds k)) (callsOn k (xs.map Timed.write))
  held : ∀ k, decide (t'.Holds k) =
    (endsOn k ended).foldl (fun held p => p.2.leaves held) (decide (t.Holds k))
  failures : ∀ p ∈ ended, ∀ e, p.2 = .failed e → p.1.Refused e
  rows : ∀ row ∈ t.reactions,
    (∀ x ∈ xs, x.write.isRemoval = true → row.hasKey x.write.key = false) → row ∈ t'.reactions

theorem served_cons {x : Timed} {xs : List Timed} {ended : List (Write × Fate)}
    {fate : Fate} {t t₁ t' : Tables}
    (expected : fate =
      x.write.expected (t.knows x.write.key.author) (decide (t.Holds x.write.key)))
    (wrote : Wrote x.write fate t t₁) (served : Served xs ended t₁ t') :
    Served (x :: xs) ((x.write, fate) :: ended) t t' where
  users := served.users.trans wrote.users
  ends k := by
    have knows : t₁.knows = t.knows := by
      funext user
      rw [Tables.knows, Tables.knows, wrote.users]
    have rest := served.ends k
    rw [endsOn, callsOn, knows] at rest
    rw [endsOn, callsOn, List.map_cons]
    by_cases same : x.write.key = k
    · subst same
      rw [List.filter_cons_of_pos (by simp), List.filter_cons_of_pos (by simp), rest, fates,
        ← expected, wrote.own]
    · rw [List.filter_cons_of_neg (by simpa using same),
        List.filter_cons_of_neg (by simpa using same), rest, wrote.others k (Ne.symm same)]
  held k := by
    rw [served.held k, endsOn, endsOn]
    by_cases same : x.write.key = k
    · subst same
      rw [List.filter_cons_of_pos (by simp), List.foldl_cons, wrote.own]
    · rw [List.filter_cons_of_neg (by simpa using same), wrote.others k (Ne.symm same)]
  failures p mem e failed := by
    cases List.mem_cons.mp mem with
    | inl first =>
      subst first
      exact Write.failure_of_expected (expected.symm.trans failed)
    | inr later => exact served.failures p later e failed
  rows row mem spared := by
    apply served.rows row
    · exact wrote.rows row mem fun removal => spared x List.mem_cons_self removal
    · exact fun y later => spared y (List.mem_cons_of_mem x later)

theorem Ready.serve {s : SessionName} {t : Tables} {w : World} (ready : Ready s t w)
    (xs : List Timed) :
    ∃ t', Ready s t' (serveWrites s w xs).2 ∧ Served xs (serveWrites s w xs).1 t t' := by
  induction xs generalizing t w with
  | nil => exact ⟨t, ready, rfl, fun _ => rfl, fun _ => rfl, nofun, fun _ mem _ => mem⟩
  | cons x xs ih =>
    obtain ⟨t₁, expected, ready₁, wrote⟩ := ready.step x
    obtain ⟨t', ready', served⟩ := ih ready₁
    exact ⟨t', ready', served_cons expected wrote served⟩

end World

open World (Ready)

theorem callsOn_swap {x y : Write} (apart : x.key ≠ y.key) (k : Key) (front back : List Write) :
    callsOn k (front ++ x :: y :: back) = callsOn k (front ++ y :: x :: back) := by
  rw [callsOn, callsOn, List.filter_append, List.filter_append]
  by_cases first : x.key = k
  · have second : y.key ≠ k := fun same => apart (first.trans same.symm)
    simp [first, second]
  · by_cases second : y.key = k <;> simp [first, second]

theorem mem_of_reordered {calls calls' : List Write}
    (reordered : ∀ k, callsOn k calls = callsOn k calls') {x : Write} (mem : x ∈ calls) :
    x ∈ calls' := by
  have own : x ∈ callsOn x.key calls := List.mem_filter.mpr ⟨mem, decide_eq_true rfl⟩
  rw [reordered] at own
  exact List.mem_of_mem_filter own

/-- Writes of different keys may be made in another order: each ends the same, and the same keys are
held in the end. -/
theorem reordered_writes_end_the_same {events : List Event} (orderly : ∀ e ∈ events, e.Orderly)
    {s : SessionName} (free : (System.initial.after events).threads s = none)
    (turn : (System.initial.after events).world.mayWrite s = true) {xs ys : List Timed}
    (reordered : ∀ k, callsOn k (xs.map Timed.write) = callsOn k (ys.map Timed.write)) :
    let w := (System.initial.after events).world
    let first := serveWrites s w xs
    let second := serveWrites s w ys
    (∀ k, endsOn k first.1 = endsOn k second.1) ∧
      (∀ p ∈ first.1, ∀ e, p.2 = .failed e → p.1.Refused e) ∧
      ∃ t t₁ t₂, w.view s = some t ∧ first.2.view s = some t₁ ∧ second.2.view s = some t₂ ∧
        (∀ k, t₁.Holds k ↔ t₂.Holds k) ∧
        ∀ row ∈ t.reactions,
          (∀ x ∈ xs, x.write.isRemoval = true → row.hasKey x.write.key = false) →
            row ∈ t₁.reactions ∧ row ∈ t₂.reactions := by
  intro w first second
  obtain ⟨t, seen⟩ := (System.inPlace_after orderly).exists_view s
  have quiet := (System.quiet_after s events).free free
  have ready : Ready s t w := ⟨⟨seen, quiet, System.sound_after orderly free, turn⟩,
    (System.kept_after orderly).view seen⟩
  obtain ⟨t₁, ready₁, served₁⟩ := ready.serve xs
  obtain ⟨t₂, ready₂, served₂⟩ := ready.serve ys
  have ends (k : Key) : endsOn k first.1 = endsOn k second.1 := by
    rw [served₁.ends k, served₂.ends k, reordered k]
  refine ⟨ends, served₁.failures, t, t₁, t₂, seen, ready₁.seen, ready₂.seen, fun k => ?_,
    fun row mem spared => ⟨served₁.rows row mem spared, served₂.rows row mem fun y there => ?_⟩⟩
  · rw [← decide_eq_decide, served₁.held k, served₂.held k]
    exact congrArg _ (ends k)
  · have same := mem_of_reordered (fun k => (reordered k).symm) (List.mem_map_of_mem there)
    obtain ⟨x, inside, write⟩ := List.mem_map.mp same
    exact write ▸ spared x inside

namespace Independent

def view : Uuid := .ofNat 1

def comment : Uuid := .ofNat 2

def main : SessionName := .named "main"

def history : List Event :=
  [.directory main (.enroll ⟨"ann", "Ann"⟩),
    .start main (.add (some view) (some comment) "love" (some "ann")), .proceed main,
    .proceed main, .proceed main, .proceed main, .proceed main]

def noon : ClockReading := .ofWhole ClockText.start.date ClockText.start.time rfl

def removal : Timed := ⟨.remove view comment " love" (some "ann"), noon⟩

def addition : Timed := ⟨.add view comment "like" (some "ann"), noon⟩

theorem fates_of_removal_first :
    (serveWrites main (System.initial.after history).world [removal, addition]).1.map Prod.snd =
      [.removed, .inserted] := by
  rfl

theorem fates_of_addition_first :
    (serveWrites main (System.initial.after history).world [addition, removal]).1.map Prod.snd =
      [.inserted, .removed] := by
  rfl

theorem addition_and_removal :
    let w := (System.initial.after history).world
    let first := serveWrites main w [removal, addition]
    let second := serveWrites main w [addition, removal]
    (∀ k, endsOn k first.1 = endsOn k second.1) ∧
      first.1.map Prod.snd = [.removed, .inserted] ∧
      second.1.map Prod.snd = [.inserted, .removed] ∧
      ∃ t₁ t₂, first.2.view main = some t₁ ∧ second.2.view main = some t₂ ∧
        ∀ k, t₁.Holds k ↔ t₂.Holds k := by
  intro w first second
  have orderly : ∀ e ∈ history, e.Orderly := by simp [history, Event.Orderly]
  have idle : ((System.initial.after history).threads main).isNone = true := by decide +kernel
  have apart : removal.write.key ≠ addition.write.key := by decide +kernel
  have reordered (k : Key) : callsOn k ([removal, addition].map Timed.write) =
      callsOn k ([addition, removal].map Timed.write) := callsOn_swap apart k [] []
  obtain ⟨ends, -, t, t₁, t₂, -, seen₁, seen₂, held, -⟩ := reordered_writes_end_the_same orderly
    (Option.isNone_iff_eq_none.mp idle) (by decide +kernel) reordered
  exact ⟨ends, fates_of_removal_first, fates_of_addition_first, t₁, t₂, seen₁, seen₂, held⟩

end Independent

end ReactionLedger
