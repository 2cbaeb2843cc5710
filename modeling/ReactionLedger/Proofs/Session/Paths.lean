import ReactionLedger.Session.Program

/-!
Statements about a program that hold whatever its session replies: on every path the calls made,
the journal and the outcome are as some condition says.
-/

set_option autoImplicit false

namespace ReactionLedger

abbrev Exchange := (c : Call) × Except Failure c.Reply

namespace Program

variable {α β : Type}

abbrev Post (α : Type) := List Exchange → Journal → Except Failure α → Prop

/-- The condition holds at the end of every path, after the exchanges and entries so far. -/
def Ensures (post : Post α) : Program α → List Exchange → Journal → Prop
  | .done outcome, calls, journal => post calls journal outcome
  | .note entry p, calls, journal => p.Ensures post calls (journal ++ [entry])
  | .call c next, calls, journal =>
    ∀ reply, (next reply).Ensures post (calls ++ [⟨c, reply⟩]) journal

theorem Ensures.mono {post weaker : Post α} {p : Program α} {calls : List Exchange}
    {journal : Journal} (ensures : p.Ensures post calls journal)
    (weaken : ∀ calls journal outcome, post calls journal outcome → weaker calls journal outcome) :
    p.Ensures weaker calls journal := by
  induction p generalizing calls journal with
  | done outcome => exact weaken _ _ _ ensures
  | note entry p ih => exact ih ensures
  | call c next ih => exact fun reply => ih reply (ensures reply)

theorem Ensures.and {post other : Post α} {p : Program α} {calls : List Exchange}
    {journal : Journal} (first : p.Ensures post calls journal)
    (second : p.Ensures other calls journal) :
    p.Ensures
      (fun calls journal outcome => post calls journal outcome ∧ other calls journal outcome)
      calls journal := by
  induction p generalizing calls journal with
  | done outcome => exact ⟨first, second⟩
  | note entry p ih => exact ih first second
  | call c next ih => exact fun reply => ih reply (first reply) (second reply)

theorem Ensures.ahead {post : Post α} {p : Program α} {calls : List Exchange} {journal : Journal}
    (ensures : p.Ensures post calls journal) :
    p.ahead.2.Ensures post calls (journal ++ p.ahead.1) := by
  induction p generalizing journal with
  | done outcome => simpa [Program.ahead] using ensures
  | note entry p ih => simpa [Program.ahead] using ih ensures
  | call c next => simpa [Program.ahead] using ensures

theorem ensures_trivial (p : Program α) (calls : List Exchange) (journal : Journal) :
    p.Ensures (fun _ _ _ => True) calls journal := by
  induction p generalizing calls journal with
  | done outcome => trivial
  | note entry p ih => exact ih _ _
  | call c next ih => exact fun reply => ih reply _ _

def Post.before (post : Post β) (f : α → Program β) : Post α
  | calls, journal, .ok a => (f a).Ensures post calls journal
  | calls, journal, .error e => post calls journal (.error e)

def Post.guarding (post : Post α) (rescue : Failure → Program α) : Post α
  | calls, journal, .ok a => post calls journal (.ok a)
  | calls, journal, .error e => (rescue e).Ensures post calls journal

theorem ensures_bind (post : Post β) (p : Program α) (f : α → Program β)
    (calls : List Exchange) (journal : Journal) :
    (p >>= f).Ensures post calls journal ↔ p.Ensures (post.before f) calls journal := by
  change (p.bind f).Ensures post calls journal ↔ _
  induction p generalizing calls journal with
  | done outcome => cases outcome <;> exact Iff.rfl
  | note entry p ih => exact ih _ _
  | call c next ih => exact forall_congr' fun reply => ih reply _ _

theorem ensures_handle (post : Post α) (p : Program α) (rescue : Failure → Program α)
    (calls : List Exchange) (journal : Journal) :
    (p.handle rescue).Ensures post calls journal ↔
      p.Ensures (post.guarding rescue) calls journal := by
  induction p generalizing calls journal with
  | done outcome => cases outcome <;> exact Iff.rfl
  | note entry p ih => exact ih _ _
  | call c next ih => exact forall_congr' fun reply => ih reply _ _

@[simp]
theorem ensures_perform (c : Call) (post : Post c.Reply) (calls : List Exchange)
    (journal : Journal) :
    (perform c).Ensures post calls journal ↔
      ∀ reply, post (calls ++ [⟨c, reply⟩]) journal reply := Iff.rfl

@[simp]
theorem before_ok (post : Post β) (f : α → Program β) (calls : List Exchange)
    (journal : Journal) (a : α) :
    post.before f calls journal (.ok a) ↔ (f a).Ensures post calls journal := Iff.rfl

@[simp]
theorem before_error (post : Post β) (f : α → Program β) (calls : List Exchange)
    (journal : Journal) (e : Failure) :
    post.before f calls journal (.error e) ↔ post calls journal (.error e) := Iff.rfl

@[simp]
theorem guarding_error (post : Post α) (rescue : Failure → Program α)
    (calls : List Exchange) (journal : Journal) (e : Failure) :
    post.guarding rescue calls journal (.error e) ↔ (rescue e).Ensures post calls journal := Iff.rfl

def Within (calls : Call → Prop) (entries : Entry → Prop) : Program α → Prop
  | .done _ => True
  | .note entry p => entries entry ∧ p.Within calls entries
  | .call c next => calls c ∧ ∀ reply, (next reply).Within calls entries

section Within

variable {calls : Call → Prop} {entries : Entry → Prop} {p : Program α}

theorem Within.bind {f : α → Program β} (first : p.Within calls entries)
    (rest : ∀ a, (f a).Within calls entries) : (p >>= f).Within calls entries := by
  change (p.bind f).Within calls entries
  induction p with
  | done outcome =>
    cases outcome with
    | ok a => exact rest a
    | error e => trivial
  | note entry p ih => exact ⟨first.1, ih first.2⟩
  | call c next ih => exact ⟨first.1, fun reply => ih reply (first.2 reply)⟩

theorem Within.handle {rescue : Failure → Program α} (first : p.Within calls entries)
    (rest : ∀ e, (rescue e).Within calls entries) : (p.handle rescue).Within calls entries := by
  induction p with
  | done outcome =>
    cases outcome with
    | ok a => trivial
    | error e => exact rest e
  | note entry p ih => exact ⟨first.1, ih first.2⟩
  | call c next ih => exact ⟨first.1, fun reply => ih reply (first.2 reply)⟩

theorem Within.mono {calls' : Call → Prop} {entries' : Entry → Prop}
    (within : p.Within calls entries) (more : ∀ c, calls c → calls' c)
    (others : ∀ entry, entries entry → entries' entry) : p.Within calls' entries' := by
  induction p with
  | done outcome => trivial
  | note entry p ih => exact ⟨others entry within.1, ih within.2⟩
  | call c next ih => exact ⟨more c within.1, fun reply => ih reply (within.2 reply)⟩

theorem Within.ahead (within : p.Within calls entries) : p.ahead.2.Within calls entries := by
  induction p with
  | done outcome => trivial
  | note entry p ih => exact ih within.2
  | call c next => exact within

theorem within_done (outcome : Except Failure α) : (done outcome).Within calls entries := trivial

theorem within_perform {c : Call} (allowed : calls c) : (perform c).Within calls entries :=
  ⟨allowed, fun _ => trivial⟩

theorem within_record {level : LogLevel} {text : String} (allowed : entries ⟨level, text⟩) :
    (record level text).Within calls entries := ⟨allowed, trivial⟩

theorem Within.onward (within : p.Within calls entries) {before : List Exchange}
    {journal : Journal} (made : ∀ x ∈ before, calls x.1) (said : ∀ entry ∈ journal, entries entry) :
    p.Ensures (fun exchanges journal _ => (∀ x ∈ exchanges, calls x.1) ∧
      ∀ entry ∈ journal, entries entry) before journal := by
  induction p generalizing before journal with
  | done outcome => exact ⟨made, said⟩
  | note entry p ih =>
    refine ih within.2 made fun entry' mem => ?_
    rcases List.mem_append.mp mem with old | new
    · exact said entry' old
    · exact List.mem_singleton.mp new ▸ within.1
  | call c next ih =>
    refine fun reply => ih reply (within.2 reply) (fun x mem => ?_) said
    rcases List.mem_append.mp mem with old | new
    · exact made x old
    · exact List.mem_singleton.mp new ▸ within.1

theorem Within.ensures (within : p.Within calls entries) :
    p.Ensures (fun exchanges journal _ => (∀ x ∈ exchanges, calls x.1) ∧
      ∀ entry ∈ journal, entries entry) [] [] := within.onward nofun nofun

end Within

section Run

variable {σ : Type} (perform : Performer σ)

def trace : Program α → σ → List Exchange
  | .done _, _ => []
  | .note _ p, s => p.trace s
  | .call c next, s =>
    let reply := perform c s
    ⟨c, reply.outcome⟩ :: (next reply.outcome).trace reply.state

theorem trace_bind (p : Program α) (f : α → Program β) (s : σ) :
    (p >>= f).trace perform s = p.trace perform s ++
      match (p.run perform s).outcome with
      | .ok a => (f a).trace perform (p.run perform s).state
      | .error _ => [] := by
  change (p.bind f).trace perform s = _
  induction p generalizing s with
  | done outcome => cases outcome <;> rfl
  | note entry p ih => exact ih s
  | call c next ih => exact congrArg (_ :: ·) (ih _ _)

theorem trace_bind_of_error {p : Program α} {f : α → Program β} {s : σ} {e : Failure}
    (failed : (p.run perform s).outcome = .error e) :
    (p >>= f).trace perform s = p.trace perform s := by
  rw [trace_bind, failed]
  exact List.append_nil _

theorem trace_bind_pure (p : Program α) (f : α → β) (s : σ) :
    (p >>= fun a => pure (f a)).trace perform s = p.trace perform s := by
  rw [trace_bind]
  cases (p.run perform s).outcome <;> exact List.append_nil _

theorem Ensures.run {post : Post α} {p : Program α} {calls : List Exchange} {journal : Journal}
    (ensures : p.Ensures post calls journal) (s : σ) :
    ∃ journal, post (calls ++ p.trace perform s) journal (p.run perform s).outcome := by
  induction p generalizing calls journal s with
  | done outcome =>
    refine ⟨journal, ?_⟩
    rw [trace, List.append_nil]
    exact ensures
  | note entry p ih => exact ih ensures s
  | call c next ih =>
    have rest := ih _ (ensures (perform c s).outcome) (perform c s).state
    rwa [List.append_assoc] at rest

end Run

end Program

end ReactionLedger
