import ReactionLedger.Proofs.Store.Tables
import ReactionLedger.Service.Job

set_option autoImplicit false

namespace ReactionLedger

/-- What a write records that it has done. -/
inductive Deed where
  | reacted (key : Key)
  | removed (key : Key)
deriving DecidableEq

namespace Deed

def key : Deed → Key
  | .reacted k | .removed k => k

def entry : Deed → Entry
  | .reacted k => ⟨.info, "User " ++ k.user ++ " reacted " ++ k.label ++ k.onComment⟩
  | .removed k =>
    ⟨.info, "User " ++ k.user ++ " removed " ++ k.label ++ " from comment " ++
      Service.idText k.comment⟩

theorem level_entry (d : Deed) : d.entry.level = .info := by cases d <;> rfl

def on (key : Key) (deeds : List Deed) : List Deed := deeds.filter fun d => d.key = key

-- a reaction is added where there is none, and removed where there is one
def play : Bool → Deed → Option Bool
  | false, .reacted _ => some true
  | true, .removed _ => some false
  | _, _ => none

def playAll (held : Bool) (deeds : List Deed) : Option Bool := deeds.foldlM play held

variable {key : Key} {deeds later : List Deed} {held held' : Bool} {t t' t'' : Tables}

theorem playAll_cons (d : Deed) :
    playAll held (d :: deeds) = (play held d).bind fun next => playAll next deeds :=
  List.foldlM_cons

theorem key_of_mem_on {d : Deed} (mem : d ∈ on key deeds) : d.key = key := by
  simpa using (List.mem_filter.mp mem).2

theorem play_cases {d : Deed} (played : play held d = some held') :
    (d = .reacted d.key ∧ held = false ∧ held' = true) ∨
      d = .removed d.key ∧ held = true ∧ held' = false := by
  cases d with
  | reacted k =>
    cases held with
    | false => exact .inl ⟨rfl, rfl, (Option.some.inj played).symm⟩
    | true => cases played
  | removed k =>
    cases held with
    | false => cases played
    | true => exact .inr ⟨rfl, rfl, (Option.some.inj played).symm⟩

theorem counts_of_playAll (own : ∀ d ∈ deeds, d.key = key)
    (played : playAll held deeds = some held') :
    deeds.count (.reacted key) + held.toNat = deeds.count (.removed key) + held'.toNat := by
  induction deeds generalizing held with
  | nil =>
    obtain rfl := Option.some.inj played
    rfl
  | cons d deeds ih =>
    rw [playAll_cons] at played
    obtain ⟨next, first, rest⟩ := Option.bind_eq_some_iff.mp played
    have counts := ih (fun d mem => own d (List.mem_cons_of_mem _ mem)) rest
    have mine := own d List.mem_cons_self
    obtain ⟨same, rfl, rfl⟩ | ⟨same, rfl, rfl⟩ := play_cases first
    · rw [same, mine]
      simp at counts ⊢
      omega
    · rw [same, mine]
      simp at counts ⊢
      omega

theorem alternate_of_playAll (own : ∀ d ∈ deeds, d.key = key)
    (played : playAll held deeds = some held') :
    deeds.IsChain (· ≠ ·) ∧
      ∀ d ∈ deeds.head?, d = if held then .removed key else .reacted key := by
  induction deeds generalizing held with
  | nil => exact ⟨.nil, nofun⟩
  | cons d deeds ih =>
    rw [playAll_cons] at played
    obtain ⟨next, first, rest⟩ := Option.bind_eq_some_iff.mp played
    obtain ⟨chain, head⟩ := ih (fun d mem => own d (List.mem_cons_of_mem _ mem)) rest
    have mine := own d List.mem_cons_self
    obtain ⟨same, rfl, rfl⟩ | ⟨same, rfl, rfl⟩ := play_cases first
    · refine ⟨List.isChain_cons.mpr ⟨fun d' next => ?_, chain⟩, fun d' this => ?_⟩
      · rw [head d' next, same]
        simp
      · obtain rfl := Option.some.inj this
        rw [same, mine]
        rfl
    · refine ⟨List.isChain_cons.mpr ⟨fun d' next => ?_, chain⟩, fun d' this => ?_⟩
      · rw [head d' next, same]
        simp
      · obtain rfl := Option.some.inj this
        rw [same, mine]
        rfl

def Explain (deeds : List Deed) (t t' : Tables) : Prop :=
  ∀ key, playAll (decide (t.Holds key)) (on key deeds) = some (decide (t'.Holds key))

theorem Explain.append (first : Explain deeds t t') (second : Explain later t' t'') :
    Explain (deeds ++ later) t t'' := by
  intro key
  rw [on, List.filter_append, playAll, List.foldlM_append]
  change (playAll _ (on key deeds)).bind _ = _
  rw [first key]
  exact second key

theorem explain_nil (rows : t'.reactions = t.reactions) : Explain [] t t' := by
  intro key
  have same : t'.Holds key ↔ t.Holds key := by rw [Tables.Holds, Tables.Holds, rows]
  exact congrArg some (decide_eq_decide.mpr same).symm

theorem explain_of_others {d : Deed} (others : ∀ key, key ≠ d.key → (t'.Holds key ↔ t.Holds key))
    (own : play (decide (t.Holds d.key)) d = some (decide (t'.Holds d.key))) :
    Explain [d] t t' := by
  intro key
  by_cases same : d.key = key
  · subst same
    simp [on, playAll, own]
  · simp [on, playAll, same, others key (Ne.symm same)]

theorem explain_insert {clock : Option String} {k : Key}
    (stored : World.insertOne clock t k = .ok t') : Explain [.reacted k] t t' := by
  obtain ⟨row, rfl, -, has, -, new⟩ := Tables.insertOne_inv stored
  have absent : ¬ t.Holds k := by
    rintro ⟨r, mem, found⟩
    exact new r mem (StoredReaction.key_eq found has)
  have held : Tables.Holds { t with reactions := t.reactions ++ [row] } k :=
    ⟨row, List.mem_append_right _ List.mem_cons_self, has⟩
  refine explain_of_others (fun key other => Tables.holds_append_iff has other) ?_
  change play (decide (t.Holds k)) _ = some (decide (Tables.Holds _ k))
  rw [decide_eq_false absent, decide_eq_true held]
  rfl

theorem explain_insertAll {clock : Option String} {keys : List Key}
    (stored : World.insertAll clock t keys = .ok t') : Explain (keys.map .reacted) t t' := by
  induction keys generalizing t with
  | nil => exact Except.ok.inj stored ▸ explain_nil rfl
  | cons k keys ih =>
    obtain ⟨t₁, first, rest⟩ := Tables.insertAll_cons stored
    exact (explain_insert first).append (ih rest)

theorem explain_delete {k : Key} (held : t.Holds k) :
    Explain [.removed k] t (t.deleteWhere (StoredReaction.hasKey k)).1 := by
  refine explain_of_others (fun key other => Tables.holds_deleteWhere_iff other) ?_
  change play (decide (t.Holds k)) _ = some (decide (Tables.Holds _ k))
  rw [decide_eq_true held, decide_eq_false (t.not_holds_deleteWhere k)]
  rfl

theorem rows_of_deleteWhere {k : Key} (absent : ¬ t.Holds k) :
    (t.deleteWhere (StoredReaction.hasKey k)).1.reactions = t.reactions := by
  refine List.filter_eq_self.mpr fun r mem => ?_
  cases has : r.hasKey k with
  | false => rfl
  | true => exact absurd ⟨r, mem, has⟩ absent

/-- On the key the deeds alternate, beginning with a reaction, and there is one reaction more than
removals exactly where the tables hold the key. -/
structure Account (deeds : List Deed) (t : Tables) (key : Key) : Prop where
  balance : (deeds.count (.reacted key) : Int) - deeds.count (.removed key) =
    if t.Holds key then 1 else 0
  alternate : (on key deeds).IsChain (· ≠ ·)
  first : ∀ d ∈ (on key deeds).head?, d = .reacted key

theorem Explain.account (explain : Explain deeds .empty t) (key : Key) : Account deeds t key := by
  have none : ¬ Tables.empty.Holds key := nofun
  have played := explain key
  rw [decide_eq_false none] at played
  have own : ∀ d ∈ on key deeds, d.key = key := fun d => key_of_mem_on
  have counts := counts_of_playAll own played
  obtain ⟨chain, head⟩ := alternate_of_playAll own played
  refine ⟨?_, chain, head⟩
  rw [on, List.count_filter (by simp [Deed.key]), List.count_filter (by simp [Deed.key])] at counts
  split
  next held =>
    simp [held] at counts
    omega
  next absent =>
    simp [absent] at counts
    omega

end Deed

end ReactionLedger
