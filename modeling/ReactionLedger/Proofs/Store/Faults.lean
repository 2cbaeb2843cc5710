import ReactionLedger.Proofs.Store.Order

set_option autoImplicit false

namespace ReactionLedger

theorem error_of_bind {α β : Type} {x : Except Failure α} {f : α → Except Failure β} {e : Failure}
    (failed : x >>= f = .error e) : x = .error e ∨ ∃ a, x = .ok a ∧ f a = .error e := by
  cases x with
  | error d =>
    obtain rfl := Except.error.inj failed
    exact .inl rfl
  | ok a => exact .inr ⟨a, rfl, failed⟩

theorem error_of_map {α β : Type} {x : Except Failure α} {f : α → β} {e : Failure}
    (failed : x.map f = .error e) : x = .error e := by
  cases x with
  | error d => exact congrArg Except.error (Except.error.inj failed)
  | ok a => cases failed

theorem error_of_mapM {α β : Type} {f : α → Except Failure β} {as : List α} {e : Failure}
    (failed : as.mapM f = .error e) : ∃ a ∈ as, f a = .error e := by
  induction as with
  | nil => cases failed
  | cons a as ih =>
    rw [List.mapM_cons] at failed
    obtain first | ⟨b, -, failed⟩ := error_of_bind failed
    · exact ⟨a, List.mem_cons_self, first⟩
    obtain rest | ⟨bs, -, failed⟩ := error_of_bind failed
    · obtain ⟨a', mem, own⟩ := ih rest
      exact ⟨a', List.mem_cons_of_mem _ mem, own⟩
    · cases failed

def Failure.isRowFault : Failure → Bool
  | .value _ | .type _ => true
  | _ => false

variable {e : Failure}

namespace StoredReaction

theorem isRowFault_of_readUuid {source : String} (failed : readUuid source = .error e) :
    e.isRowFault = true := by
  unfold readUuid at failed
  split at failed
  · cases failed
  · exact Except.error.inj failed ▸ rfl

theorem isRowFault_of_readTime {cell : Cell} (failed : readTime cell = .error e) :
    e.isRowFault = true := by
  unfold readTime at failed
  split at failed
  · split at failed
    · cases failed
    · exact Except.error.inj failed ▸ rfl
  · exact Except.error.inj failed ▸ rfl

theorem isRowFault_of_load {r : StoredReaction} (failed : r.load = .error e) :
    e.isRowFault = true := by
  obtain failed | ⟨view, -, failed⟩ := error_of_bind failed
  · exact isRowFault_of_readUuid failed
  obtain failed | ⟨comment, -, failed⟩ := error_of_bind failed
  · exact isRowFault_of_readUuid failed
  obtain failed | ⟨created, -, failed⟩ := error_of_bind failed
  · exact isRowFault_of_readTime failed
  · cases failed

theorem not_readable_of_load {r : StoredReaction} (failed : r.load = .error e) :
    ¬ r.Readable := by
  rintro ⟨reaction, load⟩
  cases failed.symm.trans load

-- the columns of the author are always there
theorem joined_of_readable {r : StoredReaction} (readable : r.Readable) (u : User) :
    ∃ columns, r.joined u = .ok columns := by
  obtain ⟨reaction, read⟩ := readable
  unfold load at read
  unfold joined
  cases view : readUuid r.view with
  | error e =>
    rw [view] at read
    cases read
  | ok view' =>
    cases comment : readUuid r.comment with
    | error e =>
      rw [view, comment] at read
      cases read
    | ok comment' =>
      cases created : readTime r.created with
      | error e =>
        rw [view, comment, created] at read
        cases read
      | ok created' => exact ⟨_, rfl⟩

theorem isRowFault_of_joined {r : StoredReaction} {u : User} (failed : r.joined u = .error e) :
    e.isRowFault = true ∧ ¬ r.Readable := by
  constructor
  · obtain failed | ⟨comment, -, failed⟩ := error_of_bind failed
    · exact isRowFault_of_readUuid failed
    obtain failed | ⟨created, -, failed⟩ := error_of_bind failed
    · exact isRowFault_of_readTime failed
    · cases failed
  · intro readable
    obtain ⟨columns, read⟩ := joined_of_readable readable u
    cases failed.symm.trans read

end StoredReaction

namespace Tables

variable {t : Tables}

theorem isStore_of_column {α : Type} {name : String} {a : Option α}
    (missing : column name a = .error e) : e.isStore = true := by
  cases a with
  | none => exact Except.error.inj missing ▸ rfl
  | some a => cases missing

theorem isStore_of_insert {d : Draft} (refused : t.insert d = .error e) : e.isStore = true := by
  unfold insert at refused
  obtain missing | ⟨view, -, refused⟩ := error_of_bind refused
  · exact isStore_of_column missing
  obtain missing | ⟨comment, -, refused⟩ := error_of_bind refused
  · exact isStore_of_column missing
  obtain missing | ⟨label, -, refused⟩ := error_of_bind refused
  · exact isStore_of_column missing
  obtain missing | ⟨author, -, refused⟩ := error_of_bind refused
  · exact isStore_of_column missing
  obtain missing | ⟨created, -, refused⟩ := error_of_bind refused
  · exact isStore_of_column missing
  dsimp only at refused
  split at refused
  · exact Except.error.inj refused ▸ rfl
  · cases refused

def RowFault (t : Tables) (e : Failure) : Prop :=
  e.isRowFault = true ∧ ∃ r ∈ t.reactions, ¬ r.Readable

theorem fault_of_find {k : Key} (failed : t.find k = .error e) :
    e.isStore = true ∨ t.RowFault e := by
  unfold find at failed
  split at failed
  next => cases failed
  next r rows =>
    have inside : r ∈ t.reactions.filter (StoredReaction.hasKey k) := by simp [rows]
    have load := error_of_map failed
    exact .inr ⟨StoredReaction.isRowFault_of_load load, r, List.mem_of_mem_filter inside,
      StoredReaction.not_readable_of_load load⟩
  next => exact .inl (Except.error.inj failed ▸ rfl)

theorem fault_of_joined {conditions : List Condition} (failed : t.joined conditions = .error e) :
    t.RowFault e := by
  obtain ⟨⟨r, u⟩, mem, failed⟩ := error_of_mapM failed
  obtain ⟨q, inside, pair⟩ := List.mem_flatMap.mp mem
  obtain ⟨u, -, same⟩ := List.mem_map.mp pair
  obtain ⟨rfl, rfl⟩ := Prod.mk.inj same
  obtain ⟨fault, unreadable⟩ := StoredReaction.isRowFault_of_joined failed
  exact ⟨fault, q, List.mem_mergeSort.mp (List.mem_of_mem_filter inside), unreadable⟩

end Tables

namespace World

variable {clock : Option String} {t : Tables} {w : World} {s : SessionName}

theorem fault_of_insertOne {k : Key} (refused : insertOne clock t k = .error e) :
    e.isStore = true ∨ e.isRowFault = true := by
  obtain refused | ⟨⟨t', row⟩, -, refused⟩ := error_of_bind refused
  · exact .inl (Tables.isStore_of_insert refused)
  obtain refused | ⟨created, -, refused⟩ := error_of_bind refused
  · exact .inr (StoredReaction.isRowFault_of_readTime refused)
  · cases refused

-- a time that the clock shows is read back
theorem isStore_of_insertOne (timely : w.Timely) {k : Key}
    (refused : insertOne w.clock t k = .error e) : e.isStore = true := by
  obtain refused | ⟨⟨t', row⟩, inserted, refused⟩ := error_of_bind refused
  · exact Tables.isStore_of_insert refused
  · obtain ⟨view, comment, label, author, created, full⟩ := Tables.full_of_insert inserted
    obtain ⟨now, shown, time⟩ : ∃ now, w.clock = some now ∧ Cell.text now = created := by
      simp only [Key.draft, Draft.mk.injEq] at full
      exact Option.map_eq_some_iff.mp full.2.2.2.2
    obtain ⟨stamp, shows⟩ := timely now shown
    rw [full, Tables.insert_full, ← time] at inserted
    dsimp only at inserted
    split at inserted
    · cases inserted
    · obtain ⟨-, rfl⟩ := Prod.mk.inj (Except.ok.inj inserted)
      simp [shows.kept, StoredReaction.readTime, shows.read, bind, Except.bind, pure,
        Except.pure] at refused

theorem error_of_insertAll {keys : List Key} (refused : insertAll clock t keys = .error e) :
    ∃ t' k, insertOne clock t' k = .error e := by
  induction keys generalizing t with
  | nil => cases refused
  | cons k keys ih =>
    rw [insertAll, List.foldlM_cons] at refused
    obtain refused | ⟨t', -, refused⟩ := error_of_bind refused
    · exact ⟨t, k, refused⟩
    · exact ih refused

theorem isStore_of_insertAll (timely : w.Timely) {keys : List Key}
    (refused : insertAll w.clock t keys = .error e) : e.isStore = true := by
  obtain ⟨t', k, refused⟩ := error_of_insertAll refused
  exact isStore_of_insertOne timely refused

theorem isStore_of_tables {missing : Failure} (none : missing.isStore = true)
    (failed : w.tables s missing = .error e) : e.isStore = true := by
  unfold tables at failed
  split at failed
  · exact Except.error.inj failed ▸ rfl
  · cases failed
  · exact Except.error.inj failed ▸ none

def RowFault (w : World) (s : SessionName) (e : Failure) : Prop :=
  ∃ t, w.view s = some t ∧ t.RowFault e

theorem fault_of_query {α : Type} {missing : Failure} {query : Tables → Except Failure α}
    (none : missing.isStore = true)
    (fault : ∀ t, query t = .error e → e.isStore = true ∨ t.RowFault e)
    (failed : w.tables s missing >>= query = .error e) : e.isStore = true ∨ w.RowFault s e := by
  obtain unseen | ⟨t, read, failed⟩ := error_of_bind failed
  · exact .inl (isStore_of_tables none unseen)
  · exact (fault t failed).imp_right fun rows => ⟨t, (tables_eq_ok read).1, rows⟩

theorem fault_of_flush (failed : (w.flush s).1 = .error e) :
    e.isStore = true ∨ ∃ t k, insertOne w.clock t k = .error e := by
  unfold flush at failed
  split at failed
  · cases failed
  split at failed
  · exact .inl (Except.error.inj failed ▸ rfl)
  · exact .inl (Except.error.inj failed ▸ rfl)
  split at failed
  · split at failed
    next => cases failed
    next refused => exact .inr (error_of_insertAll (Except.error.inj failed ▸ refused))
  · exact .inl (Except.error.inj failed ▸ rfl)

theorem fault_of_refresh {k : Key} (failed : w.refresh s k = .error e) :
    e.isStore = true ∨ w.RowFault s e := by
  refine fault_of_query rfl (fun t failed => ?_) failed
  obtain failed | ⟨found, -, failed⟩ := error_of_bind failed
  · exact Tables.fault_of_find failed
  · cases found with
    | none => exact .inl (Except.error.inj failed ▸ rfl)
    | some r => cases failed

theorem fault_of_reply {c : Call} (failed : (w.reply s c).1 = .error e) :
    e.isStore = true ∨ w.RowFault s e ∨ ∃ t k, insertOne w.clock t k = .error e := by
  cases c with
  | userKnown user => exact .inl (isStore_of_tables rfl (error_of_map failed))
  | findReaction k =>
    exact (fault_of_query rfl (fun t => Tables.fault_of_find) failed).imp_right .inl
  | joinedRows conditions =>
    have rows (t : Tables) (failed : t.joined conditions = .error e) :
        e.isStore = true ∨ t.RowFault e := .inr (Tables.fault_of_joined failed)
    exact (fault_of_query rfl rows failed).imp_right .inl
  | deleteReaction k =>
    left
    simp only [reply, delete] at failed
    split at failed
    next read =>
      obtain rfl := Except.error.inj failed
      exact isStore_of_tables rfl read
    next =>
      split at failed
      · cases failed
      · exact Except.error.inj failed ▸ rfl
  | add k => cases failed
  | flush => exact (fault_of_flush failed).imp_right .inr
  | refresh k => exact (fault_of_refresh failed).imp_right .inl
  | rollback => cases failed

theorem isStore_or_isRowFault_of_reply {c : Call} (failed : (w.reply s c).1 = .error e) :
    e.isStore = true ∨ e.isRowFault = true := by
  obtain store | ⟨t, -, fault, -⟩ | ⟨t, k, refused⟩ := fault_of_reply failed
  · exact .inl store
  · exact .inr fault
  · exact fault_of_insertOne refused

theorem isStore_of_reply (timely : w.Timely)
    (readable : ∀ t, w.view s = some t → ∀ r ∈ t.reactions, r.Readable) {c : Call}
    (failed : (w.reply s c).1 = .error e) : e.isStore = true := by
  obtain store | ⟨t, seen, -, r, mem, unreadable⟩ | ⟨t, k, refused⟩ := fault_of_reply failed
  · exact store
  · exact absurd (readable t seen r mem) unreadable
  · exact isStore_of_insertOne timely refused

end World

end ReactionLedger
