import Mathlib
import ReactionLedger.Proofs.Text.Trimming
import ReactionLedger.Uuid.Reading

set_option autoImplicit false

namespace ReactionLedger.Uuid

theorem dropWord_eq_self (c : Char) (word cs : List Char) (absent : c ∉ cs) :
    dropWord (c :: word) 0 cs = cs := by
  induction cs with
  | nil => rfl
  | cons d ds ih =>
    have differs : (c == d) = false := by
      simp only [List.mem_cons, not_or] at absent
      simpa using absent.1
    have rest := ih fun member => absent (List.mem_cons_of_mem _ member)
    simp [dropWord, List.isPrefixOf, differs, rest]

theorem hexDigit_plain (d : Fin 16) :
    Text.hexDigit d.val ≠ 'u' ∧ Text.hexDigit d.val ≠ '-' ∧
      isBrace (Text.hexDigit d.val) = false := by
  revert d
  decide

theorem chars_plain {u : Uuid} {c : Char} (member : c ∈ u.chars) :
    c ≠ 'u' ∧ c ≠ '-' ∧ isBrace c = false := by
  obtain ⟨d, -, rfl⟩ := List.mem_map.mp member
  exact hexDigit_plain d

theorem length_chars (u : Uuid) : u.chars.length = 32 := by simp [chars, u.length_eq]

theorem core_compact (u : Uuid) : core u.compact = u.chars := by
  have unmarked : 'u' ∉ u.chars := fun member => (chars_plain member).1 rfl
  have ungrouped : u.chars.filter (· != '-') = u.chars :=
    List.filter_eq_self.mpr fun c member => by simpa using (chars_plain member).2.1
  have bare : Text.trimWith isBrace u.chars = u.chars :=
    (Text.trimWith_eq_self_iff isBrace u.chars).mpr
      ⟨fun c first => (chars_plain (List.mem_of_mem_head? first)).2.2,
        fun c last => (chars_plain (List.mem_of_mem_getLast? last)).2.2⟩
  have urn := dropWord_eq_self 'u' ['r', 'n', ':'] u.chars unmarked
  have uuid := dropWord_eq_self 'u' ['u', 'i', 'd', ':'] u.chars unmarked
  simp [core, compact, urn, uuid, bare, ungrouped]

theorem readLenient_compact (u : Uuid) : readLenient u.compact = .ok u := by
  simp [readLenient, core_compact, length_chars, ofChars?_chars]

theorem compact_injective : Function.Injective compact := by
  intro u v same
  have read := congrArg readLenient same
  simpa [readLenient_compact] using read

@[simp]
theorem compact_inj (u v : Uuid) : u.compact = v.compact ↔ u = v := compact_injective.eq_iff

theorem compact_beq (u v : Uuid) : (u.compact == v.compact) = decide (u = v) := by
  rw [Bool.beq_eq_decide_eq, decide_eq_decide, compact_inj]

theorem unwrap_cons {c : Char} (cs : List Char) (unmarked : c ≠ 'u') (bare : isBrace c = false) :
    unwrap (c :: cs) = (c :: cs, 0, false) := by
  have brace : (c.toNat == 0x7B) = false := (Bool.or_eq_false_iff.mp bare).1
  have mark : ('u' == c) = false := by simpa using unmarked.symm
  simp [unwrap, brace, List.isPrefixOf, mark]

section Groups

variable {cs : List Char} (length : cs.length = 32)
include length

theorem length_groups : (groups cs).length = 36 := by
  simp [groups, length]

theorem hyphens_groups : ∀ i ∈ [8, 13, 18, 23], (groups cs).getD i ' ' = '-' := by
  simp [groups, length, List.getElem?_append]

end Groups

theorem filter_groups {cs : List Char} (ungrouped : '-' ∉ cs) :
    (groups cs).filter (· != '-') = cs := by
  have joined (i n : Nat) : (cs.drop i).take n ++ cs.drop (i + n) = cs.drop i := by
    rw [← List.drop_drop, List.take_append_drop]
  have whole : cs.take 8 ++ ((cs.drop 8).take 4 ++ ((cs.drop 12).take 4 ++
      ((cs.drop 16).take 4 ++ cs.drop 20))) = cs := by
    rw [joined 16 4, joined 12 4, joined 8 4, List.take_append_drop]
  calc (groups cs).filter (· != '-')
    _ = (cs.take 8 ++ ((cs.drop 8).take 4 ++ ((cs.drop 12).take 4 ++
          ((cs.drop 16).take 4 ++ cs.drop 20)))).filter (· != '-') := by
      simp [groups, List.filter_append]
    _ = cs := by
      rw [whole]
      exact List.filter_eq_self.mpr fun c mem => by simpa using ne_of_mem_of_not_mem mem ungrouped

theorem readExact_text (u : Uuid) : readExact u.text = .ok u := by
  have length := u.length_chars
  have grouped : '-' ∉ u.chars := fun member => (chars_plain member).2.1 rfl
  obtain ⟨c, cs, split⟩ : ∃ c cs, u.chars = c :: cs :=
    List.exists_cons_of_length_pos (by rw [length]; decide)
  have kept : unwrap (groups u.chars) = (groups u.chars, 0, false) := by
    have first : c ∈ u.chars := by simp [split]
    obtain ⟨unmarked, -, bare⟩ := chars_plain first
    rw [split]
    exact unwrap_cons _ unmarked bare
  have read : ofGroups? (groups u.chars) = some u := by
    rw [ofGroups?, if_pos, filter_groups grouped, ofChars?_chars]
    simpa [length_groups length] using hyphens_groups length
  simp [readExact, text, kept, length_groups length, read]

end ReactionLedger.Uuid
