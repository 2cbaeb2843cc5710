import Mathlib.Data.List.DropRight
import ReactionLedger.Text.Blank

set_option autoImplicit false

namespace ReactionLedger.Text

section Lists

variable (p : Char → Bool) (cs : List Char)

theorem trimEnd_eq_rdropWhile : trimEnd p cs = cs.rdropWhile p := rfl

theorem dropWhile_eq_self_iff : cs.dropWhile p = cs ↔ ∀ c ∈ cs.head?, p c = false := by
  rw [List.dropWhile_eq_self_iff]
  cases cs <;> simp

theorem trimEnd_eq_self_iff : trimEnd p cs = cs ↔ ∀ c ∈ cs.getLast?, p c = false := by
  rw [trimEnd, List.reverse_eq_iff, dropWhile_eq_self_iff, List.head?_reverse]

theorem trimWith_eq_self_iff : trimWith p cs = cs ↔
    (∀ c ∈ cs.head?, p c = false) ∧ ∀ c ∈ cs.getLast?, p c = false := by
  rw [← dropWhile_eq_self_iff, ← trimEnd_eq_self_iff]
  constructor
  · intro bare
    -- each end can only lose characters, so a list that keeps its length loses none at either
    have shorter := (List.rdropWhile_prefix p (cs.dropWhile p)).length_le
    rw [← trimEnd_eq_rdropWhile, ← trimWith, bare] at shorter
    have suffix := cs.dropWhile_suffix p
    have front := suffix.eq_of_length (suffix.length_le.antisymm shorter)
    exact ⟨front, by rwa [trimWith, front] at bare⟩
  · rintro ⟨front, back⟩
    rw [trimWith, front, back]

theorem dropWhile_of_prefix {front cs : List Char} (start : front <+: cs)
    (bare : cs.dropWhile p = cs) : front.dropWhile p = front := by
  rw [List.dropWhile_eq_self_iff] at bare ⊢
  intro filled
  rw [start.getElem filled]
  exact bare (filled.trans_le start.length_le)

-- what is cut off behind leaves the front as it is
theorem trimWith_trimWith : trimWith p (trimWith p cs) = trimWith p cs := by
  have bare := List.dropWhile_idempotent p cs
  have front := dropWhile_of_prefix p (List.rdropWhile_prefix p (cs.dropWhile p)) bare
  simp only [trimWith, trimEnd_eq_rdropWhile, front, List.rdropWhile_idempotent]

theorem trimWith_eq_nil_iff : trimWith p cs = [] ↔ ∀ c ∈ cs, p c = true := by
  rw [trimWith, trimEnd_eq_rdropWhile, List.rdropWhile_eq_nil_iff]
  constructor
  · intro rest c mem
    rw [← List.takeWhile_append_dropWhile (p := p) (l := cs), List.mem_append] at mem
    exact mem.elim List.mem_takeWhile_imp (rest c)
  · intro all c mem
    exact all c ((cs.dropWhile_suffix p).mem mem)

variable {p} {before behind : List Char}

theorem trimEnd_append (padding : ∀ c ∈ behind, p c = true) :
    trimEnd p (cs ++ behind) = trimEnd p cs := by
  have reversed : ∀ c ∈ behind.reverse, p c = true := fun c mem =>
    padding c (List.mem_reverse.mp mem)
  rw [trimEnd, List.reverse_append, List.dropWhile_append_of_pos reversed, trimEnd]

theorem trimWith_padded (front : ∀ c ∈ before, p c = true) (back : ∀ c ∈ behind, p c = true) :
    trimWith p (before ++ cs ++ behind) = trimWith p cs := by
  rw [List.append_assoc, trimWith, List.dropWhile_append_of_pos front, List.dropWhile_append,
    trimWith]
  split
  next void =>
    -- without a core the padding behind is dropped from the front
    rw [List.isEmpty_iff.mp void, List.dropWhile_eq_nil_iff.mpr back]
  next => exact trimEnd_append _ back

theorem takeWhile_padded (front : ∀ c ∈ before, p c = true) (filled : cs ≠ [])
    (bare : ∀ c ∈ cs.head?, p c = false) : (before ++ cs ++ behind).takeWhile p = before := by
  obtain ⟨first, rest, rfl⟩ := List.exists_cons_of_ne_nil filled
  have kept : p first = false := bare first rfl
  rw [List.append_assoc, List.takeWhile_append_of_pos front, List.cons_append,
    List.takeWhile_cons_of_neg (by simp [kept]), List.append_nil]

end Lists

def blankPoints : List Nat :=
  [0x0009, 0x000A, 0x000B, 0x000C, 0x000D, 0x001C, 0x001D, 0x001E, 0x001F, 0x0020, 0x0085, 0x00A0,
    0x1680, 0x2000, 0x2001, 0x2002, 0x2003, 0x2004, 0x2005, 0x2006, 0x2007, 0x2008, 0x2009, 0x200A,
    0x2028, 0x2029, 0x202F, 0x205F, 0x3000]

theorem isBlank_iff (c : Char) : isBlank c = true ↔ c.toNat ∈ blankPoints := by
  simp only [isBlank, blankPoints, Bool.or_eq_true, Bool.and_eq_true, decide_eq_true_eq,
    beq_iff_eq, List.mem_cons, List.not_mem_nil, or_false]
  omega

theorem isBlank_eq_false_iff (c : Char) : isBlank c = false ↔ c.toNat ∉ blankPoints := by
  rw [← isBlank_iff, Bool.not_eq_true]

def Padding (s : String) : Prop := ∀ c ∈ s.toList, c.toNat ∈ blankPoints

structure IsCore (s : String) : Prop where
  filled : s ≠ ""
  first : ∀ c ∈ s.toList.head?, c.toNat ∉ blankPoints
  last : ∀ c ∈ s.toList.getLast?, c.toNat ∉ blankPoints

structure Parts (s before core behind : String) : Prop where
  text : s = before ++ core ++ behind
  before : Padding before
  core : IsCore core
  behind : Padding behind

variable {s before core behind : String}

theorem padding_iff : Padding s ↔ ∀ c ∈ s.toList, isBlank c = true := by
  simp only [Padding, isBlank_iff]

instance (s : String) : Decidable (Padding s) :=
  decidable_of_iff (s.toList.all isBlank = true) (by rw [List.all_eq_true, padding_iff])

theorem trim_trim (s : String) : trim (trim s) = trim s := by
  rw [trim, toList_trim, trimWith_trimWith, ← toList_trim, String.ofList_toList]

theorem trim_eq_self_iff (s : String) : trim s = s ↔ trimWith isBlank s.toList = s.toList := by
  rw [← String.toList_inj, toList_trim]

theorem trim_eq_empty_iff (s : String) : trim s = "" ↔ Padding s := by
  rw [← String.toList_eq_nil_iff, toList_trim, trimWith_eq_nil_iff, padding_iff]

theorem isCore_iff : IsCore s ↔ s ≠ "" ∧ trim s = s := by
  rw [trim_eq_self_iff, trimWith_eq_self_iff]
  simp only [isBlank_eq_false_iff]
  constructor
  · rintro ⟨filled, first, last⟩
    exact ⟨filled, first, last⟩
  · rintro ⟨filled, first, last⟩
    exact ⟨filled, first, last⟩

instance (s : String) : Decidable (IsCore s) := decidable_of_iff _ isCore_iff.symm

theorem trim_padded (front : Padding before) (back : Padding behind) :
    trim (before ++ s ++ behind) = trim s := by
  rw [← String.toList_inj, toList_trim, toList_trim, String.toList_append, String.toList_append]
  exact trimWith_padded _ (padding_iff.mp front) (padding_iff.mp back)

theorem Parts.trim_eq (parts : Parts s before core behind) : trim s = core := by
  rw [parts.text, trim_padded parts.before parts.behind, (isCore_iff.mp parts.core).2]

theorem Parts.takeWhile_eq (parts : Parts s before core behind) :
    s.toList.takeWhile isBlank = before.toList := by
  have filled : core.toList ≠ [] := String.toList_eq_nil_iff.not.mpr parts.core.filled
  rw [parts.text, String.toList_append, String.toList_append]
  exact takeWhile_padded _ (padding_iff.mp parts.before) filled fun c first =>
    (isBlank_eq_false_iff c).mpr (parts.core.first c first)

theorem Parts.unique {before' core' behind' : String} (parts : Parts s before core behind)
    (others : Parts s before' core' behind') :
    before = before' ∧ core = core' ∧ behind = behind' := by
  have front : before = before' :=
    String.toList_inj.mp (parts.takeWhile_eq.symm.trans others.takeWhile_eq)
  have middle : core = core' := parts.trim_eq.symm.trans others.trim_eq
  subst front middle
  have back := (String.append_right_inj _).mp (parts.text.symm.trans others.text)
  exact ⟨rfl, rfl, back⟩

theorem exists_parts_iff :
    (∃ before behind, Parts s before core behind) ↔ core ≠ "" ∧ trim s = core := by
  constructor
  · rintro ⟨before, behind, parts⟩
    exact ⟨parts.core.filled, parts.trim_eq⟩
  · rintro ⟨filled, rfl⟩
    -- the parts are what each of the two trimming passes takes off
    let rest := s.toList.dropWhile isBlank
    refine ⟨String.ofList (s.toList.takeWhile isBlank), String.ofList (rest.rtakeWhile isBlank),
      ?_, ?_, isCore_iff.mpr ⟨filled, trim_trim s⟩, ?_⟩
    · rw [← String.toList_inj]
      simp only [String.toList_append, String.toList_ofList, toList_trim]
      rw [trimWith, trimEnd_eq_rdropWhile, List.append_assoc, List.rdropWhile_append_rtakeWhile,
        List.takeWhile_append_dropWhile]
    · rw [padding_iff, String.toList_ofList]
      exact fun c => List.mem_takeWhile_imp
    · rw [padding_iff, String.toList_ofList]
      exact fun c => List.mem_rtakeWhile_imp

end ReactionLedger.Text
