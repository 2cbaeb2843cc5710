import ReactionLedger.Label
import ReactionLedger.Proofs.Text.Trimming

set_option autoImplicit false

namespace ReactionLedger

namespace Label

theorem normalize_eq_ok_iff (label core : String) :
    normalize label = .ok core ↔
      core = Text.trim label ∧ core.isEmpty = false ∧ core.length ≤ maxLength := by
  unfold normalize
  dsimp only
  constructor
  · intro normal
    split at normal
    next => simp at normal
    next full =>
      split at normal
      next => simp at normal
      next short =>
        obtain rfl := Except.ok.inj normal
        exact ⟨rfl, by simpa using full, by omega⟩
  · rintro ⟨rfl, full, short⟩
    rw [if_neg (by simp [full]), if_neg (by omega)]

structure Normal (label : String) : Prop where
  trimmed : Text.trim label = label
  filled : label ≠ ""
  short : label.length ≤ maxLength

theorem normal_of_normalize {label core : String} (accepted : normalize label = .ok core) :
    Normal core := by
  obtain ⟨rfl, filled, short⟩ := (normalize_eq_ok_iff label core).mp accepted
  exact ⟨Text.trim_trim label, by simpa using filled, short⟩

theorem not_normal_of_refused {label : String} {fault : Fault}
    (refused : normalize label = .error fault) : ¬ Normal (Text.trim label) := by
  intro normal
  have accepted : normalize label = .ok (Text.trim label) :=
    (normalize_eq_ok_iff label _).mpr ⟨rfl, by simpa using normal.filled, normal.short⟩
  cases refused.symm.trans accepted

theorem normalize_congr {label other : String} (same : Text.trim label = Text.trim other) :
    normalize label = normalize other := by
  rw [normalize, normalize, same]

theorem normalize_eq_empty_iff (label : String) :
    normalize label = .error .empty ↔ Text.Padding label := by
  rw [← Text.trim_eq_empty_iff, normalize]
  split
  next void => simpa using void
  next full =>
    have filled : Text.trim label ≠ "" := by simpa using full
    split <;> simp [filled]

theorem normalize_eq_tooLong_iff (label : String) :
    normalize label = .error .tooLong ↔ maxLength < (Text.trim label).length := by
  rw [normalize]
  split
  next void => simp [String.isEmpty_iff.mp void]
  next =>
    split
    next long => simpa using long
    next short => simpa using short

theorem accepted_iff (label core : String) : normalize label = .ok core ↔
    (∃ before behind, Text.Parts label before core behind) ∧ core.length ≤ maxLength := by
  rw [normalize_eq_ok_iff, Text.exists_parts_iff]
  constructor
  · rintro ⟨rfl, full, short⟩
    exact ⟨⟨by simpa using full, rfl⟩, short⟩
  · rintro ⟨⟨filled, rfl⟩, short⟩
    exact ⟨rfl, by simpa using filled, short⟩

theorem tooLong_iff (label : String) : normalize label = .error .tooLong ↔
    ∃ core, (∃ before behind, Text.Parts label before core behind) ∧ maxLength < core.length := by
  rw [normalize_eq_tooLong_iff]
  simp only [Text.exists_parts_iff]
  constructor
  · intro long
    have filled : Text.trim label ≠ "" := by
      intro void
      simp [void] at long
    exact ⟨Text.trim label, ⟨filled, rfl⟩, long⟩
  · rintro ⟨_, ⟨-, rfl⟩, long⟩
    exact long

theorem refused_iff (label : String) : (∃ fault, normalize label = .error fault) ↔
    ¬∃ core, (∃ before behind, Text.Parts label before core behind) ∧ core.length ≤ maxLength := by
  simp only [← accepted_iff]
  cases normalize label <;> simp

theorem Fault.message_injective : Function.Injective Fault.message := by
  intro a b same
  cases a <;> cases b
  all_goals first
    | rfl
    | exact absurd same (by decide +kernel)

theorem refused_with_iff (label : String) (fault : Fault) :
    (∃ raised, normalize label = .error raised ∧ raised.message = fault.message) ↔
      normalize label = .error fault := by
  simp only [Fault.message_injective.eq_iff, exists_eq_right]

theorem normalize_idem {label core : String} (accepted : normalize label = .ok core) :
    normalize core = .ok core := by
  have normal := normal_of_normalize accepted
  exact (normalize_eq_ok_iff core core).mpr
    ⟨normal.trimmed.symm, by simpa using normal.filled, normal.short⟩

/-- A label is accepted as its core where that has at most 64 characters. -/
theorem normalize_accepts_short_cores (label : String) :
    (∀ core, normalize label = .ok core ↔
      (∃ before behind, Text.Parts label before core behind) ∧ core.length ≤ 64) ∧
    ((∃ fault, normalize label = .error fault) ↔
      ¬∃ core, (∃ before behind, Text.Parts label before core behind) ∧ core.length ≤ 64) ∧
    ((∃ fault, normalize label = .error fault ∧
      fault.message = "Reaction type must not be empty") ↔ Text.Padding label) ∧
    ((∃ fault, normalize label = .error fault ∧
      fault.message = "Reaction type must be at most 64 characters") ↔
      ∃ core, (∃ before behind, Text.Parts label before core behind) ∧ 64 < core.length) ∧
    (∀ before core behind before' core' behind', Text.Parts label before core behind →
      Text.Parts label before' core' behind' →
        before = before' ∧ core = core' ∧ behind = behind') ∧
    (∀ core, normalize label = .ok core → normalize core = .ok core) ∧
    ∀ before behind, Text.Padding before → Text.Padding behind →
      normalize (before ++ label ++ behind) = normalize label := by
  refine ⟨accepted_iff label, refused_iff label, ?_, ?_, ?_, ?_, ?_⟩
  · exact (refused_with_iff label .empty).trans (normalize_eq_empty_iff label)
  · have message : Fault.tooLong.message = "Reaction type must be at most 64 characters" := by
      decide +kernel
    rw [← message]
    exact (refused_with_iff label .tooLong).trans (tooLong_iff label)
  · intro _ _ _ _ _ _ parts others
    exact parts.unique others
  · exact fun _ accepted => normalize_idem accepted
  · exact fun _ _ front back => normalize_congr (Text.trim_padded front back)

namespace Longest

def core : String := String.ofList ('a' :: List.replicate 62 ' ' ++ ['b'])

theorem padded_core_is_accepted :
    Text.Parts ("\u3000" ++ core ++ "\x85\t") "\u3000" core "\x85\t" ∧ core.length = 64 ∧
      normalize ("\u3000" ++ core ++ "\x85\t") = .ok core := by
  have parts : Text.Parts ("\u3000" ++ core ++ "\x85\t") "\u3000" core "\x85\t" :=
    ⟨rfl, by decide +kernel, by decide +kernel, by decide +kernel⟩
  have length : core.length = 64 := by decide +kernel
  have accepted := ((normalize_accepts_short_cores _).1 core).mpr ⟨⟨_, _, parts⟩, length.le⟩
  exact ⟨parts, length, accepted⟩

end Longest

end Label

end ReactionLedger
