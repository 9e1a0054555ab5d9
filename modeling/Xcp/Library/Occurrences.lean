import Mathlib.Data.List.Count
import Mathlib.Data.List.Nodup

/-! The values of a list, each with how often it came before. A list of labels that
are made of these is free of repetitions where the labels tell them apart. -/

namespace Occurrences

variable {α β : Type*} [DecidableEq α]

/-- Each value, with how often it came before. -/
def counted (before : List α) : List α → List (α × Nat)
  | [] => []
  | value :: rest => (value, before.count value) :: counted (value :: before) rest

theorem mem_counted {before values : List α} {value : α} {count : Nat} :
    (value, count) ∈ counted before values ↔ before.count value ≤ count ∧ count < before.count value + values.count value := by
  induction values generalizing before with
  | nil => simp [counted]
  | cons first rest ih =>
    rw [counted, List.mem_cons, ih, Prod.mk.injEq]
    by_cases same : value = first
    · subst same
      simp only [List.count_cons_self, true_and]
      omega
    · simp [List.count_cons_of_ne (Ne.symm same), same]

theorem counted_nodup (before values : List α) : (counted before values).Nodup := by
  induction values generalizing before with
  | nil => exact List.nodup_nil
  | cons first rest ih =>
    refine List.nodup_cons.mpr ⟨?_, ih (first :: before)⟩
    rw [mem_counted, List.count_cons_self]
    omega

/-- The labels of a list. -/
def labels (label : α → Nat → β) (values : List α) : List β := (counted [] values).map (fun entry => label entry.1 entry.2)

/-- Labels repeat only where two occurrences have one label. -/
theorem labels_nodup {label : α → Nat → β} {values : List α} :
    (labels label values).Nodup ↔ ∀ first count, count < values.count first → ∀ second other, other < values.count second →
      label first count = label second other → first = second ∧ count = other := by
  rw [labels, List.nodup_map_iff_inj_on (counted_nodup [] values)]
  simp only [Prod.forall, mem_counted, List.count_nil, Nat.zero_le, true_and, Nat.zero_add, Prod.mk.injEq]

/-- Where a value stands for itself first, and what is made of repetitions tells them apart, the labels are free of
repetitions exactly if no value is what is made of a repetition. -/
theorem labels_nodup_iff {label : α → Nat → α} (itself : ∀ value, label value 0 = value)
    (apart : ∀ first second count other, label first (count + 1) = label second (other + 1) → first = second ∧ count = other)
    {values : List α} :
    (labels label values).Nodup ↔ ∀ value count, 0 < count → count < values.count value → label value count ∉ values := by
  rw [labels_nodup]
  constructor
  · intro distinct value count positive repeated member
    have present : 0 < values.count (label value count) := List.count_pos_iff.mpr member
    have clash := distinct value count repeated (label value count) 0 present (itself _).symm
    omega
  · intro free first count within second other inside same
    match count, other with
    | 0, 0 =>
      rw [itself, itself] at same
      exact ⟨same, rfl⟩
    | 0, other + 1 =>
      rw [itself] at same
      exact (free second (other + 1) other.succ_pos inside (same ▸ List.count_pos_iff.mp within)).elim
    | count + 1, 0 =>
      rw [itself] at same
      exact (free first (count + 1) count.succ_pos within (same ▸ List.count_pos_iff.mp inside)).elim
    | count + 1, other + 1 =>
      obtain ⟨values, counts⟩ := apart first second count other same
      exact ⟨values, congrArg Nat.succ counts⟩

end Occurrences
