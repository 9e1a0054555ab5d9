import Mathlib.Algebra.BigOperators.Group.List.Basic
import Mathlib.Algebra.Order.BigOperators.Group.List
import Mathlib.Algebra.Order.Ring.Defs
import Mathlib.Tactic.Ring

/-! Weights on ordered places. One list of weights dominates another if it has at
least as much weight from any place on; then its places are higher on average. -/

namespace Dominance

variable {α : Type*} [CommSemiring α]

/-- Each place as often as its weight. -/
def moment (weights : List α) : α := (weights.zipIdx.map (fun entry => (entry.2 : α) * entry.1)).sum

theorem moment_from (weights : List α) (start : Nat) :
    ((weights.zipIdx start).map (fun entry => (entry.2 : α) * entry.1)).sum = moment weights + start * weights.sum := by
  have shifted (start : Nat) : ((weights.zipIdx (start + 1)).map (fun entry => (entry.2 : α) * entry.1)).sum =
      ((weights.zipIdx start).map (fun entry => (entry.2 : α) * entry.1)).sum + weights.sum := by
    induction weights generalizing start with
    | nil => simp
    | cons weight rest ih =>
      rw [List.zipIdx_cons, List.zipIdx_cons, List.map_cons, List.map_cons, List.sum_cons, List.sum_cons, List.sum_cons, ih]
      push_cast
      ring
  induction start with
  | zero => simp [moment]
  | succ start ih =>
    rw [shifted, ih]
    push_cast
    ring

/-- What is behind the first place counts once more. -/
theorem moment_cons (weight : α) (rest : List α) : moment (weight :: rest) = moment rest + rest.sum := by
  rw [moment, List.zipIdx_cons, List.map_cons, List.sum_cons, Nat.zero_add, moment_from]
  simp

variable [PartialOrder α] [IsOrderedRing α]

def Dominated (first second : List α) : Prop := ∀ place, (first.drop place).sum ≤ (second.drop place).sum

omit [IsOrderedRing α] in
theorem dominated_nil : Dominated ([] : List α) [] := fun place => by simp

omit [IsOrderedRing α] in
theorem dominated_cons {weight other : α} {rest others : List α} :
    Dominated (weight :: rest) (other :: others) ↔ weight + rest.sum ≤ other + others.sum ∧ Dominated rest others := by
  constructor
  · intro dominated
    exact ⟨by simpa using dominated 0, fun place => dominated (place + 1)⟩
  · intro ⟨whole, behind⟩ place
    cases place with
    | zero => simpa using whole
    | succ place => exact behind place

theorem moment_mono {first second : List α} (lengths : first.length = second.length) (dominated : Dominated first second) :
    moment first ≤ moment second := by
  induction first generalizing second with
  | nil =>
    obtain rfl := List.length_eq_zero_iff.mp lengths.symm
    exact le_refl _
  | cons weight rest ih =>
    cases second with
    | nil => cases lengths
    | cons other others =>
      have behind := (dominated_cons.mp dominated).2
      rw [moment_cons, moment_cons]
      exact add_le_add (ih (Nat.succ_inj.mp lengths) behind) (behind 0)

end Dominance
