import Mathlib.Order.Basic

/-! A value that an author may raise above a floor, and the floor where he does
not. In a partial order the two may have nothing to do with each other. -/

namespace Floor

variable {α : Type*} [Preorder α] [DecidableLE α]

def raise (least author : α) : α := if least ≤ author then author else least

variable {least higher author : α}

theorem le_raise : least ≤ raise least author := by
  unfold raise
  split
  next above => exact above
  · exact le_rfl

theorem author_le_raise : author ≤ raise least author ↔ author ≤ least ∨ least ≤ author := by
  unfold raise
  split
  next above => simp [above]
  next apart => simp [apart]

/-- A higher floor leaves less below it, unless the author's value is above the
lower floor and beside the higher one. -/
theorem raise_le_raise (rises : least ≤ higher) :
    raise least author ≤ raise higher author ↔ (least ≤ author → author ≤ higher ∨ higher ≤ author) := by
  by_cases above : least ≤ author
  · have low : raise least author = author := if_pos above
    simp only [low, above, true_imp_iff, author_le_raise]
  · have low : raise least author = least := if_neg above
    have least_le : higher ≤ raise higher author := le_raise
    have kept := rises.trans least_le
    simp [low, above, kept]

end Floor
