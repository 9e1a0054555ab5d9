import Mathlib.Data.List.Basic
import Mathlib.Order.MinMax
import Mathlib.Algebra.Order.Group.Int

/-! Asking for a reply where asking costs: the cheapest first, and none that costs more
than what is left. A budget that is too small for the first that replies is too
small for all that come after it. -/

namespace Thrift

variable {α β : Type*} (cost : α → Int) (reply : α → Option β)

/-- A reply, with who gives it, how long that takes, and how long it took to get there. -/
structure Found (α β : Type*) where
  source : α
  value : β
  took : Nat
  before : Nat

/-- The first that replies, whatever it costs. -/
def first? (before : Nat) : List (α × Nat) → Option (Found α β)
  | [] => none
  | (source, took) :: rest =>
    match reply source with
    | some value => some { source, value, took, before }
    | none => first? (before + took) rest

/-- The first that replies of those that cost no more than what is left when their turn comes. -/
def serve (budget : Int) (before : Nat) : List (α × Nat) → Option (Found α β)
  | [] => none
  | (source, took) :: rest =>
    if cost source ≤ max 0 (budget - before) then
      match reply source with
      | some value => some { source, value, took, before }
      | none => serve budget (before + took) rest
    else serve budget before rest

/-- What is left is enough for the one that replies. -/
def Found.affordable (budget : Int) (found : Found α β) : Bool := cost found.source ≤ max 0 (budget - found.before)

variable {cost reply}

theorem serve_eq_none {budget : Int} {sources : List (α × Nat)} {before : Nat}
    (dear : ∀ source ∈ sources, max 0 (budget - before) < cost source.1) : serve cost reply budget before sources = none := by
  induction sources with
  | nil => rfl
  | cons entry rest ih =>
    obtain ⟨first, later⟩ := List.forall_mem_cons.mp dear
    rw [serve, if_neg (not_le.mpr first)]
    exact ih later

theorem first?_before {before : Nat} {sources : List (α × Nat)} {found : Found α β} (replies : first? reply before sources = some found) :
    found.source ∈ sources.map Prod.fst ∧ before ≤ found.before := by
  induction sources generalizing before with
  | nil => cases replies
  | cons entry rest ih =>
    rw [first?] at replies
    split at replies
    next =>
      cases replies
      exact ⟨List.mem_cons_self .., le_refl _⟩
    next =>
      obtain ⟨member, later⟩ := ih replies
      exact ⟨List.mem_cons_of_mem _ member, by omega⟩

/-- In the order of cost, the first that replies is served if there is enough left for it, and else none is. -/
theorem serve_eq {sources : List (α × Nat)} (ordered : sources.Pairwise (fun first second => cost first.1 ≤ cost second.1))
    (budget : Int) (before : Nat) :
    serve cost reply budget before sources = (first? reply before sources).filter (Found.affordable cost budget) := by
  induction sources generalizing before with
  | nil => rfl
  | cons entry rest ih =>
    obtain ⟨least, ordered⟩ := List.pairwise_cons.mp ordered
    by_cases enough : cost entry.1 ≤ max 0 (budget - before)
    · rw [serve, if_pos enough, first?]
      cases reply entry.1 with
      | some value =>
        have affordable : Found.affordable cost budget { source := entry.1, value, took := entry.2, before } = true :=
          decide_eq_true enough
        exact (Option.filter_some_pos affordable).symm
      | none => exact ih ordered _
    · -- what is left only gets less, and the others cost as much
      have dear := not_le.mp enough
      rw [serve, if_neg enough, serve_eq_none (fun source member => dear.trans_le (least source member))]
      symm
      rw [Option.filter_eq_none_iff]
      intro found replies
      obtain ⟨member, later⟩ := first?_before replies
      have above : cost entry.1 ≤ cost found.source := by
        rcases List.mem_cons.mp member with same | member
        · rw [same]
        · obtain ⟨source, inside, same⟩ := List.mem_map.mp member
          exact same ▸ least source inside
      rw [Found.affordable, decide_eq_true_eq]
      omega

end Thrift
