import Mathlib.Data.List.Forall2
import Mathlib.Data.List.MinMax
import Mathlib.Data.List.Perm.Basic

/-! Choosing the first of the greatest items. Which one that is depends on the
order of the list only through the items that no other one exceeds. -/

namespace FirstMax

variable {α β γ : Type*} [LinearOrder β] (measure : α → β)

/-- An item of the list that none of them exceeds. -/
def Top (items : List α) (item : α) : Prop := item ∈ items ∧ ∀ other ∈ items, measure other ≤ measure item

variable {measure}

theorem Top.perm {items others : List α} {item : α} (top : Top measure items item) (same : others.Perm items) :
    Top measure others item := by
  refine ⟨same.mem_iff.mpr top.1, ?_⟩
  intro other member
  exact top.2 other (same.mem_iff.mp member)

theorem top_argmax {items : List α} {item : α} (chosen : items.argmax measure = some item) :
    Top measure items item := by
  have member := List.argmax_mem (Option.mem_def.mpr chosen)
  refine ⟨member, ?_⟩
  intro other present
  exact List.le_of_mem_argmax present (Option.mem_def.mpr chosen)

/-- A greatest item that comes first is the one chosen. -/
theorem argmax_front {items : List α} {item : α} (greatest : ∀ other ∈ items, measure other ≤ measure item) :
    (item :: items).argmax measure = some item := by
  rw [List.argmax_cons]
  cases chosen : items.argmax measure with
  | none => rfl
  | some other =>
    have low := greatest other (List.argmax_mem (Option.mem_def.mpr chosen))
    simp [not_lt.mpr low]

/-- Items of the same measure at the same places leave the choice where it is. -/
theorem argmax_forall₂ {related : α → α → Prop} {items others : List α}
    (same : ∀ item other, related item other → measure item = measure other)
    (pairs : List.Forall₂ related items others) :
    Option.Rel related (items.argmax measure) (others.argmax measure) := by
  induction pairs with
  | nil => exact .none
  | @cons item other items others front back ih =>
    rw [List.argmax_cons, List.argmax_cons]
    generalize items.argmax measure = left, others.argmax measure = right at ih ⊢
    cases ih with
    | none => exact .some front
    | some rest =>
      dsimp only
      rw [same _ _ front, same _ _ rest]
      split
      · exact .some rest
      · exact .some front

/-- Some order of a list makes any of its greatest items the one chosen, also
when only the items that pass a test count. -/
theorem exists_perm_argmax {items : List α} {test : α → Bool} {item : α}
    (top : Top measure (items.filter test) item) :
    ∃ others : List α, others.Perm items ∧ (others.filter test).argmax measure = some item := by
  obtain ⟨present, passes⟩ := List.mem_filter.mp top.1
  obtain ⟨front, back, rfl⟩ := List.append_of_mem present
  refine ⟨item :: (front ++ back), List.perm_middle.symm, ?_⟩
  rw [List.filter_cons_of_pos passes]
  apply argmax_front
  intro other member
  apply top.2 other
  have moved : (front ++ item :: back).Perm (item :: (front ++ back)) := List.perm_middle
  rw [(moved.filter test).mem_iff, List.filter_cons_of_pos passes]
  exact List.mem_cons_of_mem item member

/-- What the choice leads to is the same in every order of a list exactly when
it is the same for all the greatest items. -/
theorem outcome_perm_iff {items : List α} {test : α → Bool} {outcome : α → γ} (otherwise : γ) :
    (∀ others : List α, others.Perm items →
        ((others.filter test).argmax measure).elim otherwise outcome =
          ((items.filter test).argmax measure).elim otherwise outcome) ↔
      ∀ first second, Top measure (items.filter test) first → Top measure (items.filter test) second →
        outcome first = outcome second := by
  constructor
  · intro same first second one two
    obtain ⟨others, moved, chosen⟩ := exists_perm_argmax one
    obtain ⟨more, again, picked⟩ := exists_perm_argmax two
    have left := same others moved
    have right := same more again
    rw [chosen, Option.elim_some] at left
    rw [picked, Option.elim_some] at right
    exact left.trans right.symm
  · intro agree others moved
    have kept := moved.filter test
    cases chosen : (items.filter test).argmax measure with
    | none =>
      have empty := List.argmax_eq_none.mp chosen
      rw [empty] at kept
      rw [kept.eq_nil, List.argmax_nil]
    | some item =>
      have top := top_argmax chosen
      cases picked : (others.filter test).argmax measure with
      | none =>
        have empty := List.argmax_eq_none.mp picked
        exact absurd (kept.mem_iff.mpr top.1) (by simp [empty])
      | some other => exact agree other item ((top_argmax picked).perm kept.symm) top

end FirstMax
