import Mathlib.Data.List.Sort
import Mathlib.Order.Basic

/-! Sorting by a key, where entries with one key keep their order. What is sorted is
known by the entries of each key alone, in their order. -/

namespace StableSort

variable {α β κ : Type*} [LinearOrder κ] (key : α → κ)

/-- Behind all that are not greater. -/
def place (entry : α) : List α → List α
  | [] => [entry]
  | other :: rest => if key entry < key other then entry :: other :: rest else other :: place entry rest

/-- The entries are placed one after the other. -/
def sort (entries : List α) : List α := entries.foldl (fun placed entry => place key entry placed) []

/-- The keys do not decrease. -/
def Ordered (entries : List α) : Prop := entries.Pairwise (fun first second => key first ≤ key second)

variable {key}

theorem perm_place (entry : α) (placed : List α) : (place key entry placed).Perm (entry :: placed) := by
  induction placed with
  | nil => exact .refl _
  | cons other rest ih =>
    rw [place]
    split
    · exact .refl _
    · exact (ih.cons other).trans (.swap entry other rest)

theorem Ordered.place {placed : List α} (ordered : Ordered key placed) (entry : α) :
    Ordered key (StableSort.place key entry placed) := by
  induction placed with
  | nil => exact List.pairwise_singleton _ _
  | cons other rest ih =>
    obtain ⟨least, ordered'⟩ := List.pairwise_cons.mp ordered
    rw [StableSort.place]
    split
    next before =>
      refine List.pairwise_cons.mpr ⟨?_, ordered⟩
      rw [List.forall_mem_cons]
      exact ⟨before.le, fun later member => before.le.trans (least later member)⟩
    next behind =>
      refine List.pairwise_cons.mpr ⟨?_, ih ordered'⟩
      intro later member
      rcases List.mem_cons.mp ((perm_place entry rest).mem_iff.mp member) with rfl | member
      · exact not_lt.mp behind
      · exact least later member

theorem filter_of_lt {entries : List α} {wanted : κ} (above : ∀ entry ∈ entries, wanted < key entry) :
    entries.filter (key · = wanted) = [] := by
  rw [List.filter_eq_nil_iff]
  intro entry member
  simpa using (above entry member).ne'

theorem lt_of_ordered {first wanted : α} {rest : List α} (before : key wanted < key first)
    (least : ∀ later ∈ rest, key first ≤ key later) : ∀ later ∈ first :: rest, key wanted < key later := by
  rw [List.forall_mem_cons]
  exact ⟨before, fun later member => before.trans_le (least later member)⟩

/-- An entry comes last of those with its key, and the others do not notice. -/
theorem filter_place {placed : List α} (ordered : Ordered key placed) (entry : α) (wanted : κ) :
    (place key entry placed).filter (key · = wanted) =
      placed.filter (key · = wanted) ++ if key entry = wanted then [entry] else [] := by
  induction placed with
  | nil => by_cases here : key entry = wanted <;> simp [place, here]
  | cons other rest ih =>
    obtain ⟨least, ordered'⟩ := List.pairwise_cons.mp ordered
    rw [place]
    split
    next before =>
      by_cases here : key entry = wanted
      · -- all that follow are greater
        have none : (other :: rest).filter (key · = wanted) = [] := by
          rw [← here]
          exact filter_of_lt (lt_of_ordered before least)
        rw [List.filter_cons_of_pos (by simpa using here), none, if_pos here]
        rfl
      · rw [List.filter_cons_of_neg (by simpa using here), if_neg here, List.append_nil]
    next =>
      rw [List.filter_cons, List.filter_cons, ih ordered']
      split <;> rfl

section Folded

theorem ordered_foldl {placed : List α} (ordered : Ordered key placed) (entries : List α) :
    Ordered key (entries.foldl (fun placed entry => place key entry placed) placed) := by
  induction entries generalizing placed with
  | nil => exact ordered
  | cons entry rest ih => exact ih (ordered.place entry)

theorem filter_foldl {placed : List α} (ordered : Ordered key placed) (entries : List α) (wanted : κ) :
    (entries.foldl (fun placed entry => place key entry placed) placed).filter (key · = wanted) =
      placed.filter (key · = wanted) ++ entries.filter (key · = wanted) := by
  induction entries generalizing placed with
  | nil => simp
  | cons entry rest ih =>
    rw [List.foldl_cons, ih (ordered.place entry), filter_place ordered, List.append_assoc, List.filter_cons]
    by_cases here : key entry = wanted <;> simp [here]

theorem perm_foldl (placed entries : List α) :
    (entries.foldl (fun placed entry => place key entry placed) placed).Perm (placed ++ entries) := by
  induction entries generalizing placed with
  | nil => simp
  | cons entry rest ih =>
    refine (ih (place key entry placed)).trans ?_
    refine ((perm_place entry placed).append_right rest).trans ?_
    exact (List.perm_middle).symm

end Folded

theorem sort_ordered (entries : List α) : Ordered key (sort key entries) := ordered_foldl .nil entries

theorem filter_sort (entries : List α) (wanted : κ) :
    (sort key entries).filter (key · = wanted) = entries.filter (key · = wanted) := by
  rw [sort, filter_foldl .nil]
  rfl

theorem sort_perm (entries : List α) : (sort key entries).Perm entries := perm_foldl [] entries

theorem place_map {γ : Type*} (change : γ → α) (entry : γ) (placed : List γ) :
    place key (change entry) (placed.map change) = (place (key ∘ change) entry placed).map change := by
  induction placed with
  | nil => rfl
  | cons other rest ih =>
    rw [List.map_cons, place, place, ih, Function.comp_apply, Function.comp_apply]
    split <;> rfl

theorem sort_map {γ : Type*} (change : γ → α) (entries : List γ) :
    sort key (entries.map change) = (sort (key ∘ change) entries).map change := by
  have folded (placed : List γ) : (entries.map change).foldl (fun placed entry => place key entry placed) (placed.map change) =
      (entries.foldl (fun placed entry => place (key ∘ change) entry placed) placed).map change := by
    induction entries generalizing placed with
    | nil => rfl
    | cons entry rest ih => rw [List.map_cons, List.foldl_cons, List.foldl_cons, place_map, ih]
  exact folded []

/-- Ordered entries have no key below their first one. -/
theorem not_lt_of_same {value : α → β} {entry other : α} {entries others : List α} (arranged : Ordered key (other :: others))
    (same : ((entry :: entries).filter (key · = key entry)).map value = ((other :: others).filter (key · = key entry)).map value) :
    ¬ key entry < key other := by
  intro before
  have none : (other :: others).filter (key · = key entry) = [] :=
    filter_of_lt (lt_of_ordered before (List.pairwise_cons.mp arranged).1)
  rw [none] at same
  simp at same

/-- Ordered entries are told apart by the entries of some key. -/
theorem map_eq_of_filter {value : α → β} {entries others : List α} (ordered : Ordered key entries) (arranged : Ordered key others)
    (same : ∀ wanted, (entries.filter (key · = wanted)).map value = (others.filter (key · = wanted)).map value) :
    entries.map value = others.map value := by
  induction entries generalizing others with
  | nil =>
    cases others with
    | nil => rfl
    | cons other others => simpa using same (key other)
  | cons entry entries ih =>
    cases others with
    | nil => simpa using same (key entry)
    | cons other others =>
      -- neither list has a key below the first of the other
      have below := not_lt_of_same arranged (same (key entry))
      have above := not_lt_of_same ordered (same (key other)).symm
      have level : key other = key entry := le_antisymm (not_lt.mp below) (not_lt.mp above)
      have firsts := same (key entry)
      simp only [List.filter_cons, level, decide_true, if_true, List.map_cons, List.cons.injEq] at firsts
      rw [List.map_cons, List.map_cons, firsts.1, ih (List.pairwise_cons.mp ordered).2 (List.pairwise_cons.mp arranged).2]
      intro wanted
      by_cases here : key entry = wanted
      · rw [← here]
        exact firsts.2
      · simpa [List.filter_cons, level, here] using same wanted

/-- Two lists are sorted to the same values exactly if they have the same values of each key, in one order. -/
theorem map_sort_inj {value : α → β} (known : ∀ first second, value first = value second → key first = key second)
    {entries others : List α} :
    (sort key entries).map value = (sort key others).map value ↔
      ∀ wanted, (entries.filter (key · = wanted)).map value = (others.filter (key · = wanted)).map value := by
  constructor
  · intro same wanted
    rw [← filter_sort, ← filter_sort others]
    generalize sort key entries = sorted, sort key others = arranged at same
    induction sorted generalizing arranged with
    | nil =>
      obtain rfl := List.map_eq_nil_iff.mp same.symm
      rfl
    | cons entry sorted ih =>
      cases arranged with
      | nil => cases same
      | cons other arranged =>
        simp only [List.map_cons, List.cons.injEq] at same
        have level := known entry other same.1
        rw [List.filter_cons, List.filter_cons, level]
        split
        · rw [List.map_cons, List.map_cons, same.1, ih arranged same.2]
        · exact ih arranged same.2
  · intro same
    apply map_eq_of_filter (sort_ordered entries) (sort_ordered others)
    intro wanted
    rw [filter_sort, filter_sort]
    exact same wanted

end StableSort
