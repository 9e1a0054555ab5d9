import Mathlib.Data.List.Basic
import Mathlib.Data.List.Forall2

/-! Computations that stop at the first check that fails. -/

namespace Checked

universe u v

variable {ε : Type v} {α β : Type u}

/-- Go on if the condition holds, stop with the error otherwise. -/
def require (condition : Prop) [Decidable condition] (error : ε) : Except ε Unit :=
  if condition then .ok () else .error error

@[simp] theorem require_eq_ok (condition : Prop) [Decidable condition] (error : ε) (answer : Unit) :
    require condition error = .ok answer ↔ condition := by
  unfold require
  split <;> simp [*]

theorem require_true {condition : Prop} [Decidable condition] (error : ε) (holds : condition) :
    require condition error = .ok () := by
  simp [holds]

/-- A chain of computations succeeds through a value of its first one. -/
@[simp] theorem bind_eq_ok (first : Except ε α) (next : α → Except ε β) (result : β) :
    (first >>= next) = .ok result ↔ ∃ value, first = .ok value ∧ next value = .ok result := by
  cases first with
  | error error => simp [bind, Except.bind]
  | ok value => simp [bind, Except.bind]

@[simp] theorem pure_eq_ok (value result : α) : (pure value : Except ε α) = .ok result ↔ value = result := by
  simp [pure, Except.pure]

@[simp] theorem map_eq_ok (f : α → β) (first : Except ε α) (result : β) :
    f <$> first = .ok result ↔ ∃ value, first = .ok value ∧ f value = result := by
  cases first with
  | error error => simp [Functor.map, Except.map]
  | ok value => simp [Functor.map, Except.map]

@[simp] theorem mapError_eq_ok {δ : Type*} (change : ε → δ) (first : Except ε α) (result : α) :
    first.mapError change = .ok result ↔ first = .ok result := by
  cases first <;> simp [Except.mapError]

theorem ok_bind (value : α) (next : α → Except ε β) : (Except.ok value >>= next) = next value := rfl

theorem toOption_eq_some {result : Except ε α} {value : α} : result.toOption = some value ↔ result = .ok value := by
  cases result <;> simp [Except.toOption]

/-- What passed a test was an answer. -/
theorem ok_of_any {result : Except ε α} {passes : α → Bool} (passed : result.toOption.any passes = true) :
    ∃ value, result = .ok value ∧ passes value = true := by
  obtain ⟨value, read, passed⟩ := (Option.any_eq_true passes result.toOption).mp passed
  exact ⟨value, toOption_eq_some.mp read, passed⟩

theorem ok_of_isSome {result : Except ε α} (some : result.toOption.isSome = true) : ∃ value, result = .ok value := by
  obtain ⟨value, read⟩ := Option.isSome_iff_exists.mp some
  exact ⟨value, toOption_eq_some.mp read⟩

def andThen (condition : Bool) (check : Except ε Bool) : Except ε Bool := if condition then check else .ok false

@[simp] theorem andThen_eq_true (condition : Bool) (check : Except ε Bool) :
    andThen condition check = .ok true ↔ condition = true ∧ check = .ok true := by
  cases condition <;> simp [andThen]

@[simp] theorem andThen_eq_false (condition : Bool) (check : Except ε Bool) :
    andThen condition check = .ok false ↔ (condition = true → check = .ok false) := by
  cases condition <;> simp [andThen]

def problemIf (condition : Bool) (problem : String) : List String := if condition then [problem] else []

@[simp] theorem problemIf_eq_nil (condition : Bool) (problem : String) :
    problemIf condition problem = [] ↔ condition = false := by
  cases condition <;> simp [problemIf]

/-- The state after a computation that leaves it alone when it fails. -/
def settle (before : α) : Except ε α → α
  | .ok after => after
  | .error _ => before

@[simp] theorem settle_ok (before after : α) : settle before (.ok after : Except ε α) = after := rfl

theorem settle_cases (before : α) (result : Except ε α) :
    (∃ after, result = .ok after ∧ settle before result = after) ∨ settle before result = before := by
  cases result with
  | ok after => exact .inl ⟨after, rfl, rfl⟩
  | error error => exact .inr rfl

theorem settle_fst_cases (before : α) (result : Except ε (α × β)) :
    (∃ after answer, result = .ok (after, answer) ∧ settle before (Prod.fst <$> result) = after) ∨
      settle before (Prod.fst <$> result) = before := by
  cases result with
  | ok both => exact .inl ⟨both.1, both.2, rfl, rfl⟩
  | error error => exact .inr rfl

/-! ### One computation for every item -/

section Items
variable {read : α → Except ε β} {items : List α} {results : List β}

theorem mapM_eq_ok : items.mapM read = .ok results ↔ List.Forall₂ (fun item result => read item = .ok result) items results := by
  induction items generalizing results with
  | nil => simp only [List.mapM_nil, pure_eq_ok, List.forall₂_nil_left_iff, eq_comm (a := [])]
  | cons item items ih =>
    simp only [List.mapM_cons, bind_eq_ok, pure_eq_ok, ih, List.forall₂_cons_left_iff]
    constructor
    · intro ⟨result, one, others, later, all⟩
      exact ⟨result, others, one, later, all.symm⟩
    · intro ⟨result, others, one, later, all⟩
      exact ⟨result, one, others, later, all.symm⟩

theorem mapM_ok {value : α → β} (each : ∀ item ∈ items, read item = .ok (value item)) :
    items.mapM read = .ok (items.map value) := by
  rw [mapM_eq_ok, List.forall₂_map_right_iff, List.forall₂_same]
  exact each

theorem eq_map_of_mapM {value : α → β} (known : ∀ item result, read item = .ok result → result = value item)
    (all : items.mapM read = .ok results) : results = items.map value := by
  have pairs := (mapM_eq_ok.mp all).imp fun item result one => (known item result one).symm
  rw [← List.forall₂_map_left_iff, List.forall₂_eq_eq_eq] at pairs
  exact pairs.symm

theorem result_of_mapM (all : items.mapM read = .ok results) {item : α} (member : item ∈ items) :
    ∃ result ∈ results, read item = .ok result := by
  have pairs := mapM_eq_ok.mp all
  clear all
  induction pairs with
  | nil => cases member
  | @cons first result _ _ one _ ih =>
    obtain rfl | later := List.mem_cons.mp member
    · exact ⟨result, List.mem_cons_self .., one⟩
    · obtain ⟨result, inside, read⟩ := ih later
      exact ⟨result, List.mem_cons_of_mem _ inside, read⟩

theorem item_of_mapM (all : items.mapM read = .ok results) {result : β} (member : result ∈ results) :
    ∃ item ∈ items, read item = .ok result := by
  have pairs := mapM_eq_ok.mp all
  clear all
  induction pairs with
  | nil => cases member
  | @cons item _ _ _ one _ ih =>
    obtain rfl | later := List.mem_cons.mp member
    · exact ⟨item, List.mem_cons_self .., one⟩
    · obtain ⟨item, inside, read⟩ := ih later
      exact ⟨item, List.mem_cons_of_mem _ inside, read⟩

end Items

end Checked

/-! Loops whose rounds may fail. What the rounds before a failure did to the
state stays done. -/

namespace Rounds

variable {σ α ε : Type*} (round : σ → α → Except ε σ)

/-- The state in which a loop ends, and the failure that ended it early. -/
def each : σ → List α → σ × Except ε Unit
  | state, [] => (state, .ok ())
  | state, item :: rest =>
    match round state item with
    | .ok next => each next rest
    | .error failure => (state, .error failure)

variable {round}

theorem each_invariant {good : σ → Prop} {items : List α}
    (keeps : ∀ state item next, item ∈ items → good state → round state item = .ok next → good next) :
    ∀ {state : σ}, good state → good (each round state items).1 := by
  induction items with
  | nil => exact fun start => start
  | cons item rest ih =>
    intro state start
    unfold each
    split
    next next done =>
      apply ih
      · intro state later next member
        exact keeps state later next (List.mem_cons_of_mem item member)
      · exact keeps state item next (List.mem_cons_self ..) start done
    next => exact start

theorem each_cons {state next : σ} {item : α} (first : round state item = .ok next) (rest : List α) :
    each round state (item :: rest) = each round next rest := by
  rw [each, first]

/-- A loop that ends well had a first round that did. -/
theorem first_of_each {state : σ} {item : α} {rest : List α} (held : (each round state (item :: rest)).2 = .ok ()) :
    ∃ next, round state item = .ok next ∧ each round state (item :: rest) = each round next rest := by
  cases first : round state item with
  | ok next => exact ⟨next, rfl, each_cons first rest⟩
  | error failure =>
    rw [each, first] at held
    cases held

/-- A loop none of whose rounds can fail ends well. -/
theorem each_ok {items : List α} (succeeds : ∀ state, ∀ item ∈ items, ∃ next, round state item = .ok next) (state : σ) :
    (each round state items).2 = .ok () := by
  induction items generalizing state with
  | nil => rfl
  | cons item rest ih =>
    obtain ⟨next, first⟩ := succeeds state item (List.mem_cons_self ..)
    have later : ∀ state, ∀ item ∈ rest, ∃ next, round state item = .ok next := by
      intro state later member
      exact succeeds state later (List.mem_cons_of_mem item member)
    rw [each_cons first]
    exact ih later next

end Rounds
