import Mathlib.Algebra.BigOperators.Finprod
import Mathlib.Algebra.Group.Nat.Defs
import Mathlib.Logic.Encodable.Basic
import Mathlib.Logic.Equiv.List
import Xcp.Library.Checked
import Xcp.Library.Transition

/-! What a contract sees of the machine that runs it: words, the message that
calls it, checked arithmetic, and what it feeds to its hash. -/

namespace Evm
open Checked

abbrev Address := Nat

abbrev Bytes32 := Nat

/-- Input of the hash: a tight packing of fixed-width words, or the bytes of a
text. Hash values are words without an upper bound, since no hash into finitely
many values is free of collisions on all inputs. -/
inductive Preimage where
  | packed (words : List Nat)
  | text (contents : String)
deriving DecidableEq

namespace Preimage

/-- The inputs of the hash can be counted, so numbering them is a hash without
collisions. -/
instance : Encodable Preimage :=
  Encodable.ofLeftInverse
    (fun
      | .packed words => (.inl words : List Nat ⊕ List Nat)
      | .text contents => .inr (contents.toList.map Char.toNat))
    (fun
      | .inl words => .packed words
      | .inr letters => .text (String.ofList (letters.map Char.ofNat)))
    (by rintro (_ | _) <;> simp [Function.comp_def])

def numbered (preimage : Preimage) : Bytes32 := Encodable.encode preimage

theorem numbered_injective : Function.Injective numbered := Encodable.encode_injective

end Preimage

/-- Who calls, with how much ether and when. The zero address signs nothing, so
it never calls. `accepts` says whether a payee called back takes the ether. -/
structure Msg where
  sender : Address
  value : Nat
  timestamp : Nat
  accepts : Bool
  nonzero : sender ≠ 0 := by decide

theorem two_ne_zero : (2 : Address) ≠ 0 := by decide

def uint64 (number : Nat) : Nat := number % 2 ^ 64

/-- Addition and multiplication that revert instead of wrapping around. -/
def add {ε : Type} (bits : Nat) (overflow : ε) (a b : Nat) : Except ε Nat := do
  require (a + b < 2 ^ bits) overflow
  return a + b

def mul {ε : Type} (bits : Nat) (overflow : ε) (a b : Nat) : Except ε Nat := do
  require (a * b < 2 ^ bits) overflow
  return a * b

@[simp] theorem add_eq_ok {ε : Type} (bits : Nat) (overflow : ε) (a b sum : Nat) :
    add bits overflow a b = .ok sum ↔ a + b < 2 ^ bits ∧ a + b = sum := by
  simp [add]

@[simp] theorem mul_eq_ok {ε : Type} (bits : Nat) (overflow : ε) (a b product : Nat) :
    mul bits overflow a b = .ok product ↔ a * b < 2 ^ bits ∧ a * b = product := by
  simp [mul]

end Evm

/-! Calls that end in a payment. Before it takes the payment or refuses it, the
payee may call back, as often and as deep as it likes. A refusal undoes the call
with all that was called from inside it. -/

namespace Reentry
open Checked Transition

/-- A call, and the calls that its payee makes before it answers. -/
inductive Attempt (ε : Type*) where
  | call (event : ε) (inside : List (Attempt ε))

structure Machine (σ ε ρ : Type*) where
  /-- The whole call, the payment it ends in included. -/
  body : σ → ε → Except ρ σ
  pays : σ → ε → Bool
  takes : ε → Bool

variable {σ ε ρ : Type*} (machine : Machine σ ε ρ)

mutual

/-- The states that a call passes through, undone ones included, and the one it leaves. -/
def attempt (state : σ) : Attempt ε → List σ × σ
  | .call event inside =>
    match machine.body state event with
    | .error _ => ([], state)
    | .ok paid =>
      if machine.pays state event then
        let (seen, left) := attempts paid inside
        (paid :: seen, if machine.takes event then left else state)
      else ([paid], paid)

def attempts (state : σ) : List (Attempt ε) → List σ × σ
  | [] => ([], state)
  | first :: rest =>
    let (seen, next) := attempt state first
    let (later, left) := attempts next rest
    (seen ++ later, left)

end

/-- Every state of a run of calls: before it, inside its payments, and between. -/
def visited (state : σ) (calls : List (Attempt ε)) : List σ := state :: (attempts machine state calls).1

/-- The machine without payees that call back. -/
def plain (state : σ) (event : ε) : σ := settle state (machine.body state event)

def Reaches (before after : σ) : Prop := ∃ events, run (plain machine) before events = after

variable {machine}

theorem Reaches.refl (state : σ) : Reaches machine state state := ⟨[], rfl⟩

theorem Reaches.trans {first second third : σ} (one : Reaches machine first second)
    (other : Reaches machine second third) : Reaches machine first third := by
  obtain ⟨events, rfl⟩ := one
  obtain ⟨later, rfl⟩ := other
  exact ⟨events ++ later, run_append _ _ _ _⟩

theorem Reaches.of_body {state after : σ} {event : ε} (done : machine.body state event = .ok after) :
    Reaches machine state after := by
  refine ⟨[event], ?_⟩
  simp only [run_cons, run_nil, plain, done, settle_ok]

/-- All that was passed through and what was left came about without call-backs. -/
def Plainly (machine : Machine σ ε ρ) (state : σ) (result : List σ × σ) : Prop :=
  (∀ seen ∈ result.1, Reaches machine state seen) ∧ Reaches machine state result.2

mutual

/-- The calls made from inside a payment are the next calls of a plain run: the
paying call has done everything else before. -/
theorem attempt_plainly (state : σ) : (attempted : Attempt ε) → Plainly machine state (attempt machine state attempted)
  | .call event inside => by
    unfold attempt
    split
    next => exact ⟨by simp, .refl state⟩
    next paid done =>
      have start : Reaches machine state paid := .of_body done
      obtain ⟨within, left⟩ := attempts_plainly paid inside
      split
      · refine ⟨?_, ?_⟩
        · intro seen member
          rcases List.mem_cons.mp member with rfl | member
          · exact start
          · exact start.trans (within seen member)
        · show Reaches machine state (if machine.takes event then _ else state)
          split
          · exact start.trans left
          · exact .refl state
      · refine ⟨?_, start⟩
        intro seen member
        obtain rfl := List.mem_singleton.mp member
        exact start

theorem attempts_plainly (state : σ) :
    (calls : List (Attempt ε)) → Plainly machine state (attempts machine state calls)
  | [] => ⟨by simp [attempts], .refl state⟩
  | first :: rest => by
    obtain ⟨seen, next⟩ := attempt_plainly state first
    obtain ⟨later, left⟩ := attempts_plainly (attempt machine state first).2 rest
    refine ⟨?_, next.trans left⟩
    intro passed member
    rcases List.mem_append.mp member with member | member
    · exact seen passed member
    · exact next.trans (later passed member)

end

theorem reaches_of_visited {state seen : σ} {calls : List (Attempt ε)} (member : seen ∈ visited machine state calls) :
    Reaches machine state seen := by
  rcases List.mem_cons.mp member with rfl | member
  · exact .refl _
  · exact (attempts_plainly state calls).1 seen member

/-- What every call that goes through keeps holds of every state, those inside
payments and those undone later included. -/
theorem visited_invariant {good : σ → Prop}
    (keeps : ∀ state event after, good state → machine.body state event = .ok after → good after)
    {state : σ} (start : good state) {calls : List (Attempt ε)} {seen : σ} (member : seen ∈ visited machine state calls) :
    good seen := by
  obtain ⟨events, rfl⟩ := reaches_of_visited member
  apply run_invariant _ start
  intro before event holds
  unfold plain
  rcases settle_cases before (machine.body before event) with ⟨after, done, same⟩ | same
  · rw [same]
    exact keeps before event after holds done
  · rw [same]
    exact holds

end Reentry

/-! What all entries of a table hold together. A table has an entry under every
key, and all but finitely many hold nothing. -/

namespace Holdings

variable {α β : Type*} (amount : β → ℕ)

/-- Only finitely many entries hold anything. -/
def Sparse (table : α → β) : Prop := (Function.support (amount ∘ table)).Finite

noncomputable def total (table : α → β) : ℕ := finsum (amount ∘ table)

variable {amount}

theorem sparse_of_zero {table : α → β} (nothing : ∀ key, amount (table key) = 0) : Sparse amount table := by
  have empty : Function.support (amount ∘ table) = ∅ := Function.support_eq_empty_iff.mpr (funext nothing)
  unfold Sparse
  rw [empty]
  exact Set.finite_empty

theorem total_of_zero {table : α → β} (nothing : ∀ key, amount (table key) = 0) : total amount table = 0 :=
  finsum_eq_zero_of_forall_eq_zero nothing

theorem Sparse.update [DecidableEq α] {table : α → β} (sparse : Sparse amount table) (key : α) (entry : β) :
    Sparse amount (Function.update table key entry) := by
  apply (sparse.insert key).subset
  intro other holds
  by_cases same : other = key
  · exact .inl same
  · exact .inr (by simpa [same] using holds)

/-- A new entry adds what it holds and takes away what the old one held. -/
theorem total_update [DecidableEq α] {table : α → β} (sparse : Sparse amount table) (key : α) (entry : β) :
    total amount (Function.update table key entry) + amount (table key) = total amount table + amount entry := by
  have before := add_finsum_cond_ne key sparse
  have after := add_finsum_cond_ne key (sparse.update key entry)
  have others : ∀ other, finsum (fun _ : other ≠ key => amount (Function.update table key entry other)) =
      finsum (fun _ : other ≠ key => amount (table other)) := by
    intro other
    apply finsum_congr
    intro different
    rw [Function.update_of_ne different]
  simp only [Function.comp_apply, Function.update_self, others] at before after
  show finsum (fun other => amount (Function.update table key entry other)) + amount (table key) =
    finsum (fun other => amount (table other)) + amount entry
  omega

end Holdings
