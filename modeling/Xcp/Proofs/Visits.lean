import Xcp.Engine.Cascade
import Xcp.Library.Thrift

/-! What comes of a question that is put to a cascade: it depends on the first tier that
answers it, and on what is left for that. A run of calls is a sequence of visits. -/

namespace Xcp.Engine
open Checked Python Thrift

/-! ### Asking the tiers -/

/-- What a tier answers, if it does. -/
def Backend.reply (features : String) (question : Question) (backend : Backend) : Option Verdict :=
  if !backend.available then none
  else
    match backend.answer features question with
    | .error _ => none
    | .ok verdict => if verdict.abstained then none else some verdict

/-- The tiers, each with the time it takes. One that is not there takes none. -/
def timed : List Backend → (Nat → Nat) → List (Backend × Nat)
  | [], _ => []
  | backend :: rest, took => (backend, if backend.available then took 0 else 0) :: timed rest (fun place => took (place + 1))

theorem timed_backends (backends : List Backend) (took : Nat → Nat) : (timed backends took).map Prod.fst = backends := by
  induction backends generalizing took with
  | nil => rfl
  | cons backend rest ih => rw [timed, List.map_cons, ih]

/-- A tier that is asked abstains for nothing, abstains after its time, or answers. -/
theorem Backend.ask_eq (backend : Backend) (features : String) (question : Question) (remaining : Int) (took : Nat) :
    (backend.ask features question remaining took).abstained = true ∧
        (backend.ask features question remaining took).micros =
          (if backend.typicalMicros ≤ remaining then if backend.available then took else 0 else 0) ∧
        (backend.typicalMicros ≤ remaining → backend.reply features question = none) ∨
      backend.typicalMicros ≤ remaining ∧ backend.available = true ∧
        ∃ verdict, backend.reply features question = some verdict ∧ verdict.abstained = false ∧
          backend.ask features question remaining took = { verdict with micros := took } := by
  unfold Backend.ask Backend.reply
  by_cases there : backend.available = true
  · by_cases enough : backend.typicalMicros ≤ remaining
    · cases answer : backend.answer features question with
      | error error => simp [there, enough, not_lt.mpr enough, Verdict.abstain]
      | ok verdict =>
        cases settled : verdict.abstained
        · simp [there, enough, not_lt.mpr enough, settled]
        · simp [there, enough, not_lt.mpr enough, settled]
    · simp [there, enough, not_le.mp enough, Verdict.abstain]
  · simp [there, Verdict.abstain]

/-- A verdict is what was found, or says that nothing was. -/
def CameOf : Option (Found Backend Verdict) → Verdict → Prop
  | some found, verdict => verdict = { found.value with micros := found.took } ∧ found.value.abstained = false
  | none, verdict => verdict.abstained = true ∧ verdict.tier = .none

/-- What comes of asking the tiers is what the first affordable one answers. -/
theorem consult_serve (features : String) (question : Question) (budget : Int) (backends : List Backend) (took : Nat → Nat)
    (spent : Nat) (reasons : List String) :
    CameOf (serve Backend.typicalMicros (Backend.reply features question) budget spent (timed backends took))
      (Cascade.consult features question budget backends took spent reasons).1 := by
  induction backends generalizing took spent reasons with
  | nil => exact ⟨rfl, rfl⟩
  | cons backend rest ih =>
    rw [timed, serve, Cascade.consult]
    rcases backend.ask_eq features question (max 0 (budget - spent)) (took 0) with
      ⟨abstains, micros, silent⟩ | ⟨enough, there, verdict, replies, answers, asked⟩
    · simp only [abstains, Bool.not_true, Bool.false_eq_true, if_false, micros]
      by_cases enough : backend.typicalMicros ≤ max 0 (budget - spent)
      · rw [if_pos enough, if_pos enough, silent enough]
        exact ih ..
      · rw [if_neg enough, if_neg enough]
        exact ih ..
    · have settled : (!({ verdict with micros := took 0 } : Verdict).abstained) = true := by simp [answers]
      rw [if_pos enough, replies, if_pos there, asked, if_pos settled]
      exact ⟨rfl, answers⟩

/-! ### Visits -/

/-- A question's turn, in the state in which it comes. -/
structure Visit where
  cascade : Cascade
  features : String
  question : Question
  left : Int
  took : Nat → Nat

namespace Visit

def key (visit : Visit) : String := cacheKey visit.features [visit.question.id]

/-- What the cache holds. -/
def hit? (visit : Visit) : Option Verdict :=
  if visit.cascade.cacheSize = 0 then none else visit.cascade.cache.get? visit.key

/-- What comes of the visit is put into the cache. -/
def stores (visit : Visit) : Bool := visit.cascade.cacheSize ≠ 0 && visit.hit?.isNone

/-- What the tiers give at this visit. -/
def uncached (visit : Visit) : Verdict := (visit.cascade.uncached visit.features visit.question visit.left visit.took).1

def turn (visit : Visit) : Raises (Verdict × Int) × Cascade :=
  visit.cascade.turn visit.features visit.question visit.left visit.took

/-- What the question gets. -/
def given (visit : Visit) : Raises Verdict := Prod.fst <$> visit.turn.1

/-- The first tier that answers the question, if budgets are put aside. -/
def decider? (visit : Visit) : Option (Found Backend Verdict) :=
  first? (Backend.reply visit.features visit.question) 0 (timed visit.cascade.backends visit.took)

/-- The first tier that answers costs no more than what those before it leave. -/
def Affords (visit : Visit) : Prop :=
  ∃ found, visit.decider? = some found ∧ found.source.typicalMicros ≤ max 0 (visit.left - found.before)

theorem uncached_cameOf (visit : Visit) :
    CameOf (visit.decider?.filter (Found.affordable Backend.typicalMicros visit.left)) visit.uncached := by
  have ordered : (timed visit.cascade.backends visit.took).Pairwise (fun first second =>
      first.1.typicalMicros ≤ second.1.typicalMicros) := by
    have sorted := visit.cascade.ordered
    rw [StableSort.Ordered, ← timed_backends visit.cascade.backends visit.took, List.pairwise_map] at sorted
    exact sorted
  have came := consult_serve visit.features visit.question visit.left visit.cascade.backends visit.took 0 []
  rw [serve_eq ordered] at came
  exact came

end Visit

def visitsOf (features : String) : List Question → Int → (Nat → Nat → Nat) → Cascade → List Visit
  | [], _, _, _ => []
  | question :: rest, left, took, cascade =>
    let visit : Visit := { cascade, features, question, left, took := took 0 }
    visit :: match visit.turn with
      | (.error _, _) => []
      | (.ok (_, left), cascade) => visitsOf features rest left (fun round => took (round + 1)) cascade

/-- What a cascade is asked. -/
structure Call where
  features : String
  questions : List Question
  budget : Option Int
  took : Nat → Nat → Nat

def Call.visits (call : Call) (cascade : Cascade) : List Visit :=
  visitsOf call.features call.questions (call.budget.getD cascade.budgetMicros) call.took cascade

def Call.after (call : Call) (cascade : Cascade) : Cascade :=
  (cascade.ask call.features call.questions call.budget call.took).2

/-- The visits of a sequence of calls. -/
def history : List Call → Cascade → List Visit
  | [], _ => []
  | call :: rest, cascade => call.visits cascade ++ history rest (call.after cascade)

/-- A call gives what its visits give. -/
theorem askRounds_given (features : String) (questions : List Question) (left : Int) (took : Nat → Nat → Nat) (cascade : Cascade) :
    (Cascade.askRounds features questions left took cascade).1 = (visitsOf features questions left took cascade).mapM Visit.given := by
  induction questions generalizing left took cascade with
  | nil => rfl
  | cons question rest ih =>
    rw [Cascade.askRounds, visitsOf, List.mapM_cons, Visit.given]
    dsimp only [Visit.turn]
    split
    next stops => simp [stops]
    next verdict later after goes =>
      simp only [goes, ih]
      cases (visitsOf features rest later (fun round => took (round + 1)) after).mapM Visit.given <;> rfl

theorem Call.given (call : Call) (cascade : Cascade) :
    (cascade.ask call.features call.questions call.budget call.took).1 = (call.visits cascade).mapM Visit.given :=
  askRounds_given ..

end Xcp.Engine
