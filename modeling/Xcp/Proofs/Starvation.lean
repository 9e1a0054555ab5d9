import Xcp.Proofs.CacheTransparency

/-! When the rules of tier 0 answer the questions that they match. The budget of a call
is spent question by question, so that what one question takes can leave too little
for the rules at the next one. -/

namespace Xcp.Engine
open Checked Python Thrift

/-! ### What is answered by tier 0 -/

section Rules
variable [Host]

omit [Host] in
/-- The first tier that answers is tier 0, and what those before it leave is enough for it. -/
def Visit.Decided (visit : Visit) : Prop :=
  ∃ found, visit.decider? = some found ∧ found.value.tier = .deterministic ∧
    found.source.typicalMicros ≤ max 0 (visit.left - found.before)

end Rules

section First
variable [Host]

/-- Where tier 0 comes first, it answers what its rules match as long as anything is left that covers its cost. -/
theorem decided_iff_left {rules : List Rule} {visit : Visit} {rule : Rule} {others : List Backend}
    (first : visit.cascade.backends = Deterministic.backend rules :: others)
    (matched : Deterministic.rule? rules visit.features visit.question = some rule) (offered : rule.answer ∈ visit.question.answerSet) :
    visit.Decided ↔ 2 ≤ visit.left := by
  have certain := Deterministic.answered_certain offered .deterministic
  have there : rules.isEmpty = false := by
    cases rules with
    | nil => cases matched
    | cons => rfl
  have replies : Backend.reply visit.features visit.question (Deterministic.backend rules) =
      some (Verdict.answered visit.question (Deterministic.certain rule.answer) .deterministic) := by
    simp [Backend.reply, Deterministic.backend, there, Deterministic.answer, matched, offered, certain]
  have decides : ∃ took, visit.decider? = some {
      source := Deterministic.backend rules, value := .answered visit.question (Deterministic.certain rule.answer) .deterministic
      took, before := 0 } := by
    refine ⟨if (Deterministic.backend rules).available then visit.took 0 else 0, ?_⟩
    rw [Visit.decider?, first, timed, first?, replies]
  obtain ⟨took, decides⟩ := decides
  simp only [Visit.Decided, decides, Option.some.injEq, exists_eq_left', certain, true_and]
  have cost : (Deterministic.backend rules).typicalMicros = 2 := rfl
  rw [cost]
  omega

end First

/-! ### A cascade at hand -/

section Sample
local instance rulesHost : Host := decimalHost []

end Sample

end Xcp.Engine
