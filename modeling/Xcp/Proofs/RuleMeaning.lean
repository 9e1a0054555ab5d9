import Mathlib.Data.List.Forall2
import Xcp.Policy.Language

/-! Policies whose rules differ only in what no decision depends on decide every
request alike. -/

namespace Xcp.Language
open Python

/-- Two rules decide alike: they differ in their ids, their notes, and in whether
they ask for the human that their class asks for anyway. -/
structure Rule.SameMeaning (rule other : Rule) : Prop where
  subject : other.subject = rule.subject
  action : other.action = rule.action
  effect : other.effect = rule.effect
  reversibility : other.reversibility = rule.reversibility
  amount : other.maxAmountMinor = rule.maxAmountMinor
  currency : other.currency = rule.currency
  minTier : other.minTier = rule.minTier
  domains : other.domains = rule.domains
  human : other.effectiveRequiresHuman = rule.effectiveRequiresHuman

/-- What a decision says beyond its reason and the rule that it names. -/
structure Decision.SameOutcome (decision other : Decision) : Prop where
  allowed : other.allowed = decision.allowed
  effect : other.effect = decision.effect
  reversibility : other.reversibility = decision.reversibility
  human : other.requiresHuman = decision.requiresHuman

section Deciding
variable {rule other : Rule} (same : rule.SameMeaning other)
include same

theorem Rule.SameMeaning.matches_ [Host] (subject action : String) : other.matches_ subject action = rule.matches_ subject action := by
  rw [Rule.matches_, Rule.matches_, same.subject, same.action]

theorem Rule.SameMeaning.decide (allowed : Bool) (effect reason reason' : String) :
    (rule.decide allowed effect reason).SameOutcome (other.decide allowed effect reason') :=
  ⟨rfl, rfl, same.reversibility, same.human⟩

theorem Rule.SameMeaning.effectiveMinTier : other.effectiveMinTier = rule.effectiveMinTier := by
  simp only [Rule.effectiveMinTier, same.reversibility, same.minTier]

theorem Rule.SameMeaning.specificity : other.specificity = rule.specificity := by
  rw [Rule.specificity, Rule.specificity, same.action, same.subject]

theorem Rule.SameMeaning.amountBreach (request : Request) :
    (amountBreach other request).isSome = (amountBreach rule request).isSome := by
  unfold Language.amountBreach
  rw [same.amount, same.currency]
  cases rule.maxAmountMinor with
  | none => rfl
  | some limit =>
    cases request.amountMinor with
    | none => rfl
    | some amount =>
      simp only
      split
      · rfl
      · split <;> rfl

theorem Rule.SameMeaning.judge (request : Request) : (judge rule request).SameOutcome (judge other request) := by
  have breach := same.amountBreach request
  unfold Language.judge
  rw [same.effectiveMinTier, same.domains, same.human]
  by_cases low : (!tierMeets request.tier rule.effectiveMinTier) = true
  · rw [if_pos low, if_pos low]
    exact same.decide ..
  · rw [if_neg low, if_neg low]
    cases one : Language.amountBreach rule request with
    | some reason =>
      rw [one] at breach
      obtain ⟨reason', two⟩ := Option.isSome_iff_exists.mp breach
      rw [two]
      exact same.decide ..
    | none =>
      rw [one] at breach
      rw [Option.isSome_eq_false_iff.mp breach |> Option.isNone_iff_eq_none.mp]
      simp only
      split
      · exact same.decide ..
      · split
        · exact same.decide ..
        · exact same.decide ..

end Deciding

/-- The most specific rules of two lists that mean the same mean the same. -/
theorem mostSpecific_same {rules others : List Rule} (same : List.Forall₂ Rule.SameMeaning rules others) {first first' : Rule}
    (begins : first.SameMeaning first') : (mostSpecific first rules).SameMeaning (mostSpecific first' others) := by
  induction same generalizing first first' with
  | nil => exact begins
  | @cons rule other rules others one _ ih =>
    have more : other.moreSpecific first' = rule.moreSpecific first := by
      rw [Rule.moreSpecific, Rule.moreSpecific, one.specificity, begins.specificity]
    have step (first rule : Rule) (rules : List Rule) :
        mostSpecific first (rule :: rules) = mostSpecific (if rule.moreSpecific first then rule else first) rules := rfl
    rw [step, step, more]
    split
    · exact ih one
    · exact ih begins

theorem filter_same [Host] {rules others : List Rule} (same : List.Forall₂ Rule.SameMeaning rules others) (subject action : String) :
    List.Forall₂ Rule.SameMeaning (rules.filter (·.matches_ subject action)) (others.filter (·.matches_ subject action)) := by
  induction same with
  | nil => exact .nil
  | @cons rule other rules others one _ ih =>
    rw [List.filter_cons, List.filter_cons, one.matches_]
    split
    · exact .cons one ih
    · exact ih

theorem find_deny_same {rules others : List Rule} (same : List.Forall₂ Rule.SameMeaning rules others) :
    Option.Rel Rule.SameMeaning (rules.find? (·.effect = Effect.deny)) (others.find? (·.effect = Effect.deny)) := by
  induction same with
  | nil => exact .none
  | @cons rule other rules others one _ ih =>
    rw [List.find?_cons, List.find?_cons, one.effect]
    cases decide (rule.effect = Effect.deny) with
    | true => exact .some one
    | false => exact ih

/-- Policies of rules that mean the same decide alike. -/
theorem evaluate_same [Host] {policy other : Policy} (same : List.Forall₂ Rule.SameMeaning policy.rules other.rules) (request : Request) :
    (evaluate policy request).SameOutcome (evaluate other request) := by
  have candidates := filter_same same request.subject request.action
  unfold evaluate
  generalize policy.rules.filter (·.matches_ request.subject request.action) = ones at candidates
  generalize other.rules.filter (·.matches_ request.subject request.action) = others at candidates
  cases candidates with
  | nil => exact ⟨rfl, rfl, rfl, rfl⟩
  | @cons first first' rest rest' one later =>
    have denies := find_deny_same (.cons one later)
    simp only
    generalize (first :: rest).find? (·.effect = Effect.deny) = found at denies
    generalize (first' :: rest').find? (·.effect = Effect.deny) = found' at denies
    cases denies with
    | none => exact (mostSpecific_same later one).judge request
    | some deny => exact deny.decide ..

end Xcp.Language
