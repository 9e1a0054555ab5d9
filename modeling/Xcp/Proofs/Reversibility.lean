import Mathlib.Data.Int.ConditionallyCompleteOrder
import Xcp.Library.Floor
import Xcp.Proofs.PolicySoundness

/-! The less an act can be taken back, the more it takes. An author's tier only
takes part in this where it lies above or below the floors: beside one of them
it is dropped, and with it what it asked for. -/

namespace Xcp.Language
open Python

/-- How classes are ordered: a higher value is less reversible. -/
def Reversibility.value : Reversibility → Nat
  | .reversible => 0
  | .recoverable => 1
  | .costly => 2
  | .irreversible => 3

def Rule.withClass (rule : Rule) (less : Reversibility) : Rule := { rule with reversibility := less }

/-- A rule that decides the same requests as another one and allows no more. -/
structure Rule.Stricter (rule other : Rule) : Prop where
  subject : rule.subject = other.subject
  action : rule.action = other.action
  effect : rule.effect = other.effect
  passes : other.effect = Effect.deny ∨ ∀ request, rule.Passes request → other.Passes request

theorem Rule.Stricter.refl (rule : Rule) : rule.Stricter rule := ⟨rfl, rfl, rfl, .inr fun _ passes => passes⟩

theorem Rule.Stricter.rank {rule other : Rule} (stricter : rule.Stricter other) : rule.rank = other.rank := by
  simp [Rule.rank, Rule.specificity, stricter.subject, stricter.action]

theorem Rule.Stricter.matches_ [Host] {rule other : Rule} (stricter : rule.Stricter other) (subject action : String) :
    rule.matches_ subject action = other.matches_ subject action := by
  simp [Rule.matches_, stricter.subject, stricter.action]

theorem Policy.Denies.stricter [Host] {strict policy : Policy} {request : Request}
    (stricter : List.Forall₂ Rule.Stricter (strict.candidates request) (policy.candidates request)) :
    strict.Denies request ↔ policy.Denies request := by
  have effects : (strict.candidates request).map Rule.effect = (policy.candidates request).map Rule.effect := by
    rw [← List.forall₂_eq_eq_eq, List.forall₂_map_left_iff, List.forall₂_map_right_iff]
    exact stricter.imp fun _ _ pair => pair.effect
  unfold Policy.Denies
  rw [← List.mem_map, ← List.mem_map, effects]

/-- A policy whose rules are stricter one by one allows no more. -/
theorem evaluate_stricter [Host] {strict policy : Policy} {request : Request}
    (stricter : List.Forall₂ Rule.Stricter strict.rules policy.rules)
    (allowed : (evaluate strict request).allowed = true) : (evaluate policy request).allowed = true := by
  obtain ⟨free, rule, decides, passes⟩ := evaluate_allowed.mp allowed
  have candidates : List.Forall₂ Rule.Stricter (strict.candidates request) (policy.candidates request) := by
    apply List.rel_filter _ stricter
    intro rule other pair
    simp [pair.matches_]
  rw [Policy.Denies.stricter candidates] at free
  have chosen := FirstMax.argmax_forall₂ (fun _ _ pair => Rule.Stricter.rank pair) candidates
  rw [← deciding_eq_argmax, ← deciding_eq_argmax, decides] at chosen
  generalize decided : policy.deciding request = choice at chosen
  cases chosen with
  | @some _ other pair =>
    refine evaluate_allowed.mpr ⟨free, other, decided, ?_⟩
    obtain denies | passed := pair.passes
    · have candidate := mem_candidates.mpr (deciding_mem decided)
      exact absurd ⟨other, candidate, denies⟩ free
    · exact passed request passes

theorem tierMeets_iff {actual least : String} : tierMeets actual least = true ↔ tierRank least ≤ tierRank actual := by
  simp [tierMeets, Prod.le_def]

theorem floor_rank (level : Reversibility) :
    tierRank (floor level).1 = (((min level.value 2 : Nat) : Int), (((level.value + 1) / 2 : Nat) : Int)) := by
  cases level <;> decide +kernel

theorem floor_rank_mono {one other : Reversibility} (less : one.value ≤ other.value) :
    tierRank (floor one).1 ≤ tierRank (floor other).1 := by
  rw [floor_rank, floor_rank, Prod.mk_le_mk]
  constructor
  · omega
  · omega

theorem floor_human_iff {level : Reversibility} : (floor level).2 = true ↔ 3 ≤ level.value := by
  cases level <;> decide

theorem floor_human_mono {one other : Reversibility} (less : one.value ≤ other.value) (needed : (floor one).2 = true) :
    (floor other).2 = true :=
  floor_human_iff.mpr ((floor_human_iff.mp needed).trans less)

theorem blank_below_floor (level : Reversibility) : ¬ tierRank (floor level).1 ≤ tierRank "" := by
  cases level <;> decide +kernel

theorem tierRank_effectiveMinTier (rule : Rule) :
    tierRank rule.effectiveMinTier = Floor.raise (tierRank (floor rule.reversibility).1) (tierRank rule.minTier) := by
  unfold Rule.effectiveMinTier Floor.raise
  by_cases blank : rule.minTier = ""
  · simp [blank, blank_below_floor]
  · by_cases above : tierRank (floor rule.reversibility).1 ≤ tierRank rule.minTier
    · simp [blank, above, tierMeets_iff.mpr above]
    · have below : tierMeets rule.minTier (floor rule.reversibility).1 = false := by
        simpa [Bool.eq_false_iff, tierMeets_iff] using above
      simp [blank, above, below]

/-- One of two tiers is at least the other on both legs. -/
def Comparable (one other : String) : Prop := tierMeets one other = true ∨ tierMeets other one = true

/-- A less reversible class in place of the one of a rule turns no refusal of a
policy that has the rule into a permit, and the tier of the rule is at least the
floor of its class and what its author wrote. -/
structure Monotone [Host] (rule : Rule) : Prop where
  harder : ∀ (policy : Policy) (before after : List Rule) (less : Reversibility) (request : Request),
    policy.rules = before ++ rule :: after → rule.reversibility.value < less.value →
    (evaluate policy request).allowed = false →
    (evaluate { policy with rules := before ++ rule.withClass less :: after } request).allowed = false
  floor : tierMeets rule.effectiveMinTier (floor rule.reversibility).1 = true
  author : tierMeets rule.effectiveMinTier rule.minTier = true

theorem effectiveMinTier_author {rule : Rule} :
    tierMeets rule.effectiveMinTier rule.minTier = true ↔ Comparable rule.minTier (floor rule.reversibility).1 := by
  rw [tierMeets_iff, tierRank_effectiveMinTier, Floor.author_le_raise, Comparable, tierMeets_iff, tierMeets_iff, or_comm]

theorem withClass_stricter {rule : Rule} {less : Reversibility} (above : rule.reversibility.value < less.value)
    (comparable : rule.effect = Effect.deny ∨ Comparable rule.minTier (floor less).1) :
    (rule.withClass less).Stricter rule := by
  refine ⟨rfl, rfl, rfl, ?_⟩
  obtain denies | comparable := comparable
  · exact .inl denies
  · refine .inr fun request passes => ⟨?_, passes.amount, passes.domain, ?_⟩
    · have meets := passes.tier
      rw [tierMeets_iff, tierRank_effectiveMinTier] at meets ⊢
      refine le_trans ((Floor.raise_le_raise (floor_rank_mono above.le)).mpr fun _ => ?_) meets
      simpa [Comparable, tierMeets_iff, or_comm] using comparable
    · intro needed
      apply passes.human
      simp only [Rule.effectiveRequiresHuman, Bool.or_eq_true] at needed ⊢
      obtain said | class_ := needed
      · exact .inl said
      · exact .inr (floor_human_mono above.le class_)

theorem glob_self [Host] (pattern : String) : glob pattern pattern = true := by
  unfold glob
  split
  · rfl
  · split
    · simpa [startsWith, dropEnd] using List.take_prefix _ pattern.toList
    · simp

/-- The one rule of its policy, and a request that asks for nothing but its tier. -/
def lone (rule : Rule) : Policy where
  name := "policy"
  version := "1"
  rules := [rule]

def bare (rule : Rule) (tier : String) : Request where
  subject := rule.subject
  action := rule.action
  tier := tier
  humanApproved := true

theorem bare_passes {rule other : Rule} {tier : String} :
    rule.Passes (bare other tier) ↔ tierRank rule.effectiveMinTier ≤ tierRank tier := by
  rw [← tierMeets_iff]
  constructor
  · intro passes
    exact passes.tier
  · intro meets
    have amount : amountBreach rule (bare other tier) = none := by
      unfold amountBreach
      cases rule.maxAmountMinor <;> rfl
    exact ⟨meets, amount, .inr (.inl rfl), fun _ => rfl⟩

theorem evaluate_lone [Host] (rule : Rule) {other : Rule} {tier : String} (permits : rule.effect ≠ Effect.deny)
    (applies : rule.matches_ other.subject other.action = true) :
    (evaluate (lone rule) (bare other tier)).allowed = true ↔ tierRank rule.effectiveMinTier ≤ tierRank tier := by
  have candidates : (lone rule).candidates (bare other tier) = [rule] := by
    simp [Policy.candidates, lone, bare, applies]
  rw [evaluate_allowed, deciding_eq_argmax, Policy.Denies, candidates]
  simp [permits, bare_passes]

/-- Less reversible classes ask for more exactly where no floor lies beside the
tier that the author wrote. -/
theorem monotone_iff [Host] (rule : Rule) :
    Monotone rule ↔ Comparable rule.minTier (floor rule.reversibility).1 ∧
      (rule.effect = Effect.deny ∨
        ∀ less : Reversibility, rule.reversibility.value < less.value → Comparable rule.minTier (floor less).1) := by
  constructor
  · intro monotone
    have own := effectiveMinTier_author.mp monotone.author
    refine ⟨own, or_iff_not_imp_left.mpr fun permits less above => ?_⟩
    by_contra beside
    have applies : rule.matches_ rule.subject rule.action = true := by simp [Rule.matches_, glob_self]
    have other : tierRank (rule.withClass less).effectiveMinTier =
        Floor.raise (tierRank (floor less).1) (tierRank rule.minTier) := tierRank_effectiveMinTier _
    -- the floor of the other class is enough there, and beside the author's tier that counts here
    have dropped : Floor.raise (tierRank (floor less).1) (tierRank rule.minTier) = tierRank (floor less).1 :=
      if_neg fun higher => beside (.inl (tierMeets_iff.mpr higher))
    have allowed : (evaluate (lone (rule.withClass less)) (bare rule (floor less).1)).allowed = true := by
      rw [evaluate_lone (rule.withClass less) permits applies, other, dropped]
    have refused : (evaluate (lone rule) (bare rule (floor less).1)).allowed = false := by
      rw [Bool.eq_false_iff, ne_eq, evaluate_lone rule permits applies, tierRank_effectiveMinTier, ← dropped,
        Floor.raise_le_raise (floor_rank_mono above.le)]
      intro rises
      apply beside
      obtain higher | below := own
      · exact (rises (tierMeets_iff.mp higher)).symm.imp tierMeets_iff.mpr tierMeets_iff.mpr
      · exact .inr (tierMeets_iff.mpr ((tierMeets_iff.mp below).trans (floor_rank_mono above.le)))
    have harder := monotone.harder (lone rule) [] [] less (bare rule (floor less).1) rfl above refused
    exact Bool.false_ne_true (harder.symm.trans allowed)
  · intro ⟨own, others⟩
    refine ⟨?_, ?_, effectiveMinTier_author.mpr own⟩
    · intro policy before after less request written above refused
      rw [Bool.eq_false_iff] at refused ⊢
      intro allowed
      apply refused
      apply evaluate_stricter _ allowed
      rw [written]
      have pair := withClass_stricter above (others.imp_right fun every => every less above)
      exact List.rel_append (List.forall₂_same.mpr fun rule _ => .refl rule)
        (.cons pair (List.forall₂_same.mpr fun rule _ => .refl rule))
    · rw [tierMeets_iff, tierRank_effectiveMinTier]
      exact Floor.le_raise

section Dropped
local instance classHost : Host := asciiHost []

/-- Payments for staff, by agents that nobody has to stand behind. -/
def staffOnly : Rule where
  id := "staff"
  subject := "*"
  action := "pay:*"
  reversibility := .recoverable
  minTier := "A1xH2"

theorem staffOnly_dropped : ¬ Monotone staffOnly := by
  intro monotone
  have refused := monotone.harder (lone staffOnly) [] [] .costly
    { subject := "agent", action := "pay:invoice", tier := "A2xH1" } rfl (by decide) (by decide +kernel)
  exact absurd refused (by decide +kernel)

end Dropped

end Xcp.Language
