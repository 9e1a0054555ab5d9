import Mathlib.Algebra.Order.Group.Int
import Mathlib.Data.Int.ConditionallyCompleteOrder
import Mathlib.Order.WithBot
import Xcp.Trust.Tiers

/-! What entitlements do to an envelope. Each step narrows it, but that a limit
takes the place of a ceiling of zero where zero means that nothing is spent. -/

namespace Xcp.Trust
open Python

namespace MandateTemplate

def Covered (tpl : MandateTemplate) (scope : String) : Prop := ∃ granted ∈ tpl.scopes, covers granted scope = true

/-- What a session may spend: a ceiling of zero is nothing without a settlement,
and no ceiling at all with a full one. -/
def spendable (tpl : MandateTemplate) : WithTop Int :=
  if tpl.spendCapMinor = 0 ∧ tpl.settlement = "full" then ⊤ else tpl.spendCapMinor

/-- One envelope grants no more than another. -/
structure Within (tpl other : MandateTemplate) : Prop where
  scopes : ∀ scope, tpl.Covered scope → other.Covered scope
  rails : ∀ bit, tpl.rails.testBit bit = true → other.rails.testBit bit = true
  lifetime : tpl.ttlSeconds ≤ other.ttlSeconds
  spending : tpl.spendable ≤ other.spendable

/-- Envelopes that differ in scopes and notes alone. -/
structure Alike (tpl other : MandateTemplate) : Prop where
  rails : tpl.rails = other.rails
  ttlSeconds : tpl.ttlSeconds = other.ttlSeconds
  spendCapMinor : tpl.spendCapMinor = other.spendCapMinor
  settlement : tpl.settlement = other.settlement
  scopes : ∀ scope ∈ tpl.scopes, scope ∈ other.scopes

theorem Alike.trans {first second third : MandateTemplate} (one : first.Alike second) (other : second.Alike third) :
    first.Alike third :=
  ⟨one.rails.trans other.rails, one.ttlSeconds.trans other.ttlSeconds, one.spendCapMinor.trans other.spendCapMinor,
    one.settlement.trans other.settlement, fun scope member => other.scopes scope (one.scopes scope member)⟩

theorem Alike.spendable {tpl other : MandateTemplate} (alike : tpl.Alike other) : tpl.spendable = other.spendable := by
  simp [MandateTemplate.spendable, alike.spendCapMinor, alike.settlement]

theorem allowScopes_alike (tpl : MandateTemplate) (allowed : Option (List String)) :
    (tpl.allowScopes allowed).Alike tpl := by
  cases allowed with
  | none => exact ⟨rfl, rfl, rfl, rfl, fun _ member => member⟩
  | some allowed => exact ⟨rfl, rfl, rfl, rfl, fun _ member => List.mem_of_mem_filter member⟩

theorem denyScopes_alike (tpl : MandateTemplate) (denied : List String) : (tpl.denyScopes denied).Alike tpl := by
  unfold denyScopes
  split
  · exact ⟨rfl, rfl, rfl, rfl, fun _ member => member⟩
  · exact ⟨rfl, rfl, rfl, rfl, fun _ member => List.mem_of_mem_filter member⟩

theorem noteCostCenter_alike (tpl : MandateTemplate) (center : String) : (tpl.noteCostCenter center).Alike tpl := by
  unfold noteCostCenter
  split <;> exact ⟨rfl, rfl, rfl, rfl, fun _ member => member⟩

/-- The limit itself, or the least of the two ceilings. -/
theorem limitSpending_spendable (tpl : MandateTemplate) (limit : Int) :
    (tpl.limitSpending (some limit)).spendable =
      ((if tpl.spendCapMinor = 0 then limit else min tpl.spendCapMinor limit : Int) : WithTop Int) := by
  simp only [limitSpending]
  generalize (if tpl.spendCapMinor = 0 then limit else min tpl.spendCapMinor limit) = cap
  by_cases nothing : cap = 0 <;> simp [spendable, nothing]

theorem limitSpending_rails (tpl : MandateTemplate) (limit : Option Int) :
    (tpl.limitSpending limit).rails = tpl.rails ∨ (tpl.limitSpending limit).rails = 0 := by
  cases limit with
  | none => exact .inl rfl
  | some limit =>
    simp only [limitSpending]
    generalize (if tpl.spendCapMinor = 0 then limit else min tpl.spendCapMinor limit) = cap
    split
    · exact .inr rfl
    · exact .inl rfl

theorem limitSpending_frame (tpl : MandateTemplate) (limit : Option Int) :
    (tpl.limitSpending limit).scopes = tpl.scopes ∧ (tpl.limitSpending limit).ttlSeconds = tpl.ttlSeconds := by
  cases limit with
  | none => exact ⟨rfl, rfl⟩
  | some limit =>
    simp only [limitSpending]
    generalize (if tpl.spendCapMinor = 0 then limit else min tpl.spendCapMinor limit) = cap
    split <;> exact ⟨rfl, rfl⟩

/-- A limit widens an envelope exactly where a positive one takes the place of a
ceiling of zero that is not full settlement. -/
theorem limitSpending_le_iff (tpl : MandateTemplate) (limit : Option Int) :
    (tpl.limitSpending limit).spendable ≤ tpl.spendable ↔
      (tpl.spendCapMinor = 0 → tpl.settlement ≠ "full" → ∀ amount, limit = some amount → amount ≤ 0) := by
  cases limit with
  | none => simp [limitSpending]
  | some limit =>
    rw [limitSpending_spendable]
    by_cases zero : tpl.spendCapMinor = 0
    · by_cases full : tpl.settlement = "full" <;> simp [spendable, zero, full]
    · simp [spendable, zero]

end MandateTemplate

open MandateTemplate

/-- Only the limit touches more than scopes and notes. -/
theorem applyEntitlements_alike (tpl : MandateTemplate) (ent : Entitlements) :
    ∃ narrow : MandateTemplate, narrow.Alike tpl ∧
      (applyEntitlements tpl ent).Alike (narrow.limitSpending ent.approvalLimitMinor) :=
  ⟨_, (denyScopes_alike _ ent.deniedScopes).trans (allowScopes_alike tpl ent.allowedScopes),
    noteCostCenter_alike _ ent.costCenter⟩

theorem applyEntitlements_lifetime (tpl : MandateTemplate) (ent : Entitlements) :
    (applyEntitlements tpl ent).ttlSeconds = tpl.ttlSeconds := by
  obtain ⟨narrow, narrowed, noted⟩ := applyEntitlements_alike tpl ent
  calc (applyEntitlements tpl ent).ttlSeconds
    _ = (narrow.limitSpending ent.approvalLimitMinor).ttlSeconds := noted.ttlSeconds
    _ = narrow.ttlSeconds := (limitSpending_frame narrow ent.approvalLimitMinor).2
    _ = tpl.ttlSeconds := narrowed.ttlSeconds

theorem applyEntitlements_within_iff (tpl : MandateTemplate) (ent : Entitlements) :
    (applyEntitlements tpl ent).Within tpl ↔
      (tpl.spendCapMinor = 0 → tpl.settlement ≠ "full" → ∀ limit, ent.approvalLimitMinor = some limit → limit ≤ 0) := by
  obtain ⟨narrow, narrowed, noted⟩ := applyEntitlements_alike tpl ent
  have limited := limitSpending_le_iff narrow ent.approvalLimitMinor
  rw [narrowed.spendCapMinor, narrowed.settlement, narrowed.spendable, ← noted.spendable] at limited
  constructor
  · intro within
    exact limited.mp within.spending
  · intro small
    refine ⟨?_, ?_, (applyEntitlements_lifetime tpl ent).le, limited.mpr small⟩
    · intro scope ⟨granted, member, covered⟩
      have kept := noted.scopes granted member
      rw [(limitSpending_frame narrow ent.approvalLimitMinor).1] at kept
      exact ⟨granted, narrowed.scopes granted kept, covered⟩
    · intro bit set
      rw [noted.rails] at set
      obtain same | none := limitSpending_rails narrow ent.approvalLimitMinor
      · rwa [same, narrowed.rails] at set
      · simp [none] at set

theorem lattice_lifetime (agent : AgentTier) (human : HumanTier) : (lattice agent human).ttlSeconds ≤ maxTtl := by
  cases agent <;> cases human <;> decide

/-- A ceiling of zero without full settlement is what an unbacked agent has,
unless a verified person pays. -/
theorem lattice_spends_nothing (agent : AgentTier) (human : HumanTier) :
    (lattice agent human).spendCapMinor = 0 ∧ (lattice agent human).settlement ≠ "full" ↔
      agent = .free ∧ human ≠ .generalSso := by
  cases agent <;> cases human <;> decide +kernel

theorem resolve_none (agent : AgentTier) (human : HumanTier) : resolve agent human none = lattice agent human := by
  simp [resolve, not_lt.mpr (lattice_lifetime agent human)]

theorem resolve_some (agent : AgentTier) (human : HumanTier) (ent : Entitlements) :
    resolve agent human (some ent) = applyEntitlements (lattice agent human) ent := by
  have lifetime := applyEntitlements_lifetime (lattice agent human) ent
  simp [resolve, lifetime, not_lt.mpr (lattice_lifetime agent human)]

/-- Entitlements grant no more than their absence exactly where no positive limit
meets a cell without any spending. -/
theorem resolve_within_iff (agent : AgentTier) (human : HumanTier) (entitlements : Entitlements) :
    (resolve agent human (some entitlements)).Within (resolve agent human none) ↔
      (agent = .free ∧ human ≠ .generalSso →
        ∀ limit, entitlements.approvalLimitMinor = some limit → limit ≤ 0) := by
  rw [resolve_none, resolve_some, applyEntitlements_within_iff, ← lattice_spends_nothing, and_imp]

/-- The approval limit becomes the ceiling of an agent that may spend nothing. -/
theorem shadowed_spends :
    ¬ (resolve .free .enterprise (some { approvalLimitMinor := some 50000 })).Within (resolve .free .enterprise none) := by
  intro within
  have spending := within.spending
  exact absurd spending (by decide +kernel)

end Xcp.Trust
