import Mathlib.Data.Prod.Lex
import Xcp.Gateway.Gates
import Xcp.Library.FirstMax
import Xcp.Policy.Language

/-! What an allowed request has met. Every check of the rule that decides is made,
except that its effect is only ever compared with a prohibition. -/

namespace Xcp.Language
open Python

/-- The rules that the subject and the action of a request match. -/
def Policy.candidates [Host] (policy : Policy) (request : Request) : List Rule :=
  policy.rules.filter (·.matches_ request.subject request.action)

def Policy.deciding [Host] (policy : Policy) (request : Request) : Option Rule :=
  match policy.candidates request with
  | [] => none
  | first :: rest => some (mostSpecific first rest)

def Policy.Denies [Host] (policy : Policy) (request : Request) : Prop :=
  ∃ rule ∈ policy.candidates request, rule.effect = Effect.deny

/-- The tier, the amount, the domain and the confirmation that a rule asks for. -/
structure Rule.Passes (rule : Rule) (request : Request) : Prop where
  tier : tierMeets request.tier rule.effectiveMinTier = true
  amount : amountBreach rule request = none
  domain : rule.domains = [] ∨ request.targetDomain = "" ∨ request.targetDomain ∈ rule.domains
  human : rule.effectiveRequiresHuman = true → request.humanApproved = true

def Rule.rank (rule : Rule) : Nat ×ₗ Nat := toLex rule.specificity

theorem Rule.moreSpecific_iff {rule other : Rule} : rule.moreSpecific other = true ↔ other.rank < rule.rank := by
  simp [Rule.moreSpecific, Rule.rank, Prod.Lex.toLex_lt_toLex]

theorem judge_allowed {rule : Rule} {request : Request} :
    (judge rule request).allowed = true ↔ rule.Passes request := by
  constructor
  · intro allowed
    unfold judge at allowed
    split at allowed
    · cases allowed
    next meets =>
      split at allowed
      · cases allowed
      next sum =>
        split at allowed
        · cases allowed
        next inside =>
          split at allowed
          · cases allowed
          next confirmed =>
            refine ⟨by simpa using meets, sum, ?_, by simpa using confirmed⟩
            by_cases anywhere : rule.domains = []
            · exact .inl anywhere
            by_cases here : request.targetDomain = ""
            · exact .inr (.inl here)
            · have member : request.targetDomain ∈ rule.domains := by simpa [anywhere, here] using inside
              exact .inr (.inr member)
  · intro ⟨tier, amount, domain, human⟩
    have inside : (!rule.domains.isEmpty && decide (request.targetDomain ≠ "") &&
        !rule.domains.contains request.targetDomain) = false := by
      obtain none | here | member := domain
      · simp [none]
      · simp [here]
      · simp [member]
    have confirmed : (rule.effectiveRequiresHuman && !request.humanApproved) = false := by
      cases needed : rule.effectiveRequiresHuman with
      | false => rfl
      | true => simp [human needed]
    simp only [judge, tier, amount, inside, confirmed, Bool.not_true, Bool.false_eq_true, if_false]
    rfl

section Deciding
variable [Host] {policy : Policy} {request : Request}

theorem mem_candidates {rule : Rule} :
    rule ∈ policy.candidates request ↔ rule ∈ policy.rules ∧ rule.matches_ request.subject request.action = true :=
  List.mem_filter

/-- The rule that decides is the first of the most specific ones. -/
theorem deciding_eq_argmax : policy.deciding request = (policy.candidates request).argmax Rule.rank := by
  unfold Policy.deciding
  cases policy.candidates request with
  | nil => rfl
  | cons first rest =>
    have fold : ∀ (rules : List Rule) (best : Rule), some (mostSpecific best rules) =
        rules.foldl (List.argAux fun one other => other.rank < one.rank) (some best) := by
      intro rules
      induction rules with
      | nil => intro best; rfl
      | cons rule rules ih =>
        intro best
        have step : mostSpecific best (rule :: rules) =
            mostSpecific (if rule.moreSpecific best then rule else best) rules := rfl
        rw [step, ih]
        by_cases more : best.rank < rule.rank
        · simp [List.argAux, Rule.moreSpecific_iff.mpr more, more]
        · simp [List.argAux, Rule.moreSpecific_iff, more]
    exact fold rest first

theorem evaluate_allowed :
    (evaluate policy request).allowed = true ↔
      ¬ policy.Denies request ∧ ∃ rule, policy.deciding request = some rule ∧ rule.Passes request := by
  unfold evaluate Policy.Denies Policy.deciding Policy.candidates
  split
  next none => simp [none]
  next first rest found =>
    rw [found]
    cases denied : (first :: rest).find? (·.effect = Effect.deny) with
    | some rule =>
      have denies : rule.effect = Effect.deny := by simpa using List.find?_some denied
      constructor
      · intro allowed
        cases allowed
      · intro permitted
        obtain ⟨free, _⟩ := permitted
        exact absurd ⟨rule, List.mem_of_find?_eq_some denied, denies⟩ free
    | none =>
      have free : ¬ ∃ rule ∈ first :: rest, rule.effect = Effect.deny := by
        intro forbidden
        obtain ⟨rule, member, denies⟩ := forbidden
        exact List.find?_eq_none.mp denied rule member (decide_eq_true denies)
      simp only [judge_allowed, free, not_false_eq_true, true_and, Option.some.injEq, exists_eq_left']

variable (policy request) in
/-- The rule that decides applies to the request, permits it, and has every
approval that it asks for. -/
structure Grounds (rule : Rule) : Prop where
  decides : policy.deciding request = some rule
  applies : rule ∈ policy.rules ∧ rule.matches_ request.subject request.action = true
  permits : rule.effect = Effect.allow ∨ rule.effect = Effect.requireApproval ∧ request.humanApproved = true
  approved : rule.effect = Effect.requireApproval ∨ rule.requiresHuman = true ∨ (floor rule.reversibility).2 = true →
    request.humanApproved = true

variable (policy request) in
/-- A request is only allowed on grounds, and when nothing prohibits it. -/
def Sound : Prop :=
  (evaluate policy request).allowed = true →
    (∀ rule ∈ policy.rules, rule.matches_ request.subject request.action = true → rule.effect ≠ Effect.deny) ∧
      ∃ rule, Grounds policy request rule

theorem deciding_mem {rule : Rule} (decides : policy.deciding request = some rule) :
    rule ∈ policy.rules ∧ rule.matches_ request.subject request.action = true := by
  rw [deciding_eq_argmax] at decides
  exact mem_candidates.mp (FirstMax.top_argmax decides).1

theorem not_denies_iff : ¬ policy.Denies request ↔
    ∀ rule ∈ policy.rules, rule.matches_ request.subject request.action = true → rule.effect ≠ Effect.deny := by
  constructor
  · intro free rule member applies denies
    exact free ⟨rule, mem_candidates.mpr ⟨member, applies⟩, denies⟩
  · intro every ⟨rule, candidate, denies⟩
    obtain ⟨member, applies⟩ := mem_candidates.mp candidate
    exact every rule member applies denies

variable (policy request) in
/-- Decisions are sound exactly where the rule that decides says no more with its
effect than `evaluate` asks for anyway. -/
theorem evaluate_sound_iff :
    Sound policy request ↔
      ∀ rule, policy.deciding request = some rule → ¬ policy.Denies request → rule.Passes request →
        rule.effect = Effect.allow ∨ rule.effect = Effect.requireApproval ∧ request.humanApproved = true := by
  constructor
  · intro sound rule decides free passes
    obtain ⟨_, other, grounds⟩ := sound (evaluate_allowed.mpr ⟨free, rule, decides, passes⟩)
    have same : rule = other := Option.some.inj (decides.symm.trans grounds.decides)
    rw [same]
    exact grounds.permits
  · intro only allowed
    obtain ⟨free, rule, decides, passes⟩ := evaluate_allowed.mp allowed
    have permits := only rule decides free passes
    refine ⟨not_denies_iff.mp free, rule, decides, deciding_mem decides, permits, ?_⟩
    intro asks
    obtain effect | needed := asks
    · obtain allow | ⟨_, approved⟩ := permits
      · exact absurd (allow.symm.trans effect) (by decide)
      · exact approved
    · apply passes.human
      simpa [Rule.effectiveRequiresHuman] using needed

end Deciding

section Unapproved
local instance policyHost : Host := asciiHost []

/-- Every payment waits for an approval. -/
def approvedPayments : Policy where
  name := "policy"
  version := "1"
  rules := [{ id := "payments", subject := "*", action := "pay:*", effect := Effect.requireApproval }]

def payment : Request where
  subject := "agent"
  action := "pay:invoice"
  tier := "A0xH0"

theorem payment_unapproved : ¬ Sound approvedPayments payment := by
  intro sound
  obtain ⟨_, rule, grounds⟩ := sound (by decide +kernel)
  have decides : rule = { id := "payments", subject := "*", action := "pay:*", effect := Effect.requireApproval } :=
    Option.some.inj (grounds.decides.symm.trans (by decide +kernel))
  have asked := grounds.approved (.inl (by rw [decides]))
  exact absurd asked (by decide)

end Unapproved

end Xcp.Language

/-! Whether the limit of a rule binds. It is compared with an amount that is
given, in a currency that nobody says is another one. -/

namespace Xcp.Language
open Checked Python

/-- What is permitted up to a limit: an amount that is known, is no more, and is in the currency of the limit. -/
def Rule.Binds (rule : Rule) (request : Request) : Prop :=
  ∀ limit, rule.maxAmountMinor = some limit →
    ∃ amount, request.amountMinor = some amount ∧ amount ≤ limit ∧ request.currency = rule.currency

/-- An amount is given, in the currency of the rule. -/
def Request.Denominated (request : Request) (rule : Rule) : Prop :=
  request.amountMinor.isSome = true ∧ request.currency = rule.currency

theorem amountBreach_none {rule : Rule} {request : Request} {limit amount : Int} (limited : rule.maxAmountMinor = some limit)
    (given : request.amountMinor = some amount) : amountBreach rule request = none ↔
      ¬ (rule.currency ≠ "" ∧ request.currency ≠ "" ∧ rule.currency ≠ request.currency) ∧ amount ≤ limit := by
  simp only [amountBreach, limited, given]
  split
  next other => simp [other]
  next same =>
    split
    next more =>
      simp only [same, not_false_eq_true, true_and, reduceCtorEq, false_iff]
      omega
    next within =>
      simp only [same, not_false_eq_true, true_and, true_iff]
      omega

/-- A rule that lets a request pass binds it where its limit, if it has one, meets an amount in its currency. -/
theorem Rule.Passes.binds_iff {rule : Rule} {request : Request} (passes : rule.Passes request) :
    rule.Binds request ↔ (rule.maxAmountMinor.isSome = true → request.Denominated rule) := by
  constructor
  · intro binds limited
    obtain ⟨limit, held⟩ := Option.isSome_iff_exists.mp limited
    obtain ⟨amount, given, _, currency⟩ := binds limit held
    exact ⟨Option.isSome_iff_exists.mpr ⟨amount, given⟩, currency⟩
  · intro denominated limit held
    obtain ⟨known, currency⟩ := denominated (Option.isSome_iff_exists.mpr ⟨limit, held⟩)
    obtain ⟨amount, given⟩ := Option.isSome_iff_exists.mp known
    have within := (amountBreach_none held given).mp passes.amount
    exact ⟨amount, given, within.2, currency⟩

section Deciding
variable [Host] (policy : Policy) (request : Request)

/-- The limits of a policy bind a request exactly where the request, if it passes the other checks of a rule with a
limit, says an amount and the currency of that rule. -/
theorem limits_bind_iff :
    ((evaluate policy request).allowed = true → ∀ rule, policy.deciding request = some rule → rule.Binds request) ↔
      ∀ rule, policy.deciding request = some rule → ¬ policy.Denies request → rule.Passes request →
        rule.maxAmountMinor.isSome = true → request.Denominated rule := by
  constructor
  · intro binds rule decides free passes
    have allowed := evaluate_allowed.mpr ⟨free, rule, decides, passes⟩
    exact passes.binds_iff.mp (binds allowed rule decides)
  · intro denominated allowed rule decides
    obtain ⟨free, other, decides', passes⟩ := evaluate_allowed.mp allowed
    obtain rfl := Option.some.inj (decides.symm.trans decides')
    exact passes.binds_iff.mpr (denominated rule decides free passes)

end Deciding

/-! ### A limit that is not met -/

section Unlimited
local instance transferHost : Host := asciiHost []

/-- Finance may transfer up to 10000 USD. -/
def transferPolicy : Policy where
  name := "policy"
  version := "1"
  rules := [{ id := "r1", subject := "7", action := "transfer", maxAmountMinor := some 10000, currency := "USD" }]

def transfer : Request where
  subject := "7"
  action := "transfer"
  tier := "A0xH0"

def transferCtx : Gateway.Ctx where
  agentId := .int 7
  binding := some {
    agentId := 7, footprint := .str "0xab", mandateRoot := .str "", rails := 0, notAfter := 2000000000, tier := "A0xH0" }

/-- The request that the gateway makes of a transfer whose sum the caller calls by another name. -/
theorem transfer_policyRequest :
    Gateway.policyRequest transferCtx "transfer" (.dict [("amount", .int 99999999)]) = .ok transfer := by
  decide +kernel

/-- Neither a transfer without an amount nor one without a currency is bound by the limit that allows it. -/
theorem transfer_unlimited : ∃ rule, rule.maxAmountMinor = some 10000 ∧ rule.currency = "USD" ∧
    ∀ request ∈ [transfer, { transfer with amountMinor := some 10000 }],
      (evaluate transferPolicy request).allowed = true ∧ transferPolicy.deciding request = some rule ∧ ¬ rule.Binds request := by
  refine ⟨transferPolicy.rules.head (by decide), rfl, rfl, ?_⟩
  simp only [List.forall_mem_cons, List.not_mem_nil, false_implies, implies_true, and_true]
  constructor
  · refine ⟨by decide +kernel, by decide +kernel, ?_⟩
    intro binds
    obtain ⟨amount, given, _⟩ := binds 10000 rfl
    cases given
  · refine ⟨by decide +kernel, by decide +kernel, ?_⟩
    intro binds
    obtain ⟨_, _, _, currency⟩ := binds 10000 rfl
    exact absurd currency (by decide)

end Unlimited

end Xcp.Language

/-! Which verdicts depend on the order of the rules. Prohibitions count wherever
they stand, and of two equally specific permissions the first one decides. -/

namespace Xcp.Language
open Python

/-- The rules of the policy in another order. -/
def Policy.reorder (policy : Policy) (rules : List Rule) : Policy := { policy with rules := rules }

section Order
variable [Host] {policy : Policy} {request : Request}

theorem Policy.Denies.reorder {rules : List Rule} (same : rules.Perm policy.rules) :
    (policy.reorder rules).Denies request ↔ policy.Denies request := by
  have kept : ((policy.reorder rules).candidates request).Perm (policy.candidates request) := same.filter _
  constructor
  · intro ⟨rule, candidate, denies⟩
    exact ⟨rule, kept.mem_iff.mp candidate, denies⟩
  · intro ⟨rule, candidate, denies⟩
    exact ⟨rule, kept.mem_iff.mpr candidate, denies⟩

/-- The verdict of the rule that decides, where nothing prohibits the request. -/
theorem evaluate_verdict (free : ¬ policy.Denies request) :
    (evaluate policy request).allowed =
      ((policy.candidates request).argmax Rule.rank).elim false fun rule => (judge rule request).allowed := by
  rw [Bool.eq_iff_iff, evaluate_allowed, deciding_eq_argmax]
  cases (policy.candidates request).argmax Rule.rank with
  | none => simp
  | some rule => simp [free, judge_allowed]

theorem evaluate_denied (denies : policy.Denies request) : (evaluate policy request).allowed = false := by
  rw [Bool.eq_false_iff]
  intro allowed
  exact (evaluate_allowed.mp allowed).1 denies

variable (policy request) in
/-- A rule applies to the request and none that does is more specific. -/
def MostSpecific (rule : Rule) : Prop :=
  rule ∈ policy.candidates request ∧ ∀ other ∈ policy.candidates request, other.moreSpecific rule = false

theorem mostSpecific_iff_top {rule : Rule} :
    MostSpecific policy request rule ↔ FirstMax.Top Rule.rank (policy.candidates request) rule := by
  simp [MostSpecific, FirstMax.Top, Bool.eq_false_iff, Rule.moreSpecific_iff]

variable (policy request) in
/-- The verdict is the same in every order of the rules exactly when a rule
prohibits the request or the most specific rules agree on it. -/
theorem evaluate_reorder_iff :
    (∀ rules : List Rule, rules.Perm policy.rules →
        (evaluate (policy.reorder rules) request).allowed = (evaluate policy request).allowed) ↔
      policy.Denies request ∨
        ∀ first second, MostSpecific policy request first → MostSpecific policy request second →
          (judge first request).allowed = (judge second request).allowed := by
  by_cases denies : policy.Denies request
  · have refused : ∀ rules : List Rule, rules.Perm policy.rules →
        (evaluate (policy.reorder rules) request).allowed = (evaluate policy request).allowed := by
      intro rules same
      rw [evaluate_denied denies, evaluate_denied ((Policy.Denies.reorder same).mpr denies)]
    simp only [denies, true_or, iff_true]
    exact refused
  · simp only [denies, false_or, mostSpecific_iff_top]
    refine Iff.trans ?_ (FirstMax.outcome_perm_iff false)
    apply forall₂_congr
    intro rules same
    rw [evaluate_verdict denies, evaluate_verdict ((Policy.Denies.reorder same).not.mpr denies)]
    rfl

end Order

section Tie
local instance orderHost : Host := asciiHost []

def smallPayments : Rule where
  id := "small"
  subject := "*"
  action := "pay:*"
  maxAmountMinor := some 100
  currency := "USD"

def invoices : Rule where
  id := "invoices"
  subject := "*"
  action := "pay:invoice*"

def tied : Policy where
  name := "policy"
  version := "1"
  rules := [smallPayments, invoices]

def largeInvoice : Request where
  subject := "agent"
  action := "pay:invoice"
  tier := "A0xH0"
  amountMinor := some 500
  currency := "USD"

/-- Both prefixes are as specific as each other, however long they are. -/
theorem tied_order_matters :
    ¬ ∀ (policy : Policy) (rules : List Rule), rules.Perm policy.rules →
      ∀ request, (evaluate (policy.reorder rules) request).allowed = (evaluate policy request).allowed := by
  intro same
  have verdict := same tied [invoices, smallPayments] (List.Perm.swap ..) largeInvoice
  have allowed : (evaluate (tied.reorder [invoices, smallPayments]) largeInvoice).allowed = true := by decide +kernel
  have refused : (evaluate tied largeInvoice).allowed = false := by decide +kernel
  rw [allowed, refused] at verdict
  cases verdict

end Tie

end Xcp.Language
