import Xcp.Library.PythonText

/-! The trust lattice: what backs the agent and what backs the human resolve to
one envelope of authority, which attributes from the employer then narrow. -/

namespace Xcp.Trust
open Python

/-- What stands behind the agent. -/
inductive AgentTier where
  | free | registry | company
deriving DecidableEq, Repr

/-- What stands behind the person the agent acts for. -/
inductive HumanTier where
  | publicTier | generalSso | enterprise
deriving DecidableEq, Repr

/-- Bits of `railsBitmap`. -/
def Rail.x402 : Nat := 1 <<< 0

def Rail.ap2 : Nat := 1 <<< 1

def Rail.mpp : Nat := 1 <<< 2

def Rail.acp : Nat := 1 <<< 3

def hour : Int := 3600

def day : Int := 24 * hour

/-- The longest that a session may be bound for. -/
def maxTtl : Int := 7 * day

structure MandateTemplate where
  cell : String
  name : String
  scopes : List String
  rails : Nat
  ttlSeconds : Int
  /-- The ceiling of a session. Zero stands for nothing in one cell and for no
  ceiling in another. -/
  spendCapMinor : Int
  settlement : String
  posture : String
  requiresReceipt : Bool
  notes : String := ""
deriving DecidableEq, Repr

def read : List String :=
  ["mcp:tools/list", "mcp:resources/list", "mcp:resources/read", "mcp:prompts/*", "mcp:completion/complete",
    "mcp:tasks/get", "mcp:tasks/list"]

def write : List String := read ++ ["mcp:tools/*", "a2a:delegate/*"]

def chain : List String := write ++ ["t2t:chain/*"]

def lattice : AgentTier → HumanTier → MandateTemplate
  | .free, .publicTier => {
      cell := "A0xH0", name := "Sandbox", scopes := read, rails := 0, ttlSeconds := 1 * hour, spendCapMinor := 0
      settlement := "none", posture := "enforce", requiresReceipt := false
      notes := "Read-only, rate-limited front door. No principal to bill or hold liable." }
  | .free, .generalSso => {
      cell := "A0xH1", name := "Metered", scopes := write, rails := Rail.x402, ttlSeconds := 4 * hour
      spendCapMinor := 500, settlement := "metered", posture := "enforce", requiresReceipt := true
      notes := "Cheap writes against a personal cap; the verified human bears liability." }
  | .free, .enterprise => {
      cell := "A0xH2", name := "Shadowed", scopes := read, rails := 0, ttlSeconds := 1 * hour, spendCapMinor := 0
      settlement := "none", posture := "observe", requiresReceipt := false
      notes := "Corporate human but unbacked agent: observe mode, audit-only, no settlement. " ++
        "Capped by the weaker leg — register the agent to unlock." }
  | .registry, .publicTier => {
      cell := "A1xH0", name := "Open marketplace", scopes := write, rails := Rail.x402, ttlSeconds := 8 * hour
      spendCapMinor := 2000, settlement := "escrow", posture := "enforce", requiresReceipt := true
      notes := "Reputation-bearing agent with no human principal — escrowed settlement only." }
  | .registry, .generalSso => {
      cell := "A1xH1", name := "Consumer commerce", scopes := chain, rails := Rail.x402 ||| Rail.ap2
      ttlSeconds := 1 * day, spendCapMinor := 25000, settlement := "metered", posture := "enforce"
      requiresReceipt := true
      notes := "Personal spend cap tied to a verified individual; marketplace counterparties." }
  | .registry, .enterprise => {
      cell := "A1xH2", name := "Delegated corporate", scopes := chain, rails := Rail.x402 ||| Rail.ap2 ||| Rail.mpp
      ttlSeconds := 1 * day, spendCapMinor := 250000, settlement := "metered", posture := "enforce"
      requiresReceipt := true
      notes := "Budget and counterparties narrowed by entitlement attributes from the IdP." }
  | .company, .publicTier => {
      cell := "A2xH0", name := "Service agent", scopes := chain, rails := Rail.x402 ||| Rail.ap2
      ttlSeconds := 1 * day, spendCapMinor := 100000, settlement := "metered", posture := "enforce"
      requiresReceipt := true
      notes := "Autonomous under the company's own liability — the company IS the principal. " ++
        "Deliberately NOT capped by the absent human." }
  | .company, .generalSso => {
      cell := "A2xH1", name := "Professional", scopes := chain, rails := Rail.x402 ||| Rail.ap2 ||| Rail.mpp
      ttlSeconds := 1 * day, spendCapMinor := 500000, settlement := "metered", posture := "enforce"
      requiresReceipt := true
      notes := "Company agent acting for one individual; contract-scoped." }
  | .company, .enterprise => {
      cell := "A2xH2", name := "Full settlement", scopes := chain ++ ["pay:*"]
      rails := Rail.x402 ||| Rail.ap2 ||| Rail.mpp ||| Rail.acp, ttlSeconds := maxTtl, spendCapMinor := 0
      settlement := "full", posture := "enforce", requiresReceipt := true
      notes := "Enterprise ↔ enterprise. Entitlement-bound budget, all rails, complete audit. " ++
        "spend_cap 0 = no protocol cap; the entitlement supplies the real limit." }

/-- Every cell, in the order of its tiers. -/
def latticeTable : List MandateTemplate :=
  [AgentTier.free, .registry, .company].flatMap fun agent =>
    [HumanTier.publicTier, .generalSso, .enterprise].map (lattice agent)

/-- What an identity provider of an enterprise says about a person. -/
structure Entitlements where
  groups : List String := []
  costCenter : String := ""
  approvalLimitMinor : Option Int := none
  allowedScopes : Option (List String) := none
  deniedScopes : List String := []
deriving DecidableEq, Repr

/-- A star at the end covers whatever starts alike. -/
def covers (granted requested : String) : Bool :=
  if endsWith granted "*" then startsWith requested (dropEnd granted 1) else granted = requested

namespace MandateTemplate

def allowScopes (tpl : MandateTemplate) (allowed : Option (List String)) : MandateTemplate :=
  match allowed with
  | some allowed =>
    { tpl with scopes := tpl.scopes.filter fun scope => allowed.any fun a => covers a scope || covers scope a }
  | none => tpl

def denyScopes (tpl : MandateTemplate) (denied : List String) : MandateTemplate :=
  if denied = [] then tpl
  else { tpl with scopes := tpl.scopes.filter fun scope => !denied.any fun d => covers d scope }

/-- The limit takes the place of a ceiling of zero, whatever zero means there. -/
def limitSpending (tpl : MandateTemplate) (limit : Option Int) : MandateTemplate :=
  match limit with
  | some limit =>
    let cap := if tpl.spendCapMinor = 0 then limit else min tpl.spendCapMinor limit
    if cap = 0 then { tpl with spendCapMinor := cap, settlement := "none", rails := 0 }
    else { tpl with spendCapMinor := cap }
  | none => tpl

def noteCostCenter (tpl : MandateTemplate) (center : String) : MandateTemplate :=
  if center = "" then tpl else { tpl with notes := strip (tpl.notes ++ s!" Cost centre: {center}.") }

end MandateTemplate

def applyEntitlements (tpl : MandateTemplate) (ent : Entitlements) : MandateTemplate :=
  let tpl := tpl.allowScopes ent.allowedScopes
  let tpl := tpl.denyScopes ent.deniedScopes
  let tpl := tpl.limitSpending ent.approvalLimitMinor
  tpl.noteCostCenter ent.costCenter

def resolve (agent : AgentTier) (human : HumanTier) (entitlements : Option Entitlements) : MandateTemplate :=
  let tpl := lattice agent human
  let tpl := match entitlements with
    | some ent => applyEntitlements tpl ent
    | none => tpl
  if maxTtl < tpl.ttlSeconds then { tpl with ttlSeconds := maxTtl } else tpl

end Xcp.Trust
