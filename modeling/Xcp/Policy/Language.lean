import Xcp.Library.PythonText

/-! Institutional policy: rules about who may do what, and the decision they lead
to for one request. The less an act can be taken back, the more it takes. -/

namespace Xcp.Language
open Python

/-- How much of an act can be taken back. -/
inductive Reversibility where
  | reversible | recoverable | costly | irreversible
deriving DecidableEq, Repr

def Reversibility.label : Reversibility → String
  | .reversible => "reversible"
  | .recoverable => "recoverable"
  | .costly => "costly"
  | .irreversible => "irreversible"

/-- The least tier for a class, and whether a human has to confirm. -/
def floor : Reversibility → String × Bool
  | .reversible => ("A0xH0", false)
  | .recoverable => ("A1xH1", false)
  | .costly => ("A2xH1", false)
  | .irreversible => ("A2xH2", true)

def tierLeg (letter : Char) : Option Int :=
  match letter with
  | '0' => some 0
  | '1' => some 1
  | '2' => some 2
  | _ => none

def tierRank (tier : String) : Int × Int :=
  match (strip tier).toList with
  | ['A', agent, 'x', 'H', human] =>
    match tierLeg agent, tierLeg human with
    | some agent, some human => (agent, human)
    | _, _ => (-1, -1)
  | _ => (-1, -1)

def tierMeets (actual least : String) : Bool :=
  (tierRank least).1 ≤ (tierRank actual).1 && (tierRank least).2 ≤ (tierRank actual).2

/-- What a rule asks for. A document may name any other text too. -/
def Effect.allow : String := "allow"

def Effect.deny : String := "deny"

def Effect.requireApproval : String := "require_approval"

structure Rule where
  id : String
  subject : String
  action : String
  effect : String := Effect.allow
  reversibility : Reversibility := .reversible
  maxAmountMinor : Option Int := none
  currency : String := ""
  /-- Empty to take the floor of the class. -/
  minTier : String := ""
  requiresHuman : Bool := false
  domains : List String := []
  note : String := ""
deriving DecidableEq, Repr

/-- Words an author reaches for who means everyone. -/
def anyone : List String :=
  ["*", "", "any", "anyone", "all", "anyagent", "any_agent", "everyone", "every", "agent"]

def glob [Host] (pattern value : String) : Bool :=
  if anyone.contains (lower (strip pattern)) then true
  else if endsWith pattern "*" then startsWith value (dropEnd pattern 1)
  else pattern = value

namespace Rule

def effectiveMinTier (rule : Rule) : String :=
  let least := (floor rule.reversibility).1
  if rule.minTier = "" then least else if tierMeets rule.minTier least then rule.minTier else least

def effectiveRequiresHuman (rule : Rule) : Bool := rule.requiresHuman || (floor rule.reversibility).2

def matches_ [Host] (rule : Rule) (subject action : String) : Bool := glob rule.subject subject && glob rule.action action

/-- How closely a rule names its action, and then its subject. -/
def specificity (rule : Rule) : Nat × Nat :=
  (if rule.action = "*" ∨ rule.action = "" then 0 else if endsWith rule.action "*" then 1 else 2,
   if rule.subject = "*" ∨ rule.subject = "" then 0 else 1)

def moreSpecific (rule other : Rule) : Bool :=
  other.specificity.1 < rule.specificity.1 ||
    (other.specificity.1 = rule.specificity.1 && other.specificity.2 < rule.specificity.2)

end Rule

/-- The rules of a document in their order. What they do not mention is denied. -/
structure Policy where
  name : String
  version : String
  rules : List Rule := []

/-- What `shadowed` takes for a pattern that another one is part of. -/
def covers [Host] (broad narrow : String) : Bool :=
  if broad = "*" then true
  else if endsWith broad "*" then startsWith narrow (dropEnd broad 1)
  else lower broad = lower narrow

namespace Policy

/-- The pair that `shadowed` adds for the rule at a place. -/
def shadowAt [Host] (policy : Policy) (place : Nat) (rule : Rule) : Option (String × String) :=
  if rule.effect ≠ Effect.allow then none
  else ((policy.rules.take place).find? fun other =>
      other.effect = Effect.deny && covers other.subject rule.subject && covers other.action rule.action).map
    fun other => (rule.id, other.id)

/-- The permits that a broader prohibition covers, each with the first that does. -/
def shadowed [Host] (policy : Policy) : List (String × String) :=
  policy.rules.zipIdx.filterMap fun entry => policy.shadowAt entry.2 entry.1

end Policy

structure Request where
  subject : String
  action : String
  tier : String := ""
  amountMinor : Option Int := none
  currency : String := ""
  targetDomain : String := ""
  humanApproved : Bool := false
deriving DecidableEq, Repr

structure Decision where
  allowed : Bool
  effect : String
  ruleId : String
  reason : String
  reversibility : Reversibility := .reversible
  requiresHuman : Bool := false
deriving DecidableEq, Repr

def orText (value other : String) : String := if value = "" then other else value

def Rule.decide (rule : Rule) (allowed : Bool) (effect : String) (reason : String) : Decision where
  allowed := allowed
  effect := effect
  ruleId := rule.id
  reason := reason
  reversibility := rule.reversibility
  requiresHuman := rule.effectiveRequiresHuman

def amountBreach (rule : Rule) (request : Request) : Option String :=
  match rule.maxAmountMinor, request.amountMinor with
  | some limit, some amount =>
    if rule.currency ≠ "" ∧ request.currency ≠ "" ∧ rule.currency ≠ request.currency then
      some s!"limit is denominated in {rule.currency}, request in {request.currency}"
    else if limit < amount then some s!"amount {amount} exceeds the limit {limit} set by {rule.id}"
    else none
  | _, _ => none

/-- What the rule that applies makes of a request. -/
def judge (rule : Rule) (request : Request) : Decision :=
  if !tierMeets request.tier rule.effectiveMinTier then
    rule.decide false Effect.deny (s!"{rule.reversibility.label} action requires tier {rule.effectiveMinTier}; " ++
      "caller presented " ++ orText request.tier "none")
  else match amountBreach rule request with
  | some reason => rule.decide false Effect.deny reason
  | none =>
    if !rule.domains.isEmpty && request.targetDomain ≠ "" && !rule.domains.contains request.targetDomain then
      rule.decide false Effect.deny s!"{rule.id} does not permit leaving to {request.targetDomain}"
    else if rule.effectiveRequiresHuman && !request.humanApproved then
      rule.decide false Effect.requireApproval
        s!"{rule.reversibility.label} action requires human approval before it proceeds"
    else rule.decide true Effect.allow (orText rule.note s!"permitted by {rule.id}")

/-- The first of the rules that no other one is more specific than. -/
def mostSpecific (first : Rule) (rest : List Rule) : Rule :=
  rest.foldl (fun best rule => if rule.moreSpecific best then rule else best) first

/-- A prohibition is never overridden, and of the permissions the most specific
one applies. -/
def evaluate [Host] (policy : Policy) (request : Request) : Decision :=
  match policy.rules.filter (·.matches_ request.subject request.action) with
  | [] => { allowed := false, effect := Effect.deny, ruleId := "", reason := "no rule permits this; policy denies by default" }
  | first :: rest =>
    match (first :: rest).find? (·.effect = Effect.deny) with
    | some rule => rule.decide false Effect.deny (orText rule.note s!"prohibited by {rule.id}")
    | none => judge (mostSpecific first rest) request

end Xcp.Language
