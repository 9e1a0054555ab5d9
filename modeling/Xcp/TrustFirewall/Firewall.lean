import Xcp.Trust.Tiers
import Xcp.TrustFirewall.Stateless

/-! The firewall decides on a call from its headers. What backs the caller and
what backs the server grade what may be reached, and on which terms. -/

namespace Xcp.Firewall
open Checked Python Eth Stateless

/-- What backs the server, in ascending trust. -/
inductive ServerClass where
  | unknown | probed | attested | contracted
deriving DecidableEq, Repr

namespace ServerClass

def rank : ServerClass → Nat
  | unknown => 0
  | probed => 1
  | attested => 2
  | contracted => 3

def label : ServerClass → String
  | unknown => "unknown"
  | probed => "probed"
  | attested => "attested"
  | contracted => "contracted"

end ServerClass

inductive Effect where
  | deny
  /-- Allowed and logged, without anything that binds. -/
  | observe
  | allow
deriving DecidableEq, Repr

/-- `effect.name.lower()`. -/
def Effect.name : Effect → String
  | deny => "deny"
  | observe => "observe"
  | allow => "allow"

def readMethods : List String :=
  ["tools/list", "resources/list", "resources/read", "prompts/list", "prompts/get", "completion/complete", "tasks/get",
    "tasks/list"]

def isReadOnly (mcpMethod : String) : Bool := readMethods.contains (strip mcpMethod)

/-- What the caller must do because of whom it is talking to. -/
structure Obligations where
  sandboxExecution : Bool := false
  quarantineOutput : Bool := false
  requireReceipt : Bool := false
  scanArguments : Bool := true
  maxScope : String := "full"
deriving DecidableEq, Repr

structure Decision where
  effect : Effect
  scope : String
  reason : String := ""
  serverClass : ServerClass := .unknown
  tier : Json := .str ""
  obligations : Obligations := {}
  settlement : String := "none"
  spendCapMinor : Json := .int 0
  warnings : List String := []
  /-- What ran, for an audit. -/
  checks : List String := []
deriving DecidableEq

namespace Decision

def allowed (decision : Decision) : Bool := decision.effect ≠ .deny

/-- The call may have an effect on the world. -/
def binding (decision : Decision) : Bool := decision.effect = .allow

end Decision

/-- The terms of a call: its effect, the settlement, the obligations and a note. -/
def reachability (agentTier : Int) (serverClass : ServerClass) (readOnly : Bool) : Effect × String × Obligations × String :=
  let ob : Obligations := {
    quarantineOutput := serverClass.rank < ServerClass.contracted.rank
    sandboxExecution := serverClass.rank ≤ ServerClass.probed.rank }
  match serverClass with
  | .unknown =>
    if !readOnly then (.deny, "none", ob, "unvetted server: mutating calls refused until it passes the safety gate")
    else (.observe, "none", { ob with maxScope := "read" }, "unvetted server: read-only, observed, output quarantined")
  | .probed =>
    if readOnly then (.allow, "none", ob, "probed server: reads permitted")
    else if agentTier < 1 then
      (.deny, "none", { ob with maxScope := "read" },
        "free-tier agent may not mutate state; register the agent to unlock writes")
    else (.allow, "escrow", { ob with requireReceipt := true }, "probed server: writes permitted, settlement escrowed")
  | .attested =>
    if readOnly then (.allow, "none", ob, "attested server: reads permitted")
    else if agentTier < 1 then (.deny, "none", { ob with maxScope := "read" }, "free-tier agent may not mutate state")
    else
      (.allow, if 1 ≤ agentTier then "metered" else "escrow", { ob with requireReceipt := true },
        "attested server: metered settlement against a pinned manifest")
  | .contracted =>
    if readOnly then (.allow, "none", ob, "contracted server: reads permitted")
    else if agentTier < 1 then (.deny, "none", { ob with maxScope := "read" }, "free-tier agent may not mutate state")
    else
      (.allow, if 2 ≤ agentTier then "full" else "metered", { ob with requireReceipt := true },
        "contracted server: full settlement available to company-backed callers")

/-! ### The firewall -/

structure TrustFirewall where
  posture : String := "enforce"
  maxCredentialTtl : Int := 300
  classes : Dict String ServerClass := {}
  /-- The scopes of a tier. -/
  mandates : Dict String (List String) := {}

def readTier (cell : Json) : Raises Int :=
  if cell.truthy then do
    let first ← cell.atIndex 0
    if first.same (.str "A") then do
      let second ← cell.atIndex 1
      second.toInt
    else return 0
  else return 0

/-- The agent leg of a lattice cell. -/
def agentTierOf (cell : Json) : Raises Int :=
  match readTier cell with
  | .ok tier => .ok tier
  | .error exception =>
    if [.valueError, .package "IndexError"].contains exception.kind then .ok 0 else .error exception

namespace TrustFirewall

def setTierScopes (firewall : TrustFirewall) (tier : String) (scopes : List String) : TrustFirewall :=
  { firewall with mandates := firewall.mandates.set tier scopes }

def loadLattice (firewall : TrustFirewall) : TrustFirewall :=
  { firewall with
    mandates := Trust.latticeTable.foldl (fun mandates row => mandates.set row.cell row.scopes) firewall.mandates }

def covers (granted requested : String) : Bool :=
  if endsWith granted "*" then startsWith requested (dropEnd granted 1) else granted = requested

/-- A tier without scopes of its own is left to its reachability. -/
def scopeGranted (firewall : TrustFirewall) (tier : Json) (scope : String) : Raises Bool := do
  match ← tier.key with
  | .str name =>
    match firewall.mandates.get? name with
    | some granted => return granted.any (covers · scope)
    | none => return true
  | _ => return true

section Classes
variable [Host]

def classify (firewall : TrustFirewall) (serverHost : String) (klass : ServerClass) : TrustFirewall :=
  { firewall with classes := firewall.classes.set (lower serverHost) klass }

/-- A server is unknown until it was probed. -/
def classOf (firewall : TrustFirewall) (serverHost : String) : ServerClass :=
  (firewall.classes.get? (lower serverHost)).getD .unknown

end Classes

/-- The decision on a request without a credential. -/
def decideAnonymous (firewall : TrustFirewall) (scope : String) (klass : ServerClass) (warnings checks : List String) :
    Decision :=
  if firewall.posture = "observe" then {
    effect := .observe, scope, reason := "no credential; gateway in observe posture", serverClass := klass
    obligations := { sandboxExecution := true, quarantineOutput := true, maxScope := "read" }
    warnings, checks }
  else {
    effect := .deny, scope, reason := "no XCP-Request-Credential — anonymous calls are refused", serverClass := klass
    warnings, checks }

/-- The decision on a credential that has problems, of which this is the first. -/
def decideInvalid (firewall : TrustFirewall) (tier : Json) (first : String) (others : List String) (scope : String)
    (klass : ServerClass) (warnings checks : List String) : Decision :=
  if firewall.posture = "observe" then {
    effect := .observe, scope, reason := s!"credential invalid ({first}); observed", serverClass := klass, tier
    obligations := { sandboxExecution := true, quarantineOutput := true, maxScope := "read" }
    warnings := warnings ++ first :: others
    checks }
  else { effect := .deny, scope, reason := first, serverClass := klass, tier, warnings, checks }

/-- The decision on a credential without problems, on the terms of its tier. -/
def decideGraded [Host] (firewall : TrustFirewall) (cred : RequestCredential) (terms : Effect × String × Obligations × String)
    (granted ro : Bool) (scope : String) (klass : ServerClass) (warnings checks : List String) : Decision :=
  let (effect, settlement, ob, note) := terms
  let checks := checks ++ [s!"reachability:{effect.name}"]
  if !granted then {
    effect := .deny, scope, reason := s!"scope {scope} is not granted at tier {cred.tier.toStr}", serverClass := klass
    tier := cred.tier, obligations := ob, warnings, checks }
  else
    let checks := checks ++ ["scope:granted"]
    if ob.maxScope = "read" ∧ !ro then {
      effect := .deny, scope, reason := "call would mutate state but only reads are permitted here", serverClass := klass
      tier := cred.tier, obligations := ob, warnings, checks }
    else
      -- the posture can downgrade, never upgrade
      let (effect, note, settlement) :=
        if firewall.posture = "observe" ∧ effect = .allow then
          (.observe, note ++ " (downgraded: gateway in observe posture)", "none")
        else (effect, note, settlement)
      { effect, scope, reason := note, serverClass := klass, tier := cred.tier, obligations := ob, settlement
        spendCapMinor := if settlement ≠ "none" then cred.spendCapMinor else .int 0
        warnings, checks }

def decideValid [Host] (firewall : TrustFirewall) (cred : RequestCredential) (method scope : String) (klass : ServerClass)
    (warnings checks : List String) : Raises Decision := do
  let agentTier ← agentTierOf cred.tier
  let ro := isReadOnly method
  let terms := reachability agentTier klass ro
  let granted ← (if terms.1 = .deny then .ok true else firewall.scopeGranted cred.tier scope : Raises Bool)
  return firewall.decideGraded cred terms granted ro scope klass warnings checks

/-- `text or "∅"`. -/
def shown (text : String) : String := if text = "" then "∅" else text

variable [Host] [Packages] [JsonDecoder]

/-- The decision on a call from its headers. The body is only hashed. -/
def decide (firewall : TrustFirewall) (headers : Dict String String) (body : List Nat) (serverHost : String) (now : Int)
    (drawn : String) : Raises Decision :=
  let req := McpRequest.fromHeaders headers body
  let scope := req.scope
  let warnings := req.legacySignals
  let klass := firewall.classOf serverHost
  let checks := [s!"headers:{shown req.method}/{shown req.name}", s!"server_class:{klass.label}"]
  if req.method = "" then
    .ok {
      effect := .deny, scope, reason := s!"missing Mcp-Method header (mandatory in MCP {mcpSpecTarget})"
      serverClass := klass, warnings, checks }
  else match req.credential drawn with
    | .error exception =>
      .ok { effect := .deny, scope, reason := s!"unreadable credential: {exception.text}", serverClass := klass, warnings, checks }
    | .ok none => .ok (firewall.decideAnonymous scope klass warnings (checks ++ ["credential:absent"]))
    | .ok (some cred) =>
      match verify cred req.method req.name body now "" firewall.maxCredentialTtl with
      | .error exception => .error exception
      | .ok (first :: others) =>
        .ok (firewall.decideInvalid cred.tier first others scope klass warnings (checks ++ ["credential:invalid"]))
      | .ok [] => firewall.decideValid cred req.method scope klass warnings (checks ++ ["credential:valid"])

end TrustFirewall

end Xcp.Firewall
