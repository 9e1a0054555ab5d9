import Xcp.Federation.Cluster
import Xcp.Federation.Node
import Xcp.Gateway.Session
import Xcp.Policy.Language
import Xcp.Protocol.Version
import Xcp.Security.ArgFirewall
import Xcp.Security.Egress

/-! The gates that a governed call passes beside its session and its mandate:
the wire version, the upstream credential, institutional policy, the argument
firewall, and the budget of federation traffic. -/

namespace Xcp.Gateway
open Checked Python Http

/-- The settings of a node beyond those of its sessions. -/
structure Node extends Config where
  gatewayId : String := "gw-local"
  /-- URLs of the tool servers by name. -/
  upstreams : List (String × Json) := []
  security : Bool := false
  policy : Option Language.Policy := none
  policyDigest : String := ""
  maxUpstreamCredential : Nat := 8192
  nodeKey : String := ""
  cluster : Cluster.Posture := {}
  insecurePeers : Bool := false
  privatePeerCidrs : List Ip.Network := []
  a2aAccept : Bool := false
  tierCeiling : String := "A2xH2"
  a2aMaxHops : Int := 3
  toolRelay : Bool := false
  toolFallback : Bool := false
  nodeSite : String := ""
  residencySites : Option (List String) := none
  relayCredential : String := ""

def Node.egress (node : Node) : Egress.Policy where
  allowHttp := node.insecurePeers
  allowPrivate := node.insecurePeers
  privateNetworks := node.privatePeerCidrs

def Node.enforces (node : Node) : Bool := node.posture = "enforce"

variable [Host]

/-! ### Version and credential -/

/-- Agree on a wire version before anything else. -/
def negotiate (request : HttpRequest) : Handler Unit :=
  match Version.negotiate ((Version.parseAccept (request.header "xcp-accept-versions")).map Json.str) with
  | .ok _ => .ok ()
  | .error exception =>
    if Version.isVersionError exception then
      .error { body := .dict [("error", .str s!"XCP version negotiation failed: {exception.text}"),
                 ("supported", .list (Version.supported.map Json.str))]
               status := 400 }
    else .error serverError

/-- A credential for another upstream is not carried, nor one out of bounds. -/
def checkUpstreamCredential (node : Node) (request : HttpRequest) (server : Json) : Handler Unit :=
  let raw := request.header "xcp-upstream-credential"
  let intended := request.header "xcp-upstream-audience"
  if raw = "" then .ok ()
  else do
    let _ ← require (raw.length ≤ node.maxUpstreamCredential)
      (errorResponse s!"XCP-Upstream-Credential exceeds {node.maxUpstreamCredential} bytes" 413)
    let _ ← require (intended = "" ∨ .str intended = server)
      (errorResponse "XCP-Upstream-Credential is bound to a different upstream than the one addressed" 403)
    require (node.production = true → intended ≠ "") (errorResponse ("XCP-Upstream-Audience is required in the " ++
      "production profile so a forwarded credential is bound to one destination") 400)

/-! ### Policy -/

def wholeAmount (amount : Json) : Raises (Option Int) := if amount = .null then .ok none else some <$> amount.toInt

def policyRequest (ctx : Ctx) (action : String) (args : Json) : Raises Language.Request := do
  let snake ← args.get "amount_minor"
  let camel ← args.get "amountMinor"
  let amountMinor ← wholeAmount (snake.orElse camel)
  let currency ← args.get "currency" (.str "")
  let domain ← args.get "domain" (.str "")
  return {
    subject := (ctx.agentId.orElse (.str "anonymous")).toStr, action, tier := ctx.tier, amountMinor
    currency := currency.toStr
    targetDomain := domain.toStr }

def policyRefusal (node : Node) (decision : Language.Decision) : Response where
  body := .dict [("error", .str "XCP policy denied this action"), ("reason", .str decision.reason),
    ("policyDigest", .str node.policyDigest)]
  status := 403

/-- Institutional policy. An evaluation that fails is no permit. -/
def policyCheck (node : Node) (ctx : Ctx) (action : String) (args : Json) : Handler Unit :=
  match node.policy with
  | none => .ok ()
  | some policy =>
    match policyRequest ctx action args with
    | .error exception => .error (errorResponse s!"XCP policy evaluation failed: {exception.text}" 403)
    | .ok request =>
      let decision := Language.evaluate policy request
      require (decision.allowed = true) (policyRefusal node decision)

/-- The loaded policy, if any, permits the action. -/
def PolicyAllows (node : Node) (ctx : Ctx) (action : String) (args : Json) : Prop :=
  ∀ policy, node.policy = some policy →
    ∃ request, policyRequest ctx action args = .ok request ∧ (Language.evaluate policy request).allowed = true

theorem policyCheck_ok {node : Node} {ctx : Ctx} {action : String} {args : Json} :
    policyCheck node ctx action args = .ok () ↔ PolicyAllows node ctx action args := by
  unfold policyCheck PolicyAllows
  cases node.policy with
  | none => simp
  | some policy =>
    cases policyRequest ctx action args with
    | error exception => simp
    | ok request => simp

/-! ### Argument firewall -/

def argFirewall (node : Node) (args : Json) : Handler Unit :=
  if node.security && args.truthy then
    match args with
    | .dict members =>
      let verdict := ArgFirewall.check (ArgFirewall.inferArgspec members) false members
      require (verdict.blocked = true → node.enforces = false)
        (errorResponse s!"XCP argument firewall: {verdict.reason}" 400)
    | other => attempt (other.noAttribute "items")
  else .ok ()

/-- The firewall, where it is on, has nothing against the arguments. -/
def FirewallAllows (node : Node) (args : Json) : Prop :=
  node.security = true → args.truthy = true → ∃ members, args = .dict members ∧
    (ArgFirewall.check (ArgFirewall.inferArgspec members) false members).allowed = true

theorem argFirewall_ok {node : Node} {args : Json} (enforced : node.enforces = true) :
    argFirewall node args = .ok () ↔ FirewallAllows node args := by
  unfold argFirewall FirewallAllows
  split
  next on =>
    rw [Bool.and_eq_true] at on
    cases args with
    | dict members => simp [enforced, on.1, on.2, ArgFirewall.Verdict.blocked]
    | _ => simp [on.1, on.2, Json.noAttribute, raise, attempt, Except.mapError]
  next off =>
    simp only [true_iff]
    intro on given
    exact absurd (Bool.and_eq_true_iff.mpr ⟨on, given⟩) off

/-! ### Federation traffic -/

/-- Federation traffic is metered by source on a budget of its own. -/
def fedLimit (node : Node) (world : World) (request : HttpRequest) (what : String) : Handler Unit :=
  let decision := world.limiter
    { agentKey := "fed:" ++ (if request.client = "" then "anon" else request.client), tier := "A1xH0",
      method := "federation", scope := what, bodyBytes := 0 }
  require (node.limits = true → decision.allowed = true) (tooMany decision)

end Xcp.Gateway
