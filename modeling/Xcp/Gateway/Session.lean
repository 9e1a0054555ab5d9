import Mathlib.Logic.Function.Basic
import Xcp.Library.Url
import Xcp.Library.PythonText
import Xcp.Federation.Tier
import Xcp.Protocol.Identity

/-! Sessions of the gateway: who a request comes from, how it is metered, what
its mandate allows, and the local registry that stands in for a verifier. -/

namespace Xcp.Gateway
open Checked Python Http

inductive Registrar where
  | none | mtls | oidc | chain
deriving DecidableEq, Repr

structure Config where
  posture : String := "enforce"
  production : Bool := false
  /-- Empty when the local registry is used. -/
  verifyUrl : String := ""
  registrar : Registrar := .none
  ceiling : Nat := 0
  adminToken : String := ""
  limits : Bool := true

structure Binding where
  agentId : Int
  footprint : Json
  mandateRoot : Json
  rails : Int
  notAfter : Int
  revoked : Bool := false
  tier : String := ""
deriving DecidableEq

structure LimitQuery where
  agentKey : String
  tier : String
  method : String
  scope : String
  bodyBytes : Nat
deriving DecidableEq, Repr

structure LimitDecision where
  allowed : Bool
  limit : String := ""
  reason : String := ""
  retryAfter : Int := 0

/-- What the gateway consults while it handles one request: the clock, the rate
limiter, and the verifier service by path and posted document. -/
structure World where
  now : Rat
  limiter : LimitQuery → LimitDecision
  verifier : String → Json → Raises Json

structure HttpRequest where
  /-- By lower-case name. -/
  headers : List (String × String) := []
  client : String := ""
  /-- Length of the raw body, and what it decodes to. -/
  bodyBytes : Nat := 0
  body : Raises Json := raise .valueError "Expecting value: line 1 column 1 (char 0)"

def HttpRequest.header (request : HttpRequest) (name : String) : String :=
  (request.headers.lookup name).getD ""

/-- `json.loads(raw or b"{}")`. -/
def HttpRequest.bodyOrEmpty (request : HttpRequest) : Raises Json :=
  if request.bodyBytes = 0 then .ok (.dict []) else request.body

/-! ### Local registry -/

abbrev Registry := Json → Option Binding

def sevenDays : Int := 7 * 86400

def Binding.valid (binding : Binding) (now : Rat) : Bool := !binding.revoked && truncate now < binding.notAfter

def zeroRoot : Json := .str ("0x" ++ toHex (List.replicate 32 0))

namespace Registry

def bind (registry : Registry) (now : Rat) (agentId : Int) (footprint mandateRoot : Json) (rails : Int)
    (tier : String) : Raises (Registry × Binding) := do
  let key ← footprint.key
  let binding : Binding :=
    { agentId, footprint, mandateRoot := mandateRoot.orElse zeroRoot, rails,
      notAfter := truncate now + min sevenDays sevenDays, tier }
  return (Function.update registry key (some binding), binding)

def revoke (registry : Registry) (footprint : Json) : Raises (Registry × Bool) := do
  let key ← footprint.key
  match registry key with
  | some binding => return (Function.update registry key (some { binding with revoked := true }), true)
  | none => return (registry, false)

end Registry

/-! ### Verification -/

structure Verdict where
  ok : Bool
  reason : Json
  binding : Option Binding
deriving DecidableEq

variable [Host]

def verifierError (config : Config) (exception : Exception) : Bool × Json :=
  (config.posture = "observe", .str ("verifier error: " ++ exception.text))

def readVerifier (world : World) (footprint : Json) : Raises (Except Json Binding) := do
  let answer ← world.verifier "/verify" (.dict [("footprint", footprint)])
  let valid ← answer.get "valid"
  if !valid.truthy then (do
    let reason ← answer.get "reason" (.str "invalid session")
    return .error reason : Raises (Except Json Binding))
  else do
    let agentId ← answer.getInt "agentId" 0
    let mandateRoot ← answer.get "mandateRoot" (.str "")
    let rails ← answer.getInt "railsBitmap" 0
    let tier ← answer.get "tier" (.str "")
    return .ok { agentId, footprint, mandateRoot, rails, notAfter := truncate world.now + 30, tier := tier.toStr }

def verifySession (config : Config) (world : World) (registry : Registry) (footprint : Json) (agentId : Int) :
    Raises Verdict :=
  if config.verifyUrl ≠ "" then
    match readVerifier world footprint with
    | .error exception =>
      .ok { ok := (verifierError config exception).1, reason := (verifierError config exception).2, binding := none }
    | .ok (.error reason) => .ok { ok := false, reason, binding := none }
    | .ok (.ok binding) =>
      if binding.agentId ≠ 0 ∧ agentId ≠ 0 ∧ binding.agentId ≠ agentId then
        .ok { ok := false, reason := .str "agentId mismatch", binding := none }
      else .ok { ok := true, reason := .str "", binding := some binding }
  else do
    let key ← footprint.key
    match registry key with
    | none => return { ok := false, reason := .str "no session binding", binding := none }
    | some binding =>
      if !binding.valid world.now then
        return { ok := false, reason := .str "session expired or revoked", binding := none }
      else if agentId ≠ 0 ∧ binding.agentId ≠ agentId then
        return { ok := false, reason := .str "agentId mismatch", binding := none }
      else return { ok := true, reason := .str "", binding := some binding }

/-! ### Mandates -/

def scopeCovers (granted : Json) (requested : String) : Raises Bool := do
  let text ← granted.asStr "endswith"
  return if endsWith text "*" then startsWith requested (dropEnd text 1) else text = requested

/-- The scopes are tried in order, and a malformed one raises when it is reached. -/
def anyCovers (requested : String) : List Json → Raises Bool
  | [] => .ok false
  | granted :: rest => do
    let covers ← scopeCovers granted requested
    if covers then return true else anyCovers requested rest

def proofNotAfter (proof : Json) : Raises (Option Int) := do
  let value ← proof.get "notAfter"
  match (value.orElse (.int 0)).toInt with
  | .ok notAfter => return some notAfter
  | .error exception =>
    if exception.kind = .typeError ∨ exception.kind = .valueError then return none else .error exception

def askMandate (world : World) (mandateHdr : String) (binding : Option Binding) (scope : String) :
    Raises (Bool × Json) := do
  let proof ← Host.loads mandateHdr
  let root := (binding.map Binding.mandateRoot).getD (.str "")
  let answer ← world.verifier "/mandate" (.dict [("mandateRoot", root), ("scope", .str scope), ("proof", proof)])
  let ok ← answer.get "ok"
  let reason ← answer.get "reason" (.str "")
  return (ok.truthy, reason)

/-- Scope coverage and expiry, read from the proof that the header carries. -/
def checkProof (now : Rat) (proof : Json) (scope : String) : Raises (Bool × Json) := do
  match ← proofNotAfter proof with
  | none => return (false, .str "mandate notAfter is not an integer")
  | some notAfter =>
    if notAfter ≤ 0 then
      return (false, .str "mandate has no expiry; an absent expiry is not an infinite one")
    else if notAfter < truncate now then return (false, .str "mandate expired")
    else
      match ← proof.get "mandateScope" with
      | .list [] => return (false, .str "mandateScope is empty; an empty mandate permits nothing")
      | .list granted => do
        let covered ← anyCovers scope granted
        if covered then return (true, .str "") else return (false, .str s!"scope {scope} not granted")
      | _ => return (false, .str "mandateScope must be a list of scopes")

def checkMandate (config : Config) (world : World) (mandateHdr : String) (binding : Option Binding)
    (scope : String) : Raises (Bool × Json) :=
  if mandateHdr = "" then .ok (config.posture = "observe", .str "no mandate proof")
  else if config.verifyUrl ≠ "" then
    match askMandate world mandateHdr binding scope with
    | .ok answer => .ok answer
    | .error exception => .ok (verifierError config exception)
  else
    match Host.loads mandateHdr with
    | .error _ => .ok (false, .str "malformed mandate proof")
    | .ok proof => checkProof world.now proof scope

/-! ### Request context -/

structure Ctx where
  agentId : Json := .int 0
  chainId : Json := .int 0
  footprint : Json := .str ""
  verified : Bool := false
  reason : Json := .str ""
  binding : Option Binding := none

def Ctx.tier (ctx : Ctx) : String := (ctx.binding.map Binding.tier).getD ""

def parseCtx (config : Config) (world : World) (registry : Registry) (request : HttpRequest) : Raises Ctx := do
  match ← Protocol.tryParse (request.header "xcp-agent-identity") with
  | .error reason => return { reason := .str reason }
  | .ok ident =>
    let verdict ← verifySession config world registry (.str ident.footprint) ident.agentId
    return { agentId := .int ident.agentId, chainId := .int ident.chainId, footprint := .str ident.footprint,
             verified := verdict.ok, reason := verdict.reason, binding := verdict.binding }

def reject (ctx : Ctx) : Response :=
  { body := .dict [("error", .str s!"XCP: {ctx.reason.toStr}. Present a valid session via session/open.")]
    status := 401 }

def deny (scope : String) (why : Json) : Response :=
  { body := .dict [("error", .str s!"XCP mandate gate: {why.toStr} for {scope}")], status := 403 }

/-! ### Metering -/

def meterKey (agentId : Json) : String := (agentId.orElse (.str "")).toStr

def tooMany (decision : LimitDecision) : Response :=
  { body := .dict [("error", .str s!"XCP rate limit: {decision.reason}"), ("limit", .str decision.limit),
      ("retryAfter", .int decision.retryAfter)]
    status := 429 }

/-- Whom a request is charged to: the verified agent, or its source address. -/
def limitQuery (ctx : Ctx) (method scope : String) (bodyBytes : Nat) (client : String) : LimitQuery :=
  if ctx.verified && ctx.binding.isSome then
    { agentKey := meterKey ctx.agentId, tier := ctx.tier, method, scope, bodyBytes }
  else
    { agentKey := if client = "" then s!"unverified:{(ctx.agentId.orElse (.int 0)).toStr}" else client, tier := "", method, scope, bodyBytes }

/-- A refusal if the caller is over budget. The first pass of a request is for
callers that are not verified. -/
def limit (config : Config) (world : World) (ctx : Ctx) (method scope : String) (bodyBytes : Nat) (client : String)
    (preauth : Bool) : Handler Unit :=
  let exempt := !config.limits || (preauth && ctx.verified && ctx.binding.isSome)
  let decision := world.limiter (limitQuery ctx method scope bodyBytes client)
  require (exempt = true ∨ decision.allowed = true) (tooMany decision)

/-! ### Endpoints -/

def adminOk (config : Config) (request : HttpRequest) : Raises Bool :=
  if config.adminToken = "" then .ok false
  else
    let hdr := request.header "authorization"
    let presented := if startsWith (lower hdr) "bearer " then dropStart hdr 7 else ""
    -- `hmac.compare_digest` refuses text that is not ASCII
    if isAscii presented && isAscii config.adminToken then
      .ok (presented = config.adminToken)
    else raise .typeError "comparing strings with non-ASCII characters is not supported"

def sessionId (footprint : Json) : Raises Json := do
  let start ← footprint.takeFirst 10
  return .str ("sess-" ++ start.toStr)

/-- The claimed tier, capped on the agent leg by what the registrar justifies. -/
def grantTier (config : Config) (claimed : String) : String :=
  match Delegation.narrowTier claimed s!"A{config.ceiling}xH2" with
  | .ok granted => granted
  | .error _ => "A0xH0"

/-- The answer is built after the binding is stored, so an exception in it does
not take the binding back. -/
def openLocal (config : Config) (world : World) (registry : Registry) (body footprint : Json) (agentId : Int) :
    Handler (Registry × Response) := do
  let claimed ← attempt (body.get "tier" (.str "A0xH0"))
  let mandateRoot ← attempt (body.get "mandateRoot" (.str ""))
  let rails ← attempt (body.getInt "rails" 3)
  let tier := grantTier config claimed.toStr
  let (registry, binding) ← attempt (registry.bind world.now agentId footprint mandateRoot rails tier)
  let answer := do
    let session ← attempt (sessionId footprint)
    return { body := .dict [("sessionId", session), ("mandateRoot", binding.mandateRoot),
      ("rails", .int binding.rails), ("tier", .str binding.tier), ("notAfter", .int binding.notAfter)] }
  return (registry, reply answer)

def openExternal (config : Config) (world : World) (registry : Registry) (footprint : Json) (agentId : Int) :
    Handler (Registry × Response) := do
  let verdict ← attempt (verifySession config world registry footprint agentId)
  require (verdict.ok = true) ({ body := .dict [("error", verdict.reason)], status := 401 } : Response)
  let session ← attempt (sessionId footprint)
  let mandateRoot := (verdict.binding.map Binding.mandateRoot).getD (.str "")
  let rails := (verdict.binding.map Binding.rails).getD 0
  return (registry, { body := .dict [("sessionId", session), ("mandateRoot", mandateRoot), ("rails", .int rails)] })

def openQuery (request : HttpRequest) : LimitQuery where
  agentKey := if request.client = "" then "anon" else request.client
  tier := ""
  method := "tools/list"
  scope := ""
  bodyBytes := 0

def sessionOpen (config : Config) (world : World) (registry : Registry) (request : HttpRequest) :
    Handler (Registry × Response) := do
  require (config.production = true → config.registrar ≠ .none) (errorResponse
    "self-registration is not available in the production profile; configure XCP_REGISTRAR" 403)
  let metered := world.limiter (openQuery request)
  require (config.limits = true → metered.allowed = true) (errorResponse s!"XCP rate limit: {metered.reason}" 429)
  let body ← attempt request.body
  let footprint ← attempt (body.get "footprint" (.str ""))
  let agentId ← attempt (body.getInt "agentId" 0)
  require (footprint.truthy = true) (errorResponse "footprint required" 400)
  require (config.registrar = .chain → agentId ≠ 0) (errorResponse ("agentId required: this node's registrar " ++
    "is an ERC-8004 registry, so a session must name the registry entry it is claiming") 400)
  if config.verifyUrl ≠ "" then openExternal config world registry footprint agentId
  else do
    require (config.production = false) (errorResponse ("self-registration is not available in the production " ++
      "profile; obtain a binding from the configured verifier") 403)
    openLocal config world registry body footprint agentId

def adminRevoke (config : Config) (world : World) (registry : Registry) (request : HttpRequest) :
    Handler (Registry × Response) := do
  let admitted ← attempt (adminOk config request)
  require (admitted = true) (errorResponse
    "administrative endpoints require a bearer token; set XCP_ADMIN_TOKEN on the gateway" 401)
  limit config world {} "tools/call" "" 0 request.client false
  let body ← attempt request.body
  let footprint ← attempt (body.get "footprint" (.str ""))
  let (registry, ok) ←
    (if config.verifyUrl = "" then attempt (registry.revoke footprint) else .ok (registry, false) :
      Handler (Registry × Bool))
  return (registry, { body := .dict [("revoked", .bool ok), ("footprint", footprint)] })

/-! ### Runs -/

/-- Any other request looks its session up and writes no binding. -/
inductive Request where
  | sessionOpen (request : HttpRequest)
  | adminRevoke (request : HttpRequest)
  | governed (request : HttpRequest)

def step (config : Config) (registry : Registry) : World × Request → Registry
  | (world, .sessionOpen request) => (serve registry (sessionOpen config world registry request)).1
  | (world, .adminRevoke request) => (serve registry (adminRevoke config world registry request)).1
  | (_, .governed _) => registry

end Xcp.Gateway
