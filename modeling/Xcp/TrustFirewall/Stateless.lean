import Xcp.Library.Base64
import Xcp.Library.Dict
import Xcp.Library.Loads

/-! Identity for a protocol without sessions. A credential is signed for one
call, and is all the state there is. -/

namespace Xcp.Stateless
open Checked Python Eth

def mcpSpecTarget : String := "2026-07-28"

def credentialVersion : Int := 1

def hMcpMethod : String := "mcp-method"

def hMcpName : String := "mcp-name"

def hXcpCredential : String := "xcp-request-credential"

/-- Clients that send these predate the specification. -/
def legacyHeaders : List String := ["mcp-session-id"]

def deprecatedMethods : List String :=
  ["roots/list", "sampling/createMessage", "logging/setLevel", "notifications/message"]

def credentialError {α : Type} (text : String) : Raises α := raise (.package "CredentialError") text

/-! ### The call -/

/-- The scope of a call, from its two headers. -/
def scopeFor (mcpMethod mcpName : String) : String :=
  let method := strip mcpMethod
  let name := strip mcpName
  if method = "" then "mcp:unknown/"
  else
    let (family, _, verb) := partition method '/'
    let verb := if verb = "" then "unknown" else verb
    if method = "tools/call" ∧ name ≠ "" then "mcp:tools/" ++ name
    else if method = "prompts/get" ∧ name ≠ "" then "mcp:prompts/" ++ name
    else if ["tools", "resources", "prompts", "completion", "tasks"].contains family then "mcp:" ++ family ++ "/" ++ verb
    else "mcp:" ++ (if family = "" then "unknown" else family) ++ "/" ++ verb

def nonCanonicalHeader {α : Type} (text : String) : Raises α := raise (.package "NonCanonicalHeader") text

def isControl (letter : Char) : Bool := letter.toNat < 0x20 || letter.toNat = 0x7f

/-- Headers are refused rather than normalised, so that every parser of the
chain reads the same value. -/
def canonicalField (value field : String) : Raises String :=
  if value ≠ strip value then
    nonCanonicalHeader (s!"{field} has leading or trailing whitespace; routing headers must " ++
      "be sent in canonical form so that every parser in the chain reads the same value")
  else if value.toList.any isControl then nonCanonicalHeader s!"{field} contains a control character"
  else .ok value

variable [Packages]

def callDocument (mcpMethod mcpName : String) (body : List Nat) : Json :=
  .dict [("m", .str mcpMethod), ("n", .str mcpName), ("b", .str (digest body))]

/-- What ties a credential to one call. -/
def bindDigest [Host] (mcpMethod mcpName : String) (body : List Nat) : Raises String := do
  let method ← canonicalField mcpMethod "Mcp-Method"
  let name ← canonicalField mcpName "Mcp-Name"
  return digestJson (callDocument method name body)

/-! ### The credential -/

/-- As it was decoded, no field of it has been looked at. -/
structure RequestCredential where
  agentId : Json
  chainId : Json
  footprint : Json
  tier : Json
  scope : Json
  bind : Json
  exp : Json
  nonce : Json
  flow : Json := .str ""
  mandateRoot : Json := .str ""
  spendCapMinor : Json := .int 0
  version : Json := .int credentialVersion
  mcpSpec : Json := .str mcpSpecTarget
  signer : Json := .str ""
  sig : Json := .str ""
deriving DecidableEq

namespace RequestCredential

/-- What the signature is of. -/
def payload (cred : RequestCredential) : List (String × Json) :=
  [("agent_id", cred.agentId), ("chain_id", cred.chainId), ("footprint", cred.footprint), ("tier", cred.tier),
    ("scope", cred.scope), ("bind", cred.bind), ("exp", cred.exp), ("nonce", cred.nonce), ("flow", cred.flow),
    ("mandate_root", cred.mandateRoot), ("spend_cap_minor", cred.spendCapMinor), ("version", cred.version),
    ("mcp_spec", cred.mcpSpec)]

def asDict (cred : RequestCredential) : List (String × Json) :=
  cred.payload ++ [("signer", cred.signer), ("sig", cred.sig)]

def fields : List String :=
  ["agent_id", "chain_id", "footprint", "tier", "scope", "bind", "exp", "nonce", "flow", "mandate_root",
    "spend_cap_minor", "version", "mcp_spec", "signer", "sig"]

def toHeader [Host] (cred : RequestCredential) : Raises String := do
  let raw ← (Json.dict cred.asDict).canonicalBytes
  return rstrip (Base64.encode raw) '='

/-- `RequestCredential(**members)`. Without a nonce it gets the one that is drawn. -/
def ofMembers (drawn : String) (members : List (String × Json)) : Raises RequestCredential := do
  let _ ← refuseUnknown "RequestCredential" fields members
  let _ ← requireFields "RequestCredential" ["agent_id", "chain_id", "footprint", "tier", "scope", "bind", "exp"] members
  return {
    agentId := field members "agent_id"
    chainId := field members "chain_id"
    footprint := field members "footprint"
    tier := field members "tier"
    scope := field members "scope"
    bind := field members "bind"
    exp := field members "exp"
    nonce := field members "nonce" (.str drawn)
    flow := field members "flow" (.str "")
    mandateRoot := field members "mandate_root" (.str "")
    spendCapMinor := field members "spend_cap_minor" (.int 0)
    version := field members "version" (.int credentialVersion)
    mcpSpec := field members "mcp_spec" (.str mcpSpecTarget)
    signer := field members "signer" (.str "")
    sig := field members "sig" (.str "") }

def readHeader [JsonDecoder] (drawn value : String) : Raises RequestCredential := do
  let pad := String.ofList (List.replicate ((4 - value.length % 4) % 4) '=')
  let raw ← Base64.decode (value ++ pad)
  let document ← JsonDecoder.loads raw
  let members ← keywords "trustfirewall.stateless.RequestCredential" document
  ofMembers drawn members

def fromHeader [JsonDecoder] (drawn value : String) : Raises RequestCredential :=
  match readHeader drawn value with
  | .ok cred => .ok cred
  | .error exception => credentialError s!"malformed credential: {exception.text}"

def expired (cred : RequestCredential) (now : Int) : Raises Bool := (Json.int now).gt cred.exp

/-- `self.exp - now`. -/
def remaining [Host] (cred : RequestCredential) (now : Int) : Raises Json :=
  match cred.exp with
  | .float value => do
    let clock ← Double.ofInt now
    return .float (value.sub clock)
  | other => other.sub (.int now)

/-- What the key of the credential signs. -/
def signable [Host] (cred : RequestCredential) : Raises (List Nat) := do
  let bytes ← (Json.dict cred.payload).canonicalBytes
  return encodeDefunct (digest bytes)

end RequestCredential

/-- What the caller of `mint` says of itself. -/
structure Assertion where
  agentId : Int
  chainId : Int
  footprint : String
  tier : String
  ttlSeconds : Int := 60
  flow : String := ""
  mandateRoot : String := ""
  spendCapMinor : Int := 0

/-- The credential before it is signed. -/
def Assertion.unsigned (asserted : Assertion) (scope bound : String) (exp : Int) (drawn : String) : RequestCredential where
  agentId := .int asserted.agentId
  chainId := .int asserted.chainId
  footprint := .str asserted.footprint
  tier := .str asserted.tier
  scope := .str scope
  bind := .str bound
  exp := .int exp
  nonce := .str drawn
  flow := .str asserted.flow
  mandateRoot := .str asserted.mandateRoot
  spendCapMinor := .int asserted.spendCapMinor

variable [Host]

/-- A credential for one call, with the nonce that is drawn for it. -/
def mint [Accounts] (privateKey : String) (asserted : Assertion) (mcpMethod mcpName : String) (body : List Nat) (now : Int)
    (drawn : String) : Raises RequestCredential := do
  let bound ← bindDigest mcpMethod mcpName body
  let cred := asserted.unsigned (scopeFor mcpMethod mcpName) bound (now + max 1 asserted.ttlSeconds) drawn
  let address ← Accounts.address privateKey
  let signable ← cred.signable
  let signature ← Packages.sign signable privateKey
  return { cred with signer := .str address, sig := .str ("0x" ++ toHex signature) }

/-! ### Verification -/

def RequestCredential.signerProblems (cred : RequestCredential) (expectedSigner : String) : Raises (List String) := do
  let signable ← cred.signable
  let recovered ← Packages.recover signable (.given cred.sig)
  let undeclared ← andThen cred.signer.truthy (do
    let signer ← cred.signer.lower
    return lower recovered ≠ signer)
  return problemIf undeclared "signature does not match the declared signer" ++
    problemIf (expectedSigner ≠ "" && lower recovered ≠ lower expectedSigner) "signer is not the expected agent key"

def RequestCredential.signatureProblems (cred : RequestCredential) (expectedSigner : String) : List String :=
  if cred.sig.truthy then
    match cred.signerProblems expectedSigner with
    | .ok problems => problems
    | .error exception => [s!"signature failed to recover: {exception.text}"]
  else ["credential is unsigned"]

/-- The problems of a credential for a call; none means it is valid for this call. -/
def verify (cred : RequestCredential) (mcpMethod mcpName : String) (body : List Nat) (now : Int)
    (expectedSigner : String := "") (maxTtl : Int := 300) : Raises (List String) := do
  let expired ← cred.expired now
  let remaining ← cred.remaining now
  let tooLong ← remaining.gt (.int maxTtl)
  let expectedScope := scopeFor mcpMethod mcpName
  let expectedBind ← bindDigest mcpMethod mcpName body
  let footprint ← cred.footprint.asStr "startswith"
  return problemIf (!cred.version.same (.int credentialVersion)) s!"unsupported credential version {cred.version.toStr}" ++
    problemIf expired "credential expired" ++
    problemIf tooLong s!"credential ttl exceeds the {maxTtl}s ceiling" ++
    problemIf (!cred.scope.same (.str expectedScope))
      s!"scope mismatch: credential is for {cred.scope.toStr}, request is {expectedScope}" ++
    problemIf (!cred.bind.same (.str expectedBind))
      "call binding mismatch — credential is not for this call (replay or altered arguments)" ++
    problemIf (!startsWith footprint "0x" || footprint.length < 34) "missing or malformed certificate footprint" ++
    cred.signatureProblems expectedSigner

/-! ### The request -/

/-- A request as it is seen before its body is opened. -/
structure McpRequest where
  method : String
  name : String := ""
  body : List Nat := []
  headers : Dict String String := {}

namespace McpRequest

/-- Of two headers that differ in case the later one counts. -/
def lowered (headers : Dict String String) : Dict String String :=
  headers.entries.foldl (fun known header => known.set (lower header.1) header.2) {}

def fromHeaders (headers : Dict String String) (body : List Nat) : McpRequest where
  method := ((lowered headers).get? hMcpMethod).getD ""
  name := ((lowered headers).get? hMcpName).getD ""
  body := body
  headers := lowered headers

def scope (request : McpRequest) : String := scopeFor request.method request.name

def credential [JsonDecoder] (request : McpRequest) (drawn : String) : Raises (Option RequestCredential) :=
  let raw := (request.headers.get? hXcpCredential).getD ""
  if raw = "" then .ok none else some <$> RequestCredential.fromHeader drawn raw

def legacySignals (request : McpRequest) : List String :=
  ((legacyHeaders.filter fun header => (request.headers.get? header).isSome).map fun header =>
    s!"{header} present — client predates MCP {mcpSpecTarget}") ++
  problemIf (deprecatedMethods.contains request.method)
    s!"{request.method} is deprecated in MCP {mcpSpecTarget} (12-month removal window)"

end McpRequest

end Xcp.Stateless
