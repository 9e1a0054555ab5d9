import Xcp.Federation.Identity
import Xcp.Federation.Tier

/-! Delegation across a trust boundary: the ticket that the originating gateway
signs for one task and one destination, and what the destination makes of it.
The fields of a ticket are taken from a document as they came. -/

namespace Xcp.Delegation
open Checked Python Eth Identity

def defaultTicketTtl : Int := 120

def taskDigest [Host] [Packages] (task : Json) : String :=
  digestJson (if task = .null then .dict [] else task)

structure Hop where
  nodeId : String
  domain : String
  at_ : Int
deriving DecidableEq, Repr

def Hop.toDict (hop : Hop) : Json :=
  .dict [("nodeId", .str hop.nodeId), ("domain", .str hop.domain), ("at", .int hop.at_)]

structure Ticket where
  originNode : Json
  originDomain : Json
  clusterId : Json := .str ""
  agentId : Json := .int 0
  chainId : Json := .int 0
  footprint : Json := .str ""
  assertedTier : Json := .str "A0xH0"
  audience : Json := .str ""
  peer : Json := .str ""
  scope : Json := .str ""
  task : Json := .str ""
  hops : List Hop := []
  maxHops : Json := .int 3
  issuedAt : Json := .int 0
  expiresAt : Json := .int 0
  nonce : Json := .str ""
  specVersion : Json := .str "0.1-draft"
  signature : Json := .str ""
deriving DecidableEq

namespace Ticket

def depth (ticket : Ticket) : Nat := ticket.hops.length

def expired (ticket : Ticket) (now : Int) : Raises Bool := (Json.int now).gt ticket.expiresAt

def toDict (ticket : Ticket) : Json :=
  .dict [("origin_node", ticket.originNode), ("origin_domain", ticket.originDomain), ("cluster_id", ticket.clusterId),
    ("agent_id", ticket.agentId), ("chain_id", ticket.chainId), ("footprint", ticket.footprint),
    ("asserted_tier", ticket.assertedTier), ("audience", ticket.audience), ("peer", ticket.peer),
    ("scope", ticket.scope), ("task", ticket.task), ("hops", .list (ticket.hops.map Hop.toDict)),
    ("max_hops", ticket.maxHops), ("issued_at", ticket.issuedAt), ("expires_at", ticket.expiresAt),
    ("nonce", ticket.nonce), ("spec_version", ticket.specVersion), ("signature", ticket.signature)]

variable [Host]

/-- What is signed. The path is signed, not only its length. -/
def payload [Packages] (ticket : Ticket) : Raises Json := do
  let originDomain ← ticket.originDomain.lower
  let audience ← ticket.audience.lower
  return .dict [("originNode", ticket.originNode), ("originDomain", .str originDomain),
    ("clusterId", ticket.clusterId), ("agentId", ticket.agentId), ("chainId", ticket.chainId),
    ("footprint", ticket.footprint), ("assertedTier", ticket.assertedTier), ("audience", .str audience),
    ("peer", ticket.peer), ("scope", ticket.scope), ("task", ticket.task),
    ("path", .str (digestJson (.list (ticket.hops.map Hop.toDict)))), ("maxHops", ticket.maxHops),
    ("issuedAt", ticket.issuedAt), ("expiresAt", ticket.expiresAt), ("nonce", ticket.nonce)]

def readHop (document : Json) : Raises Hop := do
  let nodeId ← document.item "nodeId"
  let domain ← document.item "domain"
  let at_ ← document.get "at"
  let at_ ← (at_.orElse (.int 0)).toInt
  return { nodeId := nodeId.toStr, domain := domain.toStr, at_ }

def readFields (members : List (String × Json)) : Raises Ticket := do
  let hops ← ((field members "hops").orElse (.list [])).toList
  let hops ← hops.mapM readHop
  let _ ← requireFields "DelegationTicket" ["origin_node", "origin_domain"] members
  return {
    originNode := field members "origin_node"
    originDomain := field members "origin_domain"
    clusterId := field members "cluster_id" (.str "")
    agentId := field members "agent_id" (.int 0)
    chainId := field members "chain_id" (.int 0)
    footprint := field members "footprint" (.str "")
    assertedTier := field members "asserted_tier" (.str "A0xH0")
    audience := field members "audience" (.str "")
    peer := field members "peer" (.str "")
    scope := field members "scope" (.str "")
    task := field members "task" (.str "")
    hops := hops
    maxHops := field members "max_hops" (.int 3)
    issuedAt := field members "issued_at" (.int 0)
    expiresAt := field members "expires_at" (.int 0)
    nonce := field members "nonce" (.str "")
    specVersion := field members "spec_version" (.str "0.1-draft")
    signature := field members "signature" (.str "") }

def fromDict (document : Json) : Raises Ticket :=
  match document with
  | .dict members =>
    match readFields members with
    | .ok ticket => .ok ticket
    | .error exception =>
      if [.keyError, .typeError, .valueError].contains exception.kind then
        delegationError s!"malformed ticket: {exception.text}"
      else .error exception
  | _ => delegationError "ticket must be an object"

end Ticket

def typed (message : Json) (chainId : Int := 8453) : TypedData where
  domain := "XCPDelegation"
  primaryType := "DelegationTicket"
  fields := [("originNode", "string"), ("originDomain", "string"), ("clusterId", "string"), ("agentId", "uint256"),
    ("chainId", "uint256"), ("footprint", "string"), ("assertedTier", "string"), ("audience", "string"),
    ("peer", "string"), ("scope", "string"), ("task", "string"), ("path", "string"), ("maxHops", "uint64"),
    ("issuedAt", "uint64"), ("expiresAt", "uint64"), ("nonce", "string")]
  chainId := .int chainId
  message := message

/-! ### Minting -/

section Minting
variable [Host] [Packages]

/-- What the origin says of an agent that it verified, and asks for. -/
structure Errand where
  originNode : String
  originDomain : String
  audience : String
  agentId : Json
  chainId : Json
  footprint : Json
  assertedTier : String
  scope : String
  task : Json
  peer : Json := .str ""
  clusterId : String := ""
  hops : List Hop := []
  maxHops : Int := 3
  ttl : Int := defaultTicketTtl
  eip712ChainId : Int := 8453

def mint (nodeKey : String) (errand : Errand) (nonce : String) (now : Int) : Raises Ticket := do
  if strip errand.audience = "" then delegationError "a ticket must name its destination"
  else
    let tier ← canonicalTier errand.assertedTier
    if errand.maxHops < 1 then delegationError "max_hops starts at 1"
    else
      let agentId ← errand.agentId.toInt
      let chainId ← errand.chainId.toInt
      let ticket : Ticket :=
        { originNode := .str errand.originNode, originDomain := .str (lower (strip errand.originDomain)),
          clusterId := .str errand.clusterId, agentId := .int agentId, chainId := .int chainId,
          footprint := errand.footprint, assertedTier := .str tier,
          audience := .str (lower (strip errand.audience)), peer := errand.peer, scope := .str errand.scope,
          task := .str (taskDigest errand.task), hops := errand.hops, maxHops := .int errand.maxHops, issuedAt := .int now,
          expiresAt := .int (now + max 1 errand.ttl), nonce := .str nonce }
      let payload ← ticket.payload
      let signable ← Packages.encode (typed payload errand.eip712ChainId)
      let signature ← Packages.sign signable nodeKey
      return { ticket with signature := .str ("0x" ++ toHex signature) }

end Minting

/-- This node on the path of a ticket, which somebody has to sign again. -/
def extend [Host] (ticket : Ticket) (nodeId domain : String) (now : Int) : Raises Ticket := do
  let out ← Ticket.fromDict ticket.toDict
  return { out with hops := out.hops ++ [{ nodeId, domain, at_ := now }], signature := .str "" }

/-! ### Admission -/

/-- What the destination knows and asks for. -/
structure Destination where
  audience : String
  selfNodeId : String
  ceiling : String := "A2xH2"
  originIsPeer : Bool := false
  /-- Absent where membership is no condition. -/
  originInCluster : Option Bool := none
  expectedClusterId : String := ""
  maxTtl : Int := defaultTicketTtl
  now : Int
  eip712ChainId : Int := 8453

structure Admission where
  admitted : Bool
  effectiveTier : String := ""
  problems : List String := []
  narrowed : Bool := false
deriving DecidableEq, Repr

def Admission.toDict (admission : Admission) : Json :=
  .dict [("admitted", .bool admission.admitted), ("effectiveTier", .str admission.effectiveTier),
    ("narrowed", .bool admission.narrowed), ("problems", .list (admission.problems.map Json.str))]

section Admission
variable [Host]

def timeProblems (ticket : Ticket) (destination : Destination) : Raises (List String) := do
  let expired ← ticket.expired destination.now
  let future ← ticket.issuedAt.gt (.int (destination.now + 5))
  let life ← ticket.expiresAt.sub ticket.issuedAt
  let long ← life.gt (.int destination.maxTtl)
  return problemIf expired "ticket has expired" ++ problemIf future "ticket is issued in the future" ++
    problemIf long (s!"ticket lives longer than {destination.maxTtl}s; refusing a credential whose expiry does " ++
      "not bound replay")

def originProblems (ticket : Ticket) (destination : Destination) : Raises (List String) := do
  let other ← andThen (destination.expectedClusterId ≠ "" && ticket.clusterId.truthy)
    (differs ticket.clusterId (.str destination.expectedClusterId))
  return problemIf (!destination.originIsPeer) "the originating node is not a verified peer of this node" ++
    problemIf (destination.originInCluster = some false)
      "the originating node is not a member of this node's cluster" ++
    problemIf other "ticket names a different cluster"

def pathProblems (ticket : Ticket) (destination : Destination) : Raises (List String) := do
  let exhausted ← (Json.int ticket.depth).ge ticket.maxHops
  let origin ← ticket.originNode.lower
  let seen := origin :: ticket.hops.map (fun hop => lower hop.nodeId)
  return problemIf exhausted (s!"delegation budget exhausted: the originator permitted {ticket.maxHops.toStr} " ++
      s!"hop(s) and this is hop {ticket.depth + 1}") ++
    problemIf (seen.contains (lower destination.selfNodeId))
      "this node is already on the delegation path; refusing a loop"

def cellText (cell : Json) : Raises String :=
  match cell with
  | .str text => .ok text
  | other => if other.truthy then other.noAttribute "strip" else delegationError s!"not a lattice cell: {Host.repr other}"

/-- The asserted tier under the ceiling, and whether that is less than asserted. -/
def narrowed (ticket : Ticket) (ceiling : String) : Raises (String × Bool) := do
  let asserted ← cellText ticket.assertedTier
  let effective ← narrowTier asserted ceiling
  let canonical ← canonicalTier asserted
  return (effective, effective ≠ canonical)

/-- The tier is narrowed for a refused ticket too, and a tier that is none is a
problem. -/
def tierOrProblem (ticket : Ticket) (ceiling : String) : Raises (String × Bool × List String) :=
  match narrowed ticket ceiling with
  | .ok (effective, less) => .ok (effective, less, [])
  | .error exception =>
    if exception.kind = .package "DelegationError" then .ok ("", false, [exception.text]) else .error exception

/-- Nothing is wider than what was asserted. -/
def wideningProblems (ticket : Ticket) (effective : String) : Raises (List String) :=
  if effective = "" then .ok []
  else do
    let asserted ← cellText ticket.assertedTier
    let wider ← widens asserted effective
    return problemIf wider "INVARIANT: narrowing produced a wider tier"

def signatureBytes (signature : Json) : Raises (List Nat) :=
  match signature with
  | .str text => fromHex (dropStart text 2)
  | other => raise .typeError s!"fromhex() argument must be str, not {other.typeName}"

variable [Packages]

def recoverSigner (ticket : Ticket) (chainId : Int := 8453) : Raises String := do
  let payload ← ticket.payload
  let signable ← Packages.encode (typed payload chainId)
  let signature ← signatureBytes ticket.signature
  Packages.recover signable (.bytes signature)

def signatureProblems (ticket : Ticket) (chainId : Int := 8453) : Raises (List String) :=
  if !ticket.signature.truthy then .ok ["ticket is unsigned"]
  else match recoverSigner ticket chainId with
  | .error exception => .ok [s!"ticket signature is malformed: {exception.kind.className}"]
  | .ok signer => do
    let origin ← ticket.originNode.lower
    return problemIf (lower (nodeIdFromAddress signer) ≠ origin)
      "ticket is not signed by the node it claims to come from"

/-- The destination's own decision. Where there is no task to compare, the
ticket's is not looked at. -/
def admitTicket (ticket : Ticket) (destination : Destination) (task : Json) : Raises Admission := do
  let audience ← ticket.audience.lower
  let time ← timeProblems ticket destination
  let origin ← originProblems ticket destination
  let path ← pathProblems ticket destination
  let signature ← signatureProblems ticket destination.eip712ChainId
  let (effective, less, tier) ← tierOrProblem ticket destination.ceiling
  let widening ← wideningProblems ticket effective
  let problems := problemIf (audience ≠ lower (strip destination.audience))
      "ticket was minted for a different destination" ++
    time ++ origin ++
    problemIf (task ≠ .null && .str (taskDigest task) ≠ ticket.task)
      "the task presented is not the task the ticket authorises" ++
    path ++ signature ++ tier ++ widening
  return { admitted := problems = [], effectiveTier := effective, problems, narrowed := less }

theorem admit_peer {ticket : Ticket} {destination : Destination} {task : Json} {admission : Admission}
    (done : admitTicket ticket destination task = .ok admission) (admitted : admission.admitted = true) :
    destination.originIsPeer = true := by
  simp only [admitTicket, originProblems, bind_eq_ok, pure_eq_ok, Prod.exists] at done
  obtain ⟨_, _, _, _, _, ⟨_, _, rfl⟩, _, _, _, _, _, _, _, _, _, _, rfl⟩ := done
  by_contra stranger
  simp [problemIf, stranger] at admitted

end Admission

end Xcp.Delegation
