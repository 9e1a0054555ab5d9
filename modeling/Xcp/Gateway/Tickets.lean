import Xcp.Gateway.Calls

/-! The endpoints that take a ticket from another node: delegations that are
accepted here, and tool calls that are served for a peer. -/

namespace Xcp.Gateway
open Checked Python Http Eth Delegation

def notConfigured : Response := errorResponse "federation not configured" 404

def lookUp (federation : Federation) (domain : Json) : Raises (Option Peer) := do
  let _ ← domain.key
  match domain with
  | .str text => return federation.peers.get? text
  | _ => return none

theorem lookUp_member {federation : Federation} {domain : Json} {peer : Peer}
    (found : lookUp federation domain = .ok (some peer)) : peer ∈ federation.peers.values := by
  simp only [lookUp, bind_eq_ok] at found
  obtain ⟨_, _, found⟩ := found
  cases domain with
  | str text =>
    simp only [pure_eq_ok] at found
    exact Dict.mem_values.mpr ⟨text, found⟩
  | _ => cases found

variable [Host]

/-- The node that signed a ticket, by the entry for its domain. -/
def originIsPeer (federation : Federation) (ticket : Ticket) : Raises Bool := do
  let origin ← lookUp federation ticket.originDomain
  match origin with
  | none => return false
  | some peer =>
    if peer.revoked then return false
    else
      let known ← peer.nodeId.lower
      let named ← ticket.originNode.lower
      return known = named && peer.trust.meets .verified

theorem originIsPeer_live {federation : Federation} {ticket : Ticket}
    (judged : originIsPeer federation ticket = .ok true) :
    ∃ peer ∈ federation.peers.values, peer.revoked = false ∧ peer.nodeId.lower = ticket.originNode.lower := by
  simp only [originIsPeer, bind_eq_ok] at judged
  obtain ⟨origin, found, judged⟩ := judged
  cases origin with
  | none => cases judged
  | some peer =>
    dsimp only at judged
    split at judged
    · cases judged
    next live =>
      simp only [bind_eq_ok, pure_eq_ok, Bool.and_eq_true, decide_eq_true_eq] at judged
      obtain ⟨known, spelled, named, given, same, _⟩ := judged
      refine ⟨peer, lookUp_member found, by simpa using live, ?_⟩
      rw [spelled, given, same]

/-- Membership of the origin, where the cluster is closed. -/
def originInCluster (node : Node) (ticket : Ticket) (isPeer : Bool) : Raises (Option Bool) :=
  if !node.cluster.closed then .ok none
  else if !ticket.clusterId.truthy then .ok (some false)
  else do
    let named ← ticket.clusterId.lower
    return some (named = lower node.cluster.clusterId && isPeer)

def malformedTicket (exception : Exception) : Response where
  body := .dict [("admitted", .bool false), ("problems", .list [.str s!"malformed ticket: {exception.text}"])]
  status := 400

def readTicket (body : Json) : Raises Ticket := do
  let given ← body.get "ticket"
  Ticket.fromDict (given.orElse (.dict []))

section Admitting
variable [Packages]

def decideTicket (node : Node) (network : Network) (federation : Federation) (ticket : Ticket) (task : Json) :
    Raises Admission := do
  let isPeer ← originIsPeer federation ticket
  let inCluster ← originInCluster node ticket isPeer
  admitTicket ticket
    { audience := federation.selfDomain, selfNodeId := federation.selfNodeId, ceiling := node.tierCeiling,
      originIsPeer := isPeer, originInCluster := inCluster, expectedClusterId := node.cluster.clusterId,
      now := now network }
    task

def refusedTicket (node : Node) (admission : Admission) (rest : List (String × Json)) : Response where
  body :=
    match admission.toDict with
    | .dict members => .dict (members ++ [("ceiling", .str node.tierCeiling)] ++ rest)
    | other => other
  status := 403

def acceptedNote : String :=
  "admitted at the effective tier; this node's own mandate gate, argument firewall and limits still apply to any " ++
    "call made on its behalf"

variable (node : Node) (network : Network) (tables : Tables) (request : HttpRequest)

/-- The destination half of a delegation across a boundary. -/
def a2aAccept : Handler Response := do
  let _ ← require (node.a2aAccept = true) (errorResponse
    "this node does not accept delegated tasks; set XCP_A2A_ACCEPT=1 to enable it" 404)
  match tables.federation with
  | none => .error notConfigured
  | some federation => do
    let _ ← fedLimit node network.toWorld request "a2a-accept"
    let body ← attempt request.bodyOrEmpty
    let ticket ← (readTicket body).mapError malformedTicket
    let task ← attempt (body.get "task")
    let decision ← attempt (decideTicket node network federation ticket task)
    let origin := [("origin", ticket.originDomain)]
    let _ ← require (decision.admitted = true) (refusedTicket node decision origin)
    return { refusedTicket node decision (origin ++ [("note", .str acceptedNote)]) with status := 200 }

/-! ### Relayed calls -/

/-- The context that a relayed call is routed in. -/
def relayedCtx (ticket : Ticket) (tier : String) : Ctx where
  agentId := ticket.agentId
  chainId := ticket.chainId
  footprint := ticket.footprint
  verified := true
  binding := some
    { footprint := ticket.footprint, mandateRoot := .str "", rails := 0, tier
      -- nothing reads the agent id and the expiry of this binding
      agentId := ticket.agentId.toInt.toOption.getD 0
      notAfter := ticket.expiresAt.toInt.toOption.getD 0 }

structure Relay where
  ctx : Ctx
  server : Json
  tool : Json
  args : Json

def admitRelay : Handler Relay := do
  let _ ← require (node.toolRelay = true) (errorResponse
    "this node does not relay tool calls; set XCP_TOOL_RELAY=1 to enable it" 404)
  match tables.federation with
  | none => .error notConfigured
  | some federation => do
    let _ ← fedLimit node network.toWorld request "tool-relay"
    let body ← attempt request.bodyOrEmpty
    let given ← attempt (body.get "task")
    let task := given.orElse (.dict [])
    let ticket ← (readTicket body).mapError malformedTicket
    let decision ← attempt (decideTicket node network federation ticket task)
    let server ← attempt (task.get "server" (.str ""))
    let tool ← attempt (task.get "tool" (.str ""))
    let _ ← require (decision.admitted = true) (refusedTicket node decision [])
    let server : Json := .str server.toStr
    let tool : Json := .str tool.toStr
    let _ ← require ((Json.find? node.upstreams server.toStr).isSome = true)
      (errorResponse s!"this node does not serve '{server.toStr}'" 404)
    let ctx := relayedCtx ticket decision.effectiveTier
    let _ ← limit node.toConfig network.toWorld ctx "tools/call" (toolScope tool) 0 "" false
    let given ← attempt (task.get "arguments")
    return { ctx, server, tool, args := given.orElse (.dict []) }

def toolRelay : Handler Served := do
  let relay ← admitRelay node network tables request
  routeMcp node network tables.federation relay.server relay.tool relay.args relay.ctx node.relayCredential

theorem decideTicket_peer {federation : Federation} {ticket : Ticket} {task : Json} {decision : Admission}
    (done : decideTicket node network federation ticket task = .ok decision) (admitted : decision.admitted = true) :
    originIsPeer federation ticket = .ok true := by
  simp only [decideTicket, bind_eq_ok] at done
  obtain ⟨isPeer, judged, inCluster, _, done⟩ := done
  have peer := admit_peer done admitted
  rw [judged]
  exact congrArg Except.ok peer

end Admitting

end Xcp.Gateway
