import Xcp.Federation.Delegation
import Xcp.Federation.Routing
import Xcp.Gateway.Gates

/-! The endpoints of the gateway that act for an agent: calls of tools,
delegations to other agents, pipes between tools, and calls relayed for a peer. -/

namespace Xcp.Gateway
open Checked Python Http Eth

/-- What a peer's gateway answers, and what its body decodes to. -/
structure PeerAnswer where
  response : Response
  document : Raises Json

/-- What a peer serves as its node record, and what its body decodes to. -/
structure FetchedRecord where
  status : Nat := 200
  bodyBytes : Nat
  document : Raises Json

/-- What lies outside the node, beside the clock, the limiter and the verifier. -/
structure Network extends World where
  resolve : String → Raises (List String)
  /-- By URL, call and headers. -/
  postUpstream : Json → Json → List (String × String) → Raises Response
  postPeer : String → Json → Raises PeerAnswer
  /-- By URL and the proof of membership that is presented. -/
  getRecord : String → Option Json → Raises FetchedRecord
  /-- By host and port, once the chain and the host name are validated. -/
  certificate : String → Nat → Raises (List Nat)
  choose : Nat → Nat
  nonce : String

/-- What leaves the node while a request is handled. -/
inductive Sent where
  | upstream (url call : Json) (headers : List (String × String))
  | peer (url : String) (document : Json)
deriving DecidableEq

structure Served where
  sent : Option Sent := none
  response : Response
deriving DecidableEq

/-- The federation is absent on a node that has no identity. -/
structure Tables where
  registry : Registry
  federation : Option Federation := none

variable [Host]

def now (network : Network) : Int := truncate network.now

def joinUrl (url : Json) (path : String) : Raises String := do
  let text ← url.asStr "rstrip"
  return rstrip text '/' ++ path

/-! ### Tickets -/

section Tickets
variable [Packages]

/-- What this node says of the agent behind a request. -/
def errand (node : Node) (federation : Federation) (ctx : Ctx) (audience : String) (peer : Json) (scope : String)
    (task : Json) : Delegation.Errand where
  originNode := federation.selfNodeId
  originDomain := federation.selfDomain
  audience := audience
  agentId := ctx.agentId
  chainId := ctx.chainId
  footprint := ctx.footprint
  assertedTier := if ctx.tier = "" then "A0xH0" else ctx.tier
  scope := scope
  task := task
  peer := peer
  clusterId := node.cluster.clusterId
  maxHops := node.a2aMaxHops

def mintTicket (node : Node) (network : Network) (federation : Option Federation) (ctx : Ctx) (dest : String)
    (peer : Json) (scope : String) (task : Json) : Option Delegation.Ticket :=
  if node.nodeKey = "" then none
  else match federation with
  | none => none
  | some federation =>
    (Delegation.mint node.nodeKey (errand node federation ctx dest peer scope task) network.nonce (now network)).toOption

def deliverTicket (node : Node) (network : Network) (federation : Option Federation) (dest : String)
    (ticket : Delegation.Ticket) (task : Json) : Option Sent × Bool × Option Json :=
  match federation with
  | none => (none, false, none)
  | some federation =>
    match (federation.peers.get? dest).filter (·.gatewayUrl.truthy) with
    | none => (none, false, some (.dict [("error",
        .str s!"{dest} is not a peer of this node; peer with it before delegating across the boundary")]))
    | some peer =>
      let permitted := do
        let text ← peer.gatewayUrl.asStr "lstrip"
        let _ ← Egress.checkUrl node.egress network.resolve text
        joinUrl peer.gatewayUrl "/v1/a2a/accept"
      match permitted with
      | .error _ => (none, false, some (.dict [("error", .str "the peer's gateway URL is not permitted")]))
      | .ok url =>
        let document := .dict [("ticket", ticket.toDict), ("task", task)]
        let sent := Sent.peer url document
        match network.postPeer url document with
        | .error exception => (some sent, false, some (.dict [("error",
            .str s!"the destination could not be reached ({exception.kind.className})")]))
        | .ok answer =>
          match answer.document with
          | .ok decision => (some sent, true, some decision)
          | .error _ => (some sent, true, some (.dict [("error",
              .str s!"the destination answered {answer.response.status} with no readable body")]))

end Tickets

/-! ### Routing -/

def peerMetrics (federation : Federation) (server : Json) : List Routing.PeerMetrics :=
  (federation.serving server).map (fun peer =>
    { domain := peer.domain, hops := peer.hops, trustWeight := peer.weight, site := peer.site
      serverClass := if peer.trust.meets .peered then "contracted" else "attested"
      revoked := peer.revoked })

def toolTask (server tool args : Json) : Json := .dict [("server", server), ("tool", tool), ("arguments", args)]

def toolScope (tool : Json) : String := s!"mcp:tools/{tool.toStr}"

def noRoute (server : Json) (exception : Exception) : Response where
  body := .dict [("error", .str s!"no peer may serve '{server.toStr}' under this node's routing constraints"),
    ("reason", .str exception.text)]
  status := 502

def selectPeer (node : Node) (network : Network) (federation : Federation) (server : Json) :
    Handler (Option Routing.Candidate) :=
  match peerMetrics federation server with
  | [] => .ok none
  | candidates =>
    let policy : Routing.Policy :=
      { effect := .write, homeSite := node.nodeSite, permittedSites := node.residencySites }
    match Routing.select candidates policy none network.choose with
    | .ok chosen => .ok (some chosen)
    | .error exception =>
      if exception.kind = .package "RoutingError" then .error (noRoute server exception) else .error serverError

section Relaying
variable [Packages]

/-- Ask a peer to serve a tool that this node cannot reach; nothing if no peer can. -/
def relayToPeer (node : Node) (network : Network) (federation : Option Federation) (server tool args : Json)
    (ctx : Ctx) : Handler (Option Served) :=
  match federation with
  | none => .ok none
  | some federation => do
    let chosen ← selectPeer node network federation server
    match chosen.bind (fun candidate => federation.peers.get? candidate.peer.domain) with
    | none => return none
    | some peer =>
      if !peer.gatewayUrl.truthy then return none
      else
        let task := toolTask server tool args
        let ticket ← attempt (Delegation.mint node.nodeKey
          (errand node federation ctx peer.domain server (toolScope tool) task) network.nonce (now network))
        let unreachable := errorResponse s!"the peer serving '{server.toStr}' could not be reached" 502
        match joinUrl peer.gatewayUrl "/v1/tool/relay" with
        | .error _ => .error unreachable
        | .ok url =>
          let document := .dict [("ticket", ticket.toDict), ("task", task)]
          match network.postPeer url document with
          | .ok answer => return some { sent := some (.peer url document), response := answer.response }
          | .error _ => return some { sent := some (.peer url document), response := unreachable }

def upstreamUrl (node : Node) (server : Json) : Raises Json := do
  let _ ← server.key
  match server with
  | .str name => return (Json.find? node.upstreams name).getD .null
  | _ => return .null

def identityHeader (ctx : Ctx) : String := s!"{ctx.agentId.toStr};{ctx.chainId.toStr};{ctx.footprint.toStr}"

def upstreamHeaders (node : Node) (ctx : Ctx) (credential : String) : List (String × String) :=
  [("XCP-Agent-Identity", identityHeader ctx), ("XCP-Verified-By", node.gatewayId)] ++
    if credential = "" then [] else [("XCP-Upstream-Credential", credential)]

def toolCall (tool args : Json) : Json :=
  .dict [("jsonrpc", .str "2.0"), ("id", .int 1), ("method", .str "tools/call"),
    ("params", .dict [("name", tool), ("arguments", args)])]

def fallback (node : Node) (network : Network) (federation : Option Federation) (server tool args : Json)
    (ctx : Ctx) : Handler Served :=
  let unknown : Served := { response := errorResponse s!"unknown server '{server.toStr}'" 404 }
  if node.toolFallback then (fun relayed => relayed.getD unknown) <$> relayToPeer node network federation server tool args ctx
  else .ok unknown

/-- Forward a call to its tool server, or to a peer that reaches it. -/
def routeMcp (node : Node) (network : Network) (federation : Option Federation) (server tool args : Json)
    (ctx : Ctx) (credential : String) : Handler Served := do
  let url ← attempt (upstreamUrl node server)
  if !url.truthy then fallback node network federation server tool args ctx
  else
    let call := toolCall tool args
    let headers := upstreamHeaders node ctx credential
    let response := match network.postUpstream url call headers with
      | .ok response => response
      | .error exception => errorResponse s!"upstream unreachable: {exception.text}" 502
    return { sent := some (.upstream url call headers), response }

end Relaying

/-! ### Governed requests -/

/-- A request that is past its session and its mandate. -/
structure Governed where
  ctx : Ctx
  body : Json
  scope : String

/-- What the governed endpoints check alike, for a scope that is derived from
the body. -/
def govern (node : Node) (network : Network) (registry : Registry) (request : HttpRequest)
    (scopeOf : Json → Raises String) : Handler Governed := do
  let _ ← negotiate request
  let ctx ← attempt (parseCtx node.toConfig network.toWorld registry request)
  let _ ← limit node.toConfig network.toWorld ctx "tools/call" "" 0 request.client true
  let _ ← require (node.enforces = true → ctx.verified = true) (reject ctx)
  let body ← attempt request.bodyOrEmpty
  let scope ← attempt (scopeOf body)
  let _ ← limit node.toConfig network.toWorld ctx "tools/call" scope request.bodyBytes "" false
  let (accepted, why) ← attempt
    (checkMandate node.toConfig network.toWorld (request.header "xcp-mandate") ctx.binding scope)
  let _ ← require (node.enforces = true → accepted = true) (deny scope why)
  return { ctx, body, scope }

def a2tScope (body : Json) : Raises String := do
  let tool ← body.get "tool" (.str "")
  return toolScope tool

def a2aScope (body : Json) : Raises String := do
  let peer ← body.get "peerDid" (.str "")
  return s!"a2a:delegate/{peer.toStr}"

def t2tScope (body : Json) : Raises String := do
  let src ← body.get "src" (.str "")
  let dst ← body.get "dst" (.str "")
  return s!"t2t:chain/{src.toStr}->{dst.toStr}"

section Endpoints
variable [Packages] (node : Node) (network : Network) (tables : Tables) (request : HttpRequest)

def a2tCall : Handler Served := do
  let governed ← govern node network tables.registry request a2tScope
  let server ← attempt (governed.body.get "server" (.str ""))
  let tool ← attempt (governed.body.get "tool" (.str ""))
  let _ ← checkUpstreamCredential node request server
  let given ← attempt (governed.body.get "arguments")
  let _ ← policyCheck node governed.ctx governed.scope (given.orElse (.dict []))
  let args ← attempt (governed.body.get "arguments" (.dict []))
  let _ ← argFirewall node args
  routeMcp node network tables.federation server tool args governed.ctx (request.header "xcp-upstream-credential")

/-- The answer of an authorisation, with what became of the ticket. -/
def delegated (governed : Governed) (peer task : Json) (rest : List (String × Json)) (delivered : Bool) : Response where
  body := .dict ([("authorized", .bool true), ("delivered", .bool delivered), ("peer", peer),
    ("delegatedBy", governed.ctx.agentId), ("task", task)] ++ rest)

def noDestination : String :=
  "no destination given, so nothing was delivered; pass `destination` (a peer domain) to have this gateway mint a " ++
    "ticket and deliver it"

def noNodeIdentity : String :=
  "this gateway has no node identity, so it cannot sign a delegation ticket; set XCP_NODE_KEY and XCP_NODE_DOMAIN"

/-- Agent to agent: authorise a delegation, and deliver it where a destination
is named. -/
def a2aDelegate : Handler Served := do
  let governed ← govern node network tables.registry request a2aScope
  let peer ← attempt (governed.body.get "peerDid" (.str ""))
  let task ← attempt (governed.body.get "task")
  let named ← attempt (governed.body.get "destination" (.str ""))
  let dest := lower (strip named.toStr)
  let answer := delegated governed peer task
  if dest = "" then return { response := answer [("note", .str noDestination)] false }
  else match mintTicket node network tables.federation governed.ctx dest peer governed.scope task with
  | none => return { response := answer [("note", .str noNodeIdentity)] false }
  | some ticket =>
    let (sent, delivered, decision) := deliverTicket node network tables.federation dest ticket task
    let told := decision.toList.map (fun decision => ("destinationDecision", decision))
    return { sent, response := answer ([("ticket", ticket.toDict), ("destination", .str dest)] ++ told) delivered }

def t2tPipe : Handler Served := do
  let governed ← govern node network tables.registry request t2tScope
  let src ← attempt (governed.body.get "src" (.str ""))
  let dst ← attempt (governed.body.get "dst" (.str ""))
  let payload ← attempt (governed.body.get "payload")
  return { response := { body := .dict [("chained", .bool true), ("src", src), ("dst", dst), ("payload", payload)] } }

end Endpoints

end Xcp.Gateway
