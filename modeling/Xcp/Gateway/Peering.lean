import Xcp.Federation.Record
import Xcp.Gateway.Tickets

/-! The endpoints that write the peer table: a peer introduces itself, and a
peer tells of a revocation. -/

namespace Xcp.Gateway
open Checked Python Http Eth Cluster

def maxRecordBytes : Nat := 256 * 1024

def peerFetchError (text : String) : Exception := ⟨.package "PeerFetchError", text⟩

/-! ### Reaching a peer -/

def recordUrl (gatewayUrl : String) : String := rstrip gatewayUrl '/' ++ "/.well-known/xcp-node.json"

def fetchNodeRecord (network : Network) (gatewayUrl : String) (access : Option Json) : Raises FetchedRecord := do
  let fetched ← (network.getRecord (recordUrl gatewayUrl) access).mapError
    (fun exception => peerFetchError exception.kind.className)
  let _ ← require (fetched.bodyBytes ≤ maxRecordBytes) (peerFetchError "record is too large")
  return fetched

/-! ### The answer -/

def peeredNote : String :=
  "this path grants at most VERIFIED; PEERED requires the peer to confirm independently"

def plainHttpWarning : String :=
  "peered over plain HTTP: the certificate footprint could not be checked. Development only."

/-- The answer, which tells a rotation from the entry before. -/
def peered (known : Option Peer) (record : NodeRecord) (peer : Peer) (tlsVerified : Bool) (cluster : Json) : Raises Response := do
  let sequence ← record.sequence
  let rotation := known.any (fun known => known.nodeId.same record.nodeId && known.sequence < sequence)
  return {
    body := .dict [("peered", .bool true), ("domain", .str peer.domain), ("nodeId", peer.nodeId),
      ("trust", .str peer.trust.label), ("sequence", .int peer.sequence), ("tlsVerified", .bool tlsVerified),
      ("mutual", .bool false), ("clusterMember", cluster), ("note", .str peeredNote), ("rotation", .bool rotation),
      ("warning", if tlsVerified then .null else .str plainHttpWarning)] }

theorem peered_ok {known : Option Peer} {record : NodeRecord} {peer : Peer} {tlsVerified : Bool} {cluster : Json}
    {sequence : Int} (read : record.sequence = .ok sequence) :
    ∃ response, peered known record peer tlsVerified cluster = .ok response ∧
      response.body.get "domain" = .ok (.str peer.domain) := by
  unfold peered
  rw [read]
  exact ⟨_, rfl, rfl⟩

variable [Host]

/-! ### Checks of an introduction -/

def peerCertificateDer (network : Network) (gatewayUrl : String) : Raises (List Nat) := do
  let url ← urlparse gatewayUrl
  let _ ← require (url.scheme = "https" ∧ url.hostname ≠ "") (peerFetchError "certificate binding requires an https URL")
  let port ← url.port
  let der ← network.certificate url.hostname ((port.filter (· ≠ 0)).getD 443)
  let _ ← require (der ≠ []) (peerFetchError "no certificate presented")
  return der

def readPeering (body : Json) : Raises (String × String) := do
  let domain ← body.get "domain" (.str "")
  let url ← body.get "gatewayUrl" (.str "")
  return (lower (strip domain.toStr), strip url.toStr)

/-- The URL comes from anyone, so the addresses of its host have to pass. -/
def checkPeerUrl (node : Node) (network : Network) (url : String) : Handler Unit :=
  (Egress.checkUrl node.egress network.resolve url).mapError (fun exception =>
    if Egress.isEgressDenied exception then errorResponse s!"peer URL refused: {exception.text}" 400
    else errorResponse "peer URL refused" 400)

/-- Record a peer as it describes itself, at no more than verified. -/
def introduce (network : Network) (federation : Federation) (domain : String) (record : NodeRecord) : Raises (Federation × Peer) := do
  let sequence ← record.sequence
  let serves ← (record.serves.orElse (.list [])).toList
  federation.addVerifiedPeer
    { domain, nodeId := record.nodeId, gatewayUrl := record.gatewayUrl, sequence, site := record.site, serves }
    (now network)

theorem introduce_ok {network : Network} {federation after : Federation} {domain : String} {record : NodeRecord}
    {peer : Peer} (done : introduce network federation domain record = .ok (after, peer)) :
    after = federation.setPeer peer ∧ peer.domain = lower domain ∧ peer.nodeId = record.nodeId ∧
      peer.trust = .verified ∧ peer.revoked = false := by
  simp only [introduce, bind_eq_ok] at done
  obtain ⟨_, _, _, _, added⟩ := done
  obtain ⟨_, rfl, rfl⟩ := Federation.addVerifiedPeer_ok added
  exact ⟨rfl, rfl, rfl, rfl, rfl⟩

theorem introduce_sequence {network : Network} {federation : Federation} {domain : String} {record : NodeRecord}
    {both : Federation × Peer} (done : introduce network federation domain record = .ok both) :
    ∃ sequence, record.sequence = .ok sequence := by
  simp only [introduce, bind_eq_ok] at done
  obtain ⟨sequence, read, _⟩ := done
  exact ⟨sequence, read⟩

section Peering
variable [Packages] (node : Node) (network : Network) (tables : Tables) (request : HttpRequest)

/-- This node's own proof of membership; none where it is no member or cannot sign. -/
def mintAccess (audience : String) : Option Json :=
  match node.cluster.claim with
  | none => none
  | some claim =>
    if node.nodeKey = "" then none
    else (signAccessRequest node.nodeKey claim audience (now network)).toOption.map AccessRequest.toDict

def orUnreadable {α : Type} (result : Raises α) : Handler α :=
  result.mapError (fun _ => errorResponse "could not retrieve a valid peer record" 502)

def gatedRecord (cluster : Json) : Response where
  body := .dict [("error", .str ("the peer gates its node record and did not accept this node as a member of its " ++
      "cluster")),
    ("reason", .str ("no membership proof was accepted; check both nodes share a cluster, that this node's " ++
      "XCP_CLUSTER_MEMBERSHIP is current, and that the peer's charter epoch matches")),
    ("peerCluster", cluster.orElse .null)]
  status := 403

def fetchRecord (domain url : String) : Handler NodeRecord := do
  let fetched ← orUnreadable (fetchNodeRecord network url (mintAccess node network domain))
  let _ ← require (fetched.status < 300) (errorResponse "peer record must be served directly" 502)
  let document ← orUnreadable (if fetched.bodyBytes = 0 then .ok (.dict []) else fetched.document)
  let gated ← orUnreadable (document.get "gated")
  let nodeId ← orUnreadable (document.get "node_id")
  let cluster ← orUnreadable (document.get "cluster_id")
  let _ ← require (gated.truthy = true → nodeId.truthy = true) (gatedRecord cluster)
  orUnreadable (NodeRecord.fromDict document)

def refusal (error reason : String) : Response where
  body := .dict [("error", .str error), ("reason", .str reason)]
  status := 403

/-- What the record is found to be against the certificate of the URL's host. -/
def recordProblems (federation : Federation) (domain url : String) (record : NodeRecord) : Raises (List String) := do
  let der ← peerCertificateDer network url
  verifyNodeRecord record der domain (((federation.peers.get? domain).map Peer.sequence).getD 0) (now network)

def plainHttp : String :=
  "peering over plain HTTP is refused; the record cannot be bound to a certificate. A private federation still needs " ++
    "TLS — issue internal certificates and declare the signer in XCP_PEER_CA_BUNDLE"

/-- Whether the record is bound to a certificate. Without TLS it is not, which
only insecure peering lets pass. -/
def bindRecord (federation : Federation) (domain url : String) (record : NodeRecord) : Handler Bool :=
  if startsWith url "https://" then
    match recordProblems network federation domain url record with
    | .ok [] => .ok true
    | .ok (problem :: _) => .error (refusal "peer record did not verify" problem)
    | .error _ => .error (errorResponse "could not bind the peer record to its certificate" 502)
  else do
    let _ ← require (node.insecurePeers = true) (errorResponse plainHttp 400)
    return false

def noClaim : String :=
  "this node federates within a closed cluster and the peer presented no membership claim"

/-- The cluster that a peer proves to be a member of, where only members may peer. -/
def clusterMember (record : NodeRecord) : Handler Json :=
  match node.cluster.charter.filter (fun charter => !charter.open_) with
  | none => .ok .null
  | some charter => do
    let _ ← require (record.membership.truthy = true) (errorResponse noClaim 403)
    let claim ← (MembershipClaim.fromDict record.membership).mapError (fun exception =>
      if isClusterError exception then errorResponse s!"membership claim is malformed: {exception.text}" 400
      else serverError)
    match ← attempt (verifyMember charter claim record.nodeId) with
    | [] => return .str claim.clusterId
    | problem :: _ => .error (refusal "membership did not verify" problem)

/-- A peer introduces itself. Its record is fetched and verified, not what it posted. -/
def federationPeer : Handler (Tables × Response) :=
  match tables.federation with
  | none => .error notConfigured
  | some federation => do
    let _ ← fedLimit node network.toWorld request "peer"
    let body ← attempt request.bodyOrEmpty
    let (domain, url) ← attempt (readPeering body)
    let _ ← require (domain ≠ "" ∧ url ≠ "") (errorResponse "domain and gatewayUrl are required" 400)
    let _ ← checkPeerUrl node network url
    let record ← fetchRecord node network domain url
    let claimed ← attempt record.domain.lower
    let _ ← require (claimed = domain) (errorResponse "the record does not claim that domain" 400)
    let incompatible ← attempt (protocolIncompatible record)
    let _ ← require (incompatible = none)
      (errorResponse ("cannot federate: " ++ incompatible.getD "") 409)
    let tlsVerified ← bindRecord node network federation domain url record
    let cluster ← clusterMember node record
    let (after, peer) ← (introduce network federation domain record).mapError (fun exception =>
      errorResponse exception.text 409)
    let response ← attempt (peered (federation.peers.get? domain) record peer tlsVerified cluster)
    return ({ tables with federation := some after }, response)

/-! ### Revocations -/

def notAccepted (reason : String) : Response where
  body := .dict [("accepted", .bool false), ("reason", .str reason)]
  status := 403

def readRevocation (body : Json) : Raises (String × Json × String) := do
  let sender ← body.get "from" (.str "")
  let given ← body.get "revocation"
  let document := given.orElse (.dict [])
  let subject ← document.get "subject"
  let named ← body.get "nodeId" (.str "")
  return (lower sender.toStr, document, (subject.orElse named).toStr)

def federationRevoke : Handler (Tables × Response) :=
  match tables.federation with
  | none => .error notConfigured
  | some federation => do
    let _ ← fedLimit node network.toWorld request "revoke"
    let body ← attempt request.bodyOrEmpty
    let (sender, document, nodeId) ← attempt (readRevocation body)
    let _ ← require (nodeId ≠ "" ∧ sender ≠ "") (errorResponse "from and a signed revocation are required" 400)
    match federation.peers.get? sender with
    | none => .error (notAccepted "unknown peer")
    | some peer =>
      match ← attempt (Identity.verifyRevocation document peer.nodeId (now network)) with
      | problem :: _ => .error (notAccepted problem)
      | [] => do
        let (after, accepted) := federation.ingestRevocation nodeId sender
        let _ ← require (accepted = true) (notAccepted "revocations are accepted only from a verified peer")
        return ({ tables with federation := some after },
          { body := .dict [("accepted", .bool true), ("nodeId", .str nodeId)] })

/-! ### What is written -/

/-- An introduction that passes every check of the endpoint. -/
structure Introduces (federation : Federation) (domain url : String) (record : NodeRecord) : Prop where
  configured : tables.federation = some federation
  metered : fedLimit node network.toWorld request "peer" = .ok ()
  asked : (request.bodyOrEmpty >>= readPeering) = .ok (domain, url)
  named : domain ≠ "" ∧ url ≠ ""
  permitted : Egress.checkUrl node.egress network.resolve url = .ok ()
  served : fetchRecord node network domain url = .ok record
  claims : record.domain.lower = .ok domain
  compatible : protocolIncompatible record = .ok none
  bound : if startsWith url "https://" then recordProblems network federation domain url record = .ok []
    else node.insecurePeers = true
  member : ∃ cluster, clusterMember node record = .ok cluster
  recorded : ∃ both, introduce network federation domain record = .ok both

theorem bindRecord_ok {federation : Federation} {domain url : String} {record : NodeRecord} :
    (∃ tlsVerified, bindRecord node network federation domain url record = .ok tlsVerified) ↔
      if startsWith url "https://" then recordProblems network federation domain url record = .ok []
      else node.insecurePeers = true := by
  unfold bindRecord
  split
  next https =>
    cases recordProblems network federation domain url record with
    | error exception => simp
    | ok problems => cases problems <;> simp
  next plain => simp

variable {node network tables request}

theorem Introduces.lower_domain {federation : Federation} {domain url : String} {record : NodeRecord}
    (introduces : Introduces node network tables request federation domain url record) : lower domain = domain := by
  obtain ⟨body, _, asked⟩ := (bind_eq_ok ..).mp introduces.asked
  simp only [readPeering, bind_eq_ok, pure_eq_ok, Prod.mk.injEq] at asked
  obtain ⟨_, _, _, _, rfl, _⟩ := asked
  exact Host.lower_lower _

theorem federationPeer_ok {after : Tables} {response : Response} :
    federationPeer node network tables request = .ok (after, response) ↔
      ∃ federation domain url record both tlsVerified cluster,
        Introduces node network tables request federation domain url record ∧
        introduce network federation domain record = .ok both ∧
        after = { tables with federation := some both.1 } ∧
        bindRecord node network federation domain url record = .ok tlsVerified ∧
        clusterMember node record = .ok cluster ∧
        peered (federation.peers.get? domain) record both.2 tlsVerified cluster = .ok response := by
  unfold federationPeer
  constructor
  · intro done
    cases configured : tables.federation with
    | none => simp [configured] at done
    | some federation =>
      simp only [configured, checkPeerUrl, bind_eq_ok, attempt_eq_ok, mapError_eq_ok, require_eq_ok, pure_eq_ok,
        Prod.exists, Prod.mk.injEq] at done
      obtain ⟨_, metered, body, read, domain, url, asked, _, named, _, permitted, record, served, claimed, claims, _, same,
        incompatible, compatible, _, agreed, tlsVerified, bound, cluster, member, fed, peer, recorded, answer, answered,
        rfl, rfl⟩ := done
      have admitted : Introduces node network tables request federation domain url record := by
        refine ⟨configured, metered, ?_, named, permitted, served, ?_, ?_, ?_, ⟨cluster, member⟩, ⟨_, recorded⟩⟩
        · rw [read]
          exact asked
        · rw [claims, same]
        · rw [compatible, agreed]
        · exact (bindRecord_ok node network).mp ⟨tlsVerified, bound⟩
      exact ⟨federation, domain, url, record, (fed, peer), tlsVerified, cluster, admitted, recorded, rfl, bound, member,
        answered⟩
  · rintro ⟨federation, domain, url, record, ⟨fed, peer⟩, tlsVerified, cluster, admitted, recorded, rfl, bound, member,
      answered⟩
    obtain ⟨body, read, asked⟩ := bind_eq_ok .. |>.mp admitted.asked
    simp only [admitted.configured, checkPeerUrl, bind_eq_ok, attempt_eq_ok, mapError_eq_ok, require_eq_ok, pure_eq_ok,
      Prod.exists, Prod.mk.injEq]
    exact ⟨(), admitted.metered, body, read, domain, url, asked, (), admitted.named, (), admitted.permitted, record,
      admitted.served, domain, admitted.claims, (), rfl, none, admitted.compatible, (), rfl, tlsVerified, bound, cluster,
      member, fed, peer, recorded, response, answered, rfl, rfl⟩

theorem federationRevoke_ok {after : Tables} {response : Response}
    (done : federationRevoke node network tables request = .ok (after, response)) :
    ∃ federation nodeId, tables.federation = some federation ∧
      response.body.get "nodeId" = .ok (.str nodeId) ∧
      after = { tables with federation := some (federation.revoke nodeId).1 } := by
  unfold federationRevoke at done
  cases configured : tables.federation with
  | none => simp [configured] at done
  | some federation =>
    simp only [configured, bind_eq_ok, attempt_eq_ok, Prod.exists] at done
    obtain ⟨_, _, body, _, sender, document, nodeId, _, _, _, done⟩ := done
    cases known : federation.peers.get? sender with
    | none => simp [known] at done
    | some peer =>
      simp only [known, bind_eq_ok, attempt_eq_ok] at done
      obtain ⟨problems, _, done⟩ := done
      cases problems with
      | cons problem rest => cases done
      | nil =>
        simp only [bind_eq_ok, require_eq_ok, pure_eq_ok, Prod.mk.injEq] at done
        obtain ⟨_, accepted, rfl, rfl⟩ := done
        refine ⟨federation, nodeId, rfl, rfl, ?_⟩
        rcases federation.ingestRevocation_cases nodeId sender with revoked | refused
        · rw [revoked]
        · rw [refused] at accepted
          cases accepted

end Peering

end Xcp.Gateway
