import Xcp.Gateway.Peering

/-! Under which domain a peer is recorded. The endpoint compares the domain of
the body with what the fetched record claims, and the certificate with the
record, but never the domain with the host that both were fetched from. -/

namespace Xcp.Gateway
open Checked Python Http Eth

section Binding
variable [Host] [Packages] (node : Node) (network : Network) (tables : Tables) (request : HttpRequest)

/-- The host that the URL of a request names, which a certificate is asked of. -/
def endpointHost : Raises String := do
  let body ← request.bodyOrEmpty
  let (_, gatewayUrl) ← readPeering body
  let url ← urlparse gatewayUrl
  return url.hostname

/-- The endpoint answers that it peered with the domain, and has recorded a
verified peer there. -/
def Records (domain : String) : Prop :=
  ∃ after response federation peer, federationPeer node network tables request = .ok (after, response) ∧
    response.body.get "domain" = .ok (.str domain) ∧ after.federation = some federation ∧
    federation.peers.get? domain = some peer ∧ peer.trust = .verified

/-- Whoever is recorded for a domain was verified at a host of that name. -/
def BindsDomain : Prop := ∀ domain, Records node network tables request domain → endpointHost request = .ok domain

variable {node network tables request}

theorem Introduces.certified {federation : Federation} {domain url : String} {record : NodeRecord}
    (introduces : Introduces node network tables request federation domain url record)
    (https : startsWith url "https://" = true) :
    ∃ host port der, endpointHost request = .ok host ∧ network.certificate host port = .ok der ∧
      verifyNodeRecord record der domain (((federation.peers.get? domain).map Peer.sequence).getD 0) (now network) =
        .ok [] := by
  have bound := introduces.bound
  simp only [https, if_true, recordProblems, peerCertificateDer, bind_eq_ok, pure_eq_ok] at bound
  obtain ⟨der, ⟨parsed, split, _, _, _, _, found, certified, _, _, rfl⟩, verified⟩ := bound
  obtain ⟨body, read, asked⟩ := (bind_eq_ok ..).mp introduces.asked
  refine ⟨parsed.hostname, _, found, ?_, certified, verified⟩
  simp [endpointHost, read, asked, split, ok_bind, pure, Except.pure]

theorem Introduces.records {federation : Federation} {domain url : String} {record : NodeRecord}
    (introduces : Introduces node network tables request federation domain url record) :
    Records node network tables request domain := by
  obtain ⟨⟨fed, peer⟩, recorded⟩ := introduces.recorded
  obtain ⟨cluster, member⟩ := introduces.member
  obtain ⟨tlsVerified, bound⟩ := (bindRecord_ok node network).mpr introduces.bound
  obtain ⟨sequence, read⟩ := introduce_sequence recorded
  obtain ⟨rfl, keyed, _, verified, _⟩ := introduce_ok recorded
  rw [introduces.lower_domain] at keyed
  obtain ⟨response, answered, named⟩ := peered_ok read
  have done := federationPeer_ok.mpr
    ⟨federation, domain, url, record, _, tlsVerified, cluster, introduces, recorded, rfl, bound, member, answered⟩
  refine ⟨_, response, _, peer, done, ?_, rfl, ?_, verified⟩
  · rw [named, keyed]
  · simp [Federation.setPeer, keyed]

theorem Records.introduces {domain : String} (records : Records node network tables request domain) :
    ∃ federation url record, Introduces node network tables request federation domain url record := by
  obtain ⟨after, response, _, _, done, named, _⟩ := records
  obtain ⟨federation, asked, url, record, ⟨fed, peer⟩, tlsVerified, cluster, introduces, recorded, _, _, _, answered⟩ :=
    federationPeer_ok.mp done
  obtain ⟨sequence, read⟩ := introduce_sequence recorded
  obtain ⟨_, same, told⟩ := peered_ok read
  obtain ⟨_, keyed, _⟩ := introduce_ok recorded
  rw [answered] at same
  cases same
  rw [keyed, introduces.lower_domain, named] at told
  cases told
  exact ⟨federation, url, record, introduces⟩

/-- Recorded peers are bound to their domains exactly when every introduction
that passes the checks of the endpoint names a URL whose host is the domain. -/
theorem bindsDomain_iff :
    BindsDomain node network tables request ↔
      ∀ federation domain url record, Introduces node network tables request federation domain url record →
        endpointHost request = .ok domain := by
  constructor
  · intro binds federation domain url record introduces
    exact binds domain introduces.records
  · intro hosted domain records
    obtain ⟨federation, url, record, introduces⟩ := records.introduces
    exact hosted federation domain url record introduces

end Binding

/-! ### A host that speaks for another domain -/

section Impostor

local instance impostorHost : Host := asciiHost []

def impostorDer : List Nat := [48, 3, 2, 1, 13]

/-- The hash of that certificate; nothing else is asked for. -/
local instance impostorPackages : Packages where
  keccak := fun data =>
    if data = impostorDer then
      [147, 60, 92, 149, 82, 210, 69, 86, 10, 100, 102, 49, 62, 215, 151, 42, 47, 66, 251, 221, 67, 35, 79, 160, 65, 22,
        212, 197, 216, 67, 174, 228]
    else []
  encode := fun _ => raise (.package "ValidationError") ""
  recover := fun _ _ => raise (.package "BadSignature") ""
  sign := fun _ _ => raise (.package "ValidationError") ""

def secureNode : Node where
  limits := false

/-- The record of the impostor claims the bank's domain, under the identity of
the impostor's own certificate. -/
def impostorRecord : Json :=
  .dict [("domain", .str "bank.example"),
    ("node_id", .str "0x933c5c9552d245560a6466313ed7972a2f42fbdd43234fa04116d4c5d843aee4"),
    ("gateway_url", .str "https://mallory.example")]

def impostorNetwork : Network where
  now := 1000
  limiter := fun _ => { allowed := true }
  verifier := fun _ _ => raise (.package "ConnectError") ""
  resolve := fun host => if host = "mallory.example" then .ok ["93.184.216.34"] else raise (.package "EgressDenied") ""
  postUpstream := fun _ _ _ => raise (.package "ConnectError") ""
  postPeer := fun _ _ => raise (.package "ConnectError") ""
  getRecord := fun url _ =>
    if url = "https://mallory.example/.well-known/xcp-node.json" then .ok { bodyBytes := 200, document := .ok impostorRecord }
    else raise (.package "ConnectError") ""
  certificate := fun host port =>
    if host = "mallory.example" ∧ port = 443 then .ok impostorDer else raise (.package "ConnectError") ""
  choose := fun _ => 0
  nonce := ""

def noPeers : Tables where
  registry := fun _ => none
  federation := some { selfDomain := "self.example", selfNodeId := "0x00" }

def impostorRequest : HttpRequest where
  bodyBytes := 70
  body := .ok (.dict [("domain", .str "bank.example"), ("gatewayUrl", .str "https://mallory.example")])

/-- The impostor is recorded as the bank. -/
theorem impostor_recorded : ¬ BindsDomain secureNode impostorNetwork noPeers impostorRequest := by
  intro binds
  have peered : (federationPeer secureNode impostorNetwork noPeers impostorRequest).toOption.isSome = true := by
    decide +kernel
  have elsewhere : endpointHost impostorRequest ≠ (impostorRequest.bodyOrEmpty >>= readPeering).map Prod.fst := by
    decide +kernel
  obtain ⟨answer, done⟩ := ok_of_isSome peered
  obtain ⟨federation, domain, url, record, _, _, _, introduces, _⟩ := federationPeer_ok.mp done
  apply elsewhere
  rw [introduces.asked]
  exact binds domain introduces.records

end Impostor

end Xcp.Gateway
