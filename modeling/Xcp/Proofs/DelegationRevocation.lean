import Xcp.Gateway.Peering
import Xcp.Library.Ideal
import Xcp.Library.Transition
import Xcp.Proofs.FederationRevocation

/-! Delegations after a revocation. A ticket is judged by the entry for its
origin alone, and an entry is flagged by the node id as it is spelled there;
peering anew writes an entry without a flag. -/

namespace Xcp.Gateway
open Checked Python Http Eth Transition Delegation

/-- Requests that read or write the peer table, from anyone. -/
inductive FedRequest where
  | federationPeer (request : HttpRequest)
  | federationRevoke (request : HttpRequest)
  | a2aAccept (request : HttpRequest)
  | toolRelay (request : HttpRequest)

def Tables.peers (tables : Tables) : List Peer := (tables.federation.map (·.peers.values)).getD []

theorem peers_mem {tables : Tables} {federation : Federation} (configured : tables.federation = some federation) {peer : Peer} :
    peer ∈ tables.peers ↔ ∃ domain, federation.peers.get? domain = some peer := by
  simp [Tables.peers, configured, Dict.mem_values]

section Runs
variable [Host] [Packages] (node : Node) (nodeId : String)

def fedStep (tables : Tables) : Network × FedRequest → Tables
  | (network, .federationPeer request) => settle tables (Prod.fst <$> federationPeer node network tables request)
  | (network, .federationRevoke request) => settle tables (Prod.fst <$> federationRevoke node network tables request)
  | (_, .a2aAccept _) => tables
  | (_, .toolRelay _) => tables

/-- The ticket of the request names the node as its origin, in some spelling. -/
def NamesOrigin (request : HttpRequest) : Prop :=
  ∃ body ticket, request.bodyOrEmpty = .ok body ∧ readTicket body = .ok ticket ∧
    ticket.originNode.lower = .ok (lower nodeId)

/-- A ticket of the node is admitted, or a tool call served on it. -/
def Honours (tables : Tables) : Prop :=
  ∃ network request, NamesOrigin nodeId request ∧
    ((∃ response, a2aAccept node network tables request = .ok response) ∨
      ∃ served, toolRelay node network tables request = .ok served)

/-- Every entry with the node id, in some spelling, is flagged. -/
def Flagged (tables : Tables) : Prop :=
  ∀ peer ∈ tables.peers, peer.nodeId.lower = .ok (lower nodeId) → peer.revoked = true

/-- Every entry with the node id in some spelling has this one, or is flagged. -/
def SpelledAlike (tables : Tables) : Prop :=
  ∀ peer ∈ tables.peers, peer.nodeId.lower = .ok (lower nodeId) → peer.nodeId = .str nodeId ∨ peer.revoked = true

/-- An introduction that passes, under the node id in some spelling. -/
def Reintroduces (tables : Tables) : Network × FedRequest → Prop
  | (network, .federationPeer request) => ∃ federation domain url record,
      Introduces node network tables request federation domain url record ∧ record.nodeId.lower = .ok (lower nodeId)
  | _ => False

variable {node nodeId} {network : Network} {tables after : Tables} {request : HttpRequest}

/-! ### What is admitted -/

def Admits (node : Node) (network : Network) (tables : Tables) (request : HttpRequest) : Prop :=
  ∃ federation body ticket task decision, tables.federation = some federation ∧ request.bodyOrEmpty = .ok body ∧
    readTicket body = .ok ticket ∧ decideTicket node network federation ticket task = .ok decision ∧
    decision.admitted = true

theorem a2aAccept_admits {response : Response} (done : a2aAccept node network tables request = .ok response) :
    Admits node network tables request := by
  simp only [a2aAccept, bind_eq_ok, require_eq_ok] at done
  obtain ⟨_, _, done⟩ := done
  cases configured : tables.federation with
  | none => simp [configured] at done
  | some federation =>
    simp only [configured, bind_eq_ok, attempt_eq_ok, mapError_eq_ok, require_eq_ok, pure_eq_ok] at done
    obtain ⟨_, _, body, given, ticket, read, task, _, decision, judged, _, admitted, _⟩ := done
    exact ⟨federation, body, ticket, task, decision, configured, given, read, judged, admitted⟩

theorem toolRelay_admits {served : Served} (done : toolRelay node network tables request = .ok served) :
    Admits node network tables request := by
  simp only [toolRelay, admitRelay, bind_eq_ok, require_eq_ok] at done
  obtain ⟨_, ⟨_, _, done⟩, _⟩ := done
  cases configured : tables.federation with
  | none => simp [configured] at done
  | some federation =>
    simp only [configured, bind_eq_ok, attempt_eq_ok, mapError_eq_ok, require_eq_ok, pure_eq_ok] at done
    obtain ⟨_, _, body, given, task, _, ticket, read, decision, judged, _, _, _, _, _, admitted, _⟩ := done
    exact ⟨federation, body, ticket, _, decision, configured, given, read, judged, admitted⟩

theorem Flagged.not_honours (flagged : Flagged nodeId tables) : ¬ Honours node nodeId tables := by
  intro ⟨network, request, ⟨body, ticket, given, read, named⟩, honoured⟩
  have admits : Admits node network tables request := by
    rcases honoured with ⟨_, accepted⟩ | ⟨_, served⟩
    · exact a2aAccept_admits accepted
    · exact toolRelay_admits served
  obtain ⟨federation, _, _, task, decision, configured, same, reread, judged, admitted⟩ := admits
  rw [given] at same
  cases same
  rw [read] at reread
  cases reread
  obtain ⟨peer, member, live, spelled⟩ := originIsPeer_live (decideTicket_peer node network judged admitted)
  have listed : peer ∈ tables.peers := by simpa [Tables.peers, configured] using member
  rw [flagged peer listed (spelled.trans named)] at live
  cases live

/-! ### What is written -/

theorem federationPeer_writes {response : Response}
    (done : federationPeer node network tables request = .ok (after, response)) :
    ∃ federation domain url record entry, Introduces node network tables request federation domain url record ∧
      entry.nodeId = record.nodeId ∧ entry.revoked = false ∧
      after = { tables with federation := some (federation.setPeer entry) } := by
  obtain ⟨federation, domain, url, record, ⟨fed, entry⟩, _, _, introduces, recorded, rfl, _⟩ :=
    federationPeer_ok.mp done
  obtain ⟨rfl, _, same, _, live⟩ := introduce_ok recorded
  exact ⟨federation, domain, url, record, entry, introduces, same, live, rfl⟩

theorem Flagged.peer (flagged : Flagged nodeId tables)
    (other : ¬ Reintroduces node nodeId tables (network, .federationPeer request)) :
    Flagged nodeId (fedStep node tables (network, .federationPeer request)) := by
  dsimp only [fedStep]
  rcases settle_fst_cases tables (federationPeer node network tables request) with ⟨after, response, done, same⟩ | same
  · rw [same]
    obtain ⟨federation, domain, url, record, entry, introduces, named, _, rfl⟩ := federationPeer_writes done
    intro peer listed spelled
    obtain ⟨key, found⟩ := (peers_mem rfl).mp listed
    rcases Dict.get?_set_eq_some found with ⟨_, rfl⟩ | before
    · rw [named] at spelled
      exact absurd ⟨federation, domain, url, record, introduces, spelled⟩ other
    · exact flagged peer ((peers_mem introduces.configured).mpr ⟨key, before⟩) spelled
  · rwa [same]

theorem Flagged.revoke (flagged : Flagged nodeId tables) :
    Flagged nodeId (fedStep node tables (network, .federationRevoke request)) := by
  dsimp only [fedStep]
  rcases settle_fst_cases tables (federationRevoke node network tables request) with ⟨after, response, done, same⟩ | same
  · rw [same]
    obtain ⟨federation, other, configured, _, rfl⟩ := federationRevoke_ok done
    intro peer listed spelled
    obtain ⟨key, found⟩ := (peers_mem rfl).mp listed
    obtain ⟨before, known, named, kept⟩ := Federation.revoke_entry found
    rw [named] at spelled
    exact kept (.inr (flagged before ((peers_mem configured).mpr ⟨key, known⟩) spelled))
  · rwa [same]

theorem Flagged.step {event : Network × FedRequest} (flagged : Flagged nodeId tables)
    (closed : ¬ Reintroduces node nodeId tables event) : Flagged nodeId (fedStep node tables event) := by
  obtain ⟨network, request⟩ := event
  cases request with
  | federationPeer request => exact flagged.peer closed
  | federationRevoke request => exact flagged.revoke
  | a2aAccept request => exact flagged
  | toolRelay request => exact flagged

/-- An accepted revocation flags the entries that are spelled alike. -/
theorem SpelledAlike.flagged {response : Response} (alike : SpelledAlike nodeId tables)
    (done : federationRevoke node network tables request = .ok (after, response))
    (named : response.body.get "nodeId" = .ok (.str nodeId)) : Flagged nodeId after := by
  obtain ⟨federation, other, configured, told, rfl⟩ := federationRevoke_ok done
  rw [told] at named
  cases named
  intro peer listed spelled
  obtain ⟨key, found⟩ := (peers_mem rfl).mp listed
  obtain ⟨before, known, named, flags⟩ := Federation.revoke_entry found
  rw [named] at spelled
  exact flags (alike before ((peers_mem configured).mpr ⟨key, known⟩) spelled)

/-! ### Runs -/

def fedKillSwitch (node : Node) (nodeId : String) : KillSwitch Tables (Network × FedRequest) where
  step := fedStep node
  killed := Flagged nodeId
  served := Honours node nodeId
  reopens := Reintroduces node nodeId
  refuses := fun _ => Flagged.not_honours
  sticks := fun _ _ => Flagged.step

/-- After a revocation is accepted no ticket of the node is honoured throughout a
run, where the entries with its id are spelled as the revocation spells it and
nothing in the run introduces it again. -/
theorem revoked_never_honoured {response : Response}
    (done : federationRevoke node network tables request = .ok (after, response))
    (named : response.body.get "nodeId" = .ok (.str nodeId)) (alike : SpelledAlike nodeId tables)
    (events : List (Network × FedRequest))
    (closed : Meets (fedStep node) (fun tables event => ¬ Reintroduces node nodeId tables event) after events) :
    Always (fedStep node) (fun tables => ¬ Honours node nodeId tables) after events :=
  (fedKillSwitch node nodeId).never_served (alike.flagged done named) closed

end Runs

/-! ### A revoked node that introduces itself again -/

section Comeback

local instance comebackHost : Host := asciiHost []

def malloryDer : List Nat := [48, 3, 2, 1, 13]

def bankId : String := "0x71706dce5e09cfa4fc4e22be7a2abec106a043141a80831d1febfb014693558a"

def malloryId : String := "0x6071b7a35f525b4a957fd64000596904230cb6c5cc2ca8f48603f49aedc12763"

/-- The letters of the two addresses. -/
def bankAddress : List Nat :=
  [48, 120, 48, 51, 55, 54, 97, 97, 99, 48, 55, 97, 100, 55, 50, 53, 101, 48, 49, 51, 53, 55, 98, 49, 55, 50, 53, 98,
  53, 99, 101, 99, 54, 49, 97, 101, 49, 48, 52, 55, 51, 99]

def malloryAddress : List Nat :=
  [48, 120, 54, 51, 102, 57, 56, 102, 54, 101, 57, 99, 99, 48, 99, 97, 55, 50, 101, 57, 101, 56, 56, 100, 53, 53, 57,
  97, 49, 102, 101, 55, 48, 55, 48, 100, 48, 51, 97, 56, 54, 57]

/-- The hashes that the run asks for: of the certificate, of the addresses, and of
an empty path. -/
def hashes : List (List Nat × List Nat) :=
  [(malloryDer, [147, 60, 92, 149, 82, 210, 69, 86, 10, 100, 102, 49, 62, 215, 151, 42, 47, 66, 251, 221, 67, 35, 79,
    160, 65, 22, 212, 197, 216, 67, 174, 228]),
   (bankAddress, [113, 112, 109, 206, 94, 9, 207, 164, 252, 78, 34, 190, 122, 42, 190, 193, 6, 160, 67, 20, 26, 128,
    131, 29, 31, 235, 251, 1, 70, 147, 85, 138]),
   (malloryAddress, [96, 113, 183, 163, 95, 82, 91, 74, 149, 127, 214, 64, 0, 89, 105, 4, 35, 12, 182, 197, 204, 44,
    168, 244, 134, 3, 244, 154, 237, 193, 39, 99]),
   ([91, 93], [81, 134, 116, 171, 43, 34, 126, 95, 17, 233, 8, 79, 97, 93, 87, 102, 60, 222, 71, 188, 225, 186, 22,
    139, 76, 25, 199, 238, 34, 167, 61, 112])]

def malloryBinding : Identity.CertBinding where
  nodeId := .str malloryId
  certFootprint := .str "0x933c5c9552d245560a6466313ed7972a2f42fbdd43234fa04116d4c5d843aee4"
  sequence := .int 1
  notBefore := .int 0
  notAfter := .int 5000
  domain := .str "mallory.example"

def revocation : List (String × Json) :=
  [("subject", .str malloryId), ("issuer", .str bankId), ("issuedAt", .int 1000), ("reason", .str "compromised")]

def malloryTicket : Json :=
  .dict [("originNode", .str malloryId), ("originDomain", .str "mallory.example"), ("clusterId", .str ""),
    ("agentId", .int 7), ("chainId", .int 8453), ("footprint", .str "0xab"), ("assertedTier", .str "A1xH1"),
    ("audience", .str "self.example"), ("peer", .str ""), ("scope", .str "a2a:delegate/x"), ("task", .str ""),
    ("path", .str "0x518674ab2b227e5f11e9084f615d57663cde47bce1ba168b4c19c7ee22a73d70"), ("maxHops", .int 3),
    ("issuedAt", .int 1000), ("expiresAt", .int 1120), ("nonce", .str "n1")]

def bindingSignature : String :=
  "0xc2d5c87ca342679298b2327cc5f45a6d8eca75ee8fde2d94bbe483ff3bc037df78" ++
    "112edd86a7c8432943b40dd79cc731986531e83ba27bc7f93828540ec11f241c"

def revocationSignature : String :=
  "0xae7d383f484d481bbc1845ccf1088ae67ddcb5f5ec5e4f5178da1a9998a2256851" ++
    "659ab72b89517b7af023ca91ad28a59b2e482adf2b25c33953149da11781921b"

def ticketSignature : String :=
  "0x9655b83aec794bb8fbad34b222f6edbdd69268b815f246004afa6d1c73b73bb026" ++
    "5b4d6a00bd3595bc9ed37a6fbf7f14e437a77aa4543961448107e8110dd05d1c"

/-- A message, what is signed for it, its signature and the signer. -/
structure Signed where
  message : TypedData
  hash : List Nat
  signature : Signature
  signer : String

def signed : List Signed :=
  [{ message := malloryBinding.typed
     hash := [42, 92, 36, 62, 44, 174, 118, 37, 136, 172, 119, 20, 115, 233, 225, 65, 71, 252, 143, 69, 95, 236, 252, 220,
       36, 102, 61, 76, 206, 191, 81, 188]
     signature := .given (.str bindingSignature)
     signer := "0x63f98F6e9Cc0cA72E9e88d559A1fe7070d03A869" },
   { message := Identity.revocationTyped (.dict revocation)
     hash := [161, 84, 223, 33, 5, 110, 191, 203, 239, 236, 12, 191, 163, 211, 176, 173, 26, 238, 183, 230, 11, 52, 55, 205,
       135, 209, 58, 60, 53, 242, 131, 223]
     signature := .given (.str revocationSignature)
     signer := "0x0376AAc07Ad725E01357B1725B5ceC61aE10473c" },
   { message := typed malloryTicket
     hash := [147, 103, 6, 199, 171, 61, 245, 45, 205, 115, 30, 26, 131, 207, 210, 195, 122, 37, 35, 13, 128, 30, 60, 57,
       122, 30, 129, 59, 164, 37, 100, 2]
     signature := .bytes [150, 85, 184, 58, 236, 121, 75, 184, 251, 173, 52, 178, 34, 246, 237, 189, 214, 146, 104, 184, 21, 242, 70, 0,
       74, 250, 109, 28, 115, 183, 59, 176, 38, 91, 77, 106, 0, 189, 53, 149, 188, 158, 211, 122, 111, 191, 127, 20,
       228, 55, 167, 122, 164, 84, 57, 97, 68, 129, 7, 232, 17, 13, 208, 93, 28]
     signer := "0x63f98F6e9Cc0cA72E9e88d559A1fe7070d03A869" }]

/-- The packages, on what is asked of them here. -/
local instance comebackPackages : Packages where
  keccak := fun data => (hashes.lookup data).getD []
  encode := fun data =>
    match signed.find? (·.message = data) with
    | some known => .ok known.hash
    | none => raise (.package "ValidationError") ""
  recover := fun signable signature =>
    match signed.find? (fun known => known.hash = signable && known.signature = signature) with
    | some known => .ok known.signer
    | none => raise (.package "BadSignature") ""
  sign := fun _ _ => raise (.package "ValidationError") ""

def acceptingNode : Node where
  limits := false
  a2aAccept := true

def malloryRecord : Json :=
  .dict [("domain", .str "mallory.example"), ("node_id", .str malloryId), ("gateway_url", .str "https://mallory.example"),
    ("bindings", .dict [("current", .dict [("node_id", malloryBinding.nodeId),
      ("cert_footprint", malloryBinding.certFootprint), ("sequence", malloryBinding.sequence),
      ("not_before", malloryBinding.notBefore), ("not_after", malloryBinding.notAfter),
      ("domain", malloryBinding.domain), ("signature", .str bindingSignature)])])]

def internet : Network where
  now := 1000
  limiter := fun _ => { allowed := true }
  verifier := fun _ _ => raise (.package "ConnectError") ""
  resolve := fun _ => .ok ["93.184.216.34"]
  postUpstream := fun _ _ _ => raise (.package "ConnectError") ""
  postPeer := fun _ _ => raise (.package "ConnectError") ""
  getRecord := fun url _ =>
    if url = "https://mallory.example/.well-known/xcp-node.json" then .ok { bodyBytes := 700, document := .ok malloryRecord }
    else raise (.package "ConnectError") ""
  certificate := fun host _ => if host = "mallory.example" then .ok malloryDer else raise (.package "ConnectError") ""
  choose := fun _ => 0
  nonce := ""

def introduceMallory : HttpRequest where
  bodyBytes := 70
  body := .ok (.dict [("domain", .str "mallory.example"), ("gatewayUrl", .str "https://mallory.example")])

def revokeMallory : HttpRequest where
  bodyBytes := 400
  body := .ok (.dict [("from", .str "bank.example"),
    ("revocation", .dict (revocation ++ [("signature", .str revocationSignature)]))])

def delegation : HttpRequest where
  bodyBytes := 600
  body := .ok (.dict [("ticket", .dict [("origin_node", .str malloryId), ("origin_domain", .str "mallory.example"),
    ("agent_id", .int 7), ("chain_id", .int 8453), ("footprint", .str "0xab"), ("asserted_tier", .str "A1xH1"),
    ("audience", .str "self.example"), ("scope", .str "a2a:delegate/x"), ("issued_at", .int 1000),
    ("expires_at", .int 1120), ("nonce", .str "n1"), ("signature", .str ticketSignature)])])

/-- What their introductions left of both. -/
def introduced (domain nodeId : String) : Peer where
  domain := domain
  nodeId := .str nodeId
  gatewayUrl := .str ("https://" ++ domain)
  trust := .verified
  lastSeen := 900
  sequence := 1

def acquainted : Tables where
  registry := fun _ => none
  federation := some
    { selfDomain := "self.example", selfNodeId := "0x00",
      peers := { entries := [("bank.example", introduced "bank.example" bankId),
        ("mallory.example", introduced "mallory.example" malloryId)] } }

/-- What the node asks of a ticket that comes from a verified peer. -/
def asDestination : Destination where
  audience := "self.example"
  selfNodeId := "0x00"
  ceiling := acceptingNode.tierCeiling
  originIsPeer := true
  expectedClusterId := acceptingNode.cluster.clusterId
  now := now internet

/-- The ticket that the delegation carries. -/
def presentedTicket : Ticket where
  originNode := .str malloryId
  originDomain := .str "mallory.example"
  agentId := .int 7
  chainId := .int 8453
  footprint := .str "0xab"
  assertedTier := .str "A1xH1"
  audience := .str "self.example"
  scope := .str "a2a:delegate/x"
  issuedAt := .int 1000
  expiresAt := .int 1120
  nonce := .str "n1"
  signature := .str ticketSignature

theorem presentedTicket_read : (delegation.bodyOrEmpty >>= readTicket) = .ok presentedTicket := rfl

def ticketBytes : List Nat :=
  [150, 85, 184, 58, 236, 121, 75, 184, 251, 173, 52, 178, 34, 246, 237, 189, 214, 146, 104, 184, 21, 242, 70, 0, 74, 250,
  109, 28, 115, 183, 59, 176, 38, 91, 77, 106, 0, 189, 53, 149, 188, 158, 211, 122, 111, 191, 127, 20, 228, 55, 167, 122,
  164, 84, 57, 97, 68, 129, 7, 232, 17, 13, 208, 93, 28]

theorem ticketSignature_read : signatureBytes presentedTicket.signature = .ok ticketBytes := by
  have letters : ticketSignature = "0x" ++ toHex ticketBytes := by decide +kernel
  have carried : presentedTicket.signature = .str ("0x" ++ toHex ticketBytes) := congrArg Json.str letters
  rw [carried, signatureBytes]
  exact fromHex_toHex (by decide)

theorem presentedTicket_signed : signatureProblems presentedTicket = .ok [] := by
  have payload : presentedTicket.payload = .ok malloryTicket := by decide
  have recovered : recoverSigner presentedTicket = .ok "0x63f98F6e9Cc0cA72E9e88d559A1fe7070d03A869" := by
    rw [recoverSigner, payload, ok_bind, ticketSignature_read]
    decide
  rw [signatureProblems, recovered]
  decide

theorem delegation_good : (delegation.bodyOrEmpty >>= readTicket).toOption.any (fun ticket =>
    (admitTicket ticket asDestination .null).toOption.any Admission.admitted) = true := by
  have chain : asDestination.eip712ChainId = 8453 := rfl
  rw [presentedTicket_read, Except.toOption, Option.any_some, admitTicket, chain, presentedTicket_signed]
  decide

/-- The delegation is taken wherever its origin is a verified peer. -/
theorem delegation_accepted {tables : Tables} {federation : Federation} (configured : tables.federation = some federation)
    (self : federation.selfDomain = "self.example" ∧ federation.selfNodeId = "0x00")
    (known : (delegation.bodyOrEmpty >>= readTicket).toOption.any (fun ticket =>
      (originIsPeer federation ticket).toOption = some true) = true) :
    ∃ response, a2aAccept acceptingNode internet tables delegation = .ok response := by
  obtain ⟨ticket, read, isPeer⟩ := ok_of_any known
  have isPeer : originIsPeer federation ticket = .ok true := toOption_eq_some.mp (of_decide_eq_true isPeer)
  have good := delegation_good
  rw [read] at good
  obtain ⟨decision, decided, admitted⟩ := ok_of_any (show (admitTicket ticket asDestination .null).toOption.any Admission.admitted = true from good)
  have judged : decideTicket acceptingNode internet federation ticket .null = .ok decision := by
    rw [decideTicket, isPeer, self.1, self.2]
    exact decided
  obtain ⟨body, given, parsed⟩ := (bind_eq_ok ..).mp read
  have task : body.get "task" = .ok .null := by
    cases given
    rfl
  simp only [a2aAccept, configured, bind_eq_ok, require_eq_ok, attempt_eq_ok, mapError_eq_ok, pure_eq_ok]
  exact ⟨_, (), rfl, (), rfl, body, given, ticket, parsed, .null, task, decision, judged, (), admitted, rfl⟩

theorem revoked_and_back :
    (federationRevoke acceptingNode internet acquainted revokeMallory).toOption.any (fun done =>
      done.2.body.get "nodeId" = .ok (.str malloryId) &&
        (fedStep acceptingNode done.1 (internet, .federationPeer introduceMallory)).federation.any (fun federation =>
          (federation.selfDomain = "self.example" && federation.selfNodeId = "0x00") &&
            (delegation.bodyOrEmpty >>= readTicket).toOption.any (fun ticket =>
              (originIsPeer federation ticket).toOption = some true))) = true := by
  decide +kernel

theorem delegation_of_mallory : NamesOrigin malloryId delegation := by
  have named : (delegation.bodyOrEmpty >>= readTicket).toOption.any (fun ticket =>
      ticket.originNode.lower = .ok (lower malloryId)) = true := by
    decide
  obtain ⟨ticket, read, spelled⟩ := ok_of_any named
  obtain ⟨body, given, parsed⟩ := (bind_eq_ok ..).mp read
  exact ⟨body, ticket, given, parsed, of_decide_eq_true spelled⟩

theorem mallory_revoked :
    ∃ after response, federationRevoke acceptingNode internet acquainted revokeMallory = .ok (after, response) ∧
      response.body.get "nodeId" = .ok (.str malloryId) ∧
      ∃ admitted, a2aAccept acceptingNode internet
        (fedStep acceptingNode after (internet, .federationPeer introduceMallory)) delegation = .ok admitted := by
  obtain ⟨⟨after, response⟩, done, back⟩ := ok_of_any revoked_and_back
  obtain ⟨named, again⟩ := (Bool.and_eq_true ..).mp back
  obtain ⟨federation, configured, again⟩ := (Option.any_eq_true ..).mp again
  obtain ⟨self, known⟩ := (Bool.and_eq_true ..).mp again
  obtain ⟨domain, nodeId⟩ := (Bool.and_eq_true ..).mp self
  exact ⟨after, response, done, of_decide_eq_true named,
    delegation_accepted configured ⟨of_decide_eq_true domain, of_decide_eq_true nodeId⟩ known⟩

theorem acquainted_alike : SpelledAlike malloryId acquainted := by
  have alike : ∀ peer ∈ acquainted.peers, peer.nodeId = .str malloryId ∨ peer.nodeId.lower ≠ .ok (lower malloryId) := by
    decide
  intro peer member spelled
  exact (alike peer member).imp id (fun other => absurd spelled other)

theorem revoked_never_honoured_mallory :
    ∃ after response, federationRevoke acceptingNode internet acquainted revokeMallory = .ok (after, response) ∧
      Always (fedStep acceptingNode) (fun tables => ¬ Honours acceptingNode malloryId tables) after
        [(internet, .a2aAccept delegation)] := by
  obtain ⟨after, response, done, named, _⟩ := mallory_revoked
  exact ⟨after, response, done, revoked_never_honoured done named acquainted_alike _ ⟨id, trivial⟩⟩

/-- The revoked node introduces itself again, and its ticket is admitted. -/
theorem revoked_honoured_again :
    ∃ after response, federationRevoke acceptingNode internet acquainted revokeMallory = .ok (after, response) ∧
      response.body.get "nodeId" = .ok (.str malloryId) ∧
      ¬ Always (fedStep acceptingNode) (fun tables => ¬ Honours acceptingNode malloryId tables) after
        [(internet, .federationPeer introduceMallory)] := by
  obtain ⟨after, response, done, named, admitted⟩ := mallory_revoked
  refine ⟨after, response, done, named, ?_⟩
  intro ⟨_, never⟩
  exact never ⟨internet, delegation, delegation_of_mallory, .inl admitted⟩

end Comeback

end Xcp.Gateway
