import Xcp.Proofs.ClusterPeers
import Xcp.Proofs.GatedRecords
import Xcp.Proofs.OwnRecords

/-! Members of a closed cluster peer with each other. A member's proof goes through the
header to the node that gates its record, that serves it whole, and what was served is
recorded as a verified peer. -/

namespace Xcp.Cluster
open Checked Python Eth Identity
open Delegation (BoundedEncoding RecoversBytes)

section Access
variable [Host] [Packages]

/-- What a member signs for an audience. -/
structure Presents (claim : MembershipClaim) (audience : String) (now : Int) (address : String) (access : AccessRequest) :
    Prop where
  own : access.claim = claim
  audience : access.audience = lower (strip audience)
  issuedAt : access.issuedAt = now
  expiresAt : access.expiresAt = now + accessTtl
  filled : access.signature ≠ ""
  signer : access.signer = .ok address
  printed : prints claim.epoch = true ∧ prints access.issuedAt = true ∧ prints access.expiresAt = true

theorem signAccessRequest_presents [Accounts] (recovers : RecoversBytes) (bounded : BoundedEncoding) {nodeKey address audience : String}
    {claim : MembershipClaim} {now : Int} {access : AccessRequest} (keyed : Accounts.address nodeKey = .ok address)
    (made : signAccessRequest nodeKey claim audience now = .ok access) : Presents claim audience now address access := by
  unfold signAccessRequest at made
  split at made
  · cases made
  next =>
    simp only [bind_eq_ok, pure_eq_ok] at made
    obtain ⟨signable, encoded, signature, signed, rfl⟩ := made
    obtain ⟨small, recovered⟩ := recovers nodeKey address signable signature keyed signed
    have unsigned : startsWith "uint64" "uint" = true := by decide
    have number (name : String) {value : Int} (listed : (name, "uint64") ∈ [("clusterId", "string"), ("nodeId", "string"),
        ("epoch", "uint64"), ("proofRoot", "string"), ("audience", "string"), ("issuedAt", "uint64"), ("expiresAt", "uint64")])
        (held : (AccessRequest.mk claim (lower (strip audience)) now (now + accessTtl) "").typed.message.item name =
          .ok (.int value)) : prints value = true := by
      obtain ⟨natural, fits⟩ := bounded _ signable encoded (name, "uint64") listed unsigned value held
      exact prints_of_word natural fits
    refine { own := rfl, audience := rfl, issuedAt := rfl, expiresAt := rfl, filled := ?_, signer := ?_, printed := ?_ }
    · simp
    · have encoded' : Packages.encode (AccessRequest.mk claim (lower (strip audience)) now (now + accessTtl)
          ("0x" ++ toHex signature)).typed = .ok signable := encoded
      rw [AccessRequest.signer, encoded', ok_bind, fromHex_toHex small, ok_bind, recovered]
    · exact ⟨number "epoch" (by simp) rfl, number "issuedAt" (by simp) rfl, number "expiresAt" (by simp) rfl⟩

namespace Presents
variable {claim : MembershipClaim} {audience address : String} {now : Int} {access : AccessRequest}
  (presents : Presents claim audience now address access)
include presents

theorem plain : access.toDict.plain = true := by
  obtain ⟨epoch, issued, expires⟩ := presents.printed
  have claim_eq := presents.own
  simp only [AccessRequest.toDict, MembershipClaim.toDict, claim_eq, Json.plain, plainMembers, plainItems_eq_all, epoch, issued,
    expires]
  simp [Json.plain]

/-- The claim of the request is that of its signer, for the audience, as long as it lasts. -/
theorem verifies {members : MemberSet} {root : String} {epoch : Int} (handed : Handed members root epoch claim)
    (own : lower (nodeIdFromAddress address) = lower claim.nodeId) {domain : String}
    (asked : lower (lower (strip audience)) = lower (strip domain)) {later : Int} (begun : now ≤ later + 5)
    (lasts : later ≤ now + accessTtl) (open_ : Bool) :
    verifyAccessRequest ⟨members.clusterId, root, epoch, open_⟩ access domain later accessTtl = .ok [] := by
  apply verifyAccessRequest_nil.mpr
  refine ⟨?_, ⟨?_, ?_, ?_⟩, ?_, ?_⟩
  · rw [presents.audience, asked]
  · rw [presents.issuedAt]
    exact begun
  · rw [presents.expiresAt]
    exact lasts
  · rw [presents.expiresAt, presents.issuedAt]
    omega
  · rw [presents.own]
    exact handed.verifies open_ "" (.inl rfl)
  · rw [AccessRequest.signatureProblems, if_neg presents.filled, presents.signer, presents.own]
    simp [own]

end Presents

end Access

end Xcp.Cluster

namespace Xcp.Gateway
open Checked Python Http Eth Cluster Identity

/-! ### Peering -/

section Peering
variable [Host] [Packages] [JsonDecoder]

/-- A gated node serves its whole record to the request of a member. -/
theorem servedRecord_whole {node : Node} {published : Published} {world : World} {client : String} {bytes : Json → Nat}
    {record : PublishedRecord} {charter : Charter} {access : AccessRequest} (publishes : published.record = some record)
    (holds : node.cluster.charter = some charter) (closed : charter.open_ = false) (gates : published.recordPublic = false)
    (metered : fedLimit node world (recordRequest client (some access.toDict)) "record" = .ok ())
    (carried : readAccess (encodeAccess access.toDict) = .ok access)
    (filled : encodeAccess access.toDict ≠ "")
    (verified : verifyAccessRequest charter access published.domain (truncate world.now) accessTtl = .ok []) :
    servedRecord node published world client bytes (some access.toDict) =
      { status := 200, bodyBytes := bytes record.toDict.sorted, document := .ok record.toDict.sorted } := by
  have gated : recordIsGated node published = true := by
    simp [recordIsGated, Posture.closed, holds, closed, gates]
  have header : (recordRequest client (some access.toDict)).header "xcp-cluster-access" = encodeAccess access.toDict := rfl
  have proves : provesMembership node published (truncate world.now) (encodeAccess access.toDict) = .ok true := by
    rw [provesMembership, holds]
    simp only [if_neg filled, carried, verified, ok_bind]
    rfl
  have served : nodeRecord node published world (recordRequest client (some access.toDict)) =
      .ok { body := record.toDict.sorted } := by
    rw [nodeRecord_gated gated publishes, metered, ok_bind, header, proves]
    rfl
  rw [servedRecord, served]
  rfl

/-- A gateway with the claim of a member in a closed cluster, whose key it has. -/
structure Station [Accounts] (members : MemberSet) (root : String) (epoch : Int) (node : Node) (nodeKey address : String)
    (claim : MembershipClaim) : Prop where
  handed : Handed members root epoch claim
  cluster : node.cluster = { charter := some ⟨members.clusterId, root, epoch, false⟩, claim := some claim }
  keyed : Accounts.address nodeKey = .ok address
  own : lower claim.nodeId = lower (nodeIdFromAddress address)

/-- What is asked of the two gateways and of what is between them. -/
structure Reaches (guest host : Node) (network : Network) (world : World) (tables : Tables) (request : HttpRequest)
    (settings : NodeSettings) (published : Published) (federation : Federation) (domain url client : String) (bytes : Json → Nat)
    (record : PublishedRecord) (access : AccessRequest) (der : List Nat) (start : Int) : Prop where
  /-- The guest is asked for the host's domain, within its limits. -/
  configured : tables.federation = some federation
  asked : (request.bodyOrEmpty >>= readPeering) = .ok (domain, url)
  metered : fedLimit guest network.toWorld request "peer" = .ok ()
  known : federation.knownSequence domain ≤ 1
  named : domain ≠ "" ∧ domain = lower settings.domain ∧ strip domain = domain
  https : startsWith url "https://" = true
  permitted : Egress.checkUrl guest.egress network.resolve url = .ok ()
  /-- The guest signs, and the host answers, in time. -/
  signed : signAccessRequest guest.nodeKey access.claim domain (now network) = .ok access
  begun : now network ≤ truncate world.now + 5
  lasts : truncate world.now ≤ now network + accessTtl
  /-- The host gates its record and serves it with its certificate. -/
  publishes : published.record = some record ∧ published.domain = settings.domain ∧ published.recordPublic = false
  budget : fedLimit host world (recordRequest client (some access.toDict)) "record" = .ok ()
  fetched : network.getRecord (recordUrl url) (some access.toDict) =
    .ok (servedRecord host published world client bytes (some access.toDict))
  size : 0 < bytes record.toDict.sorted ∧ bytes record.toDict.sorted ≤ maxRecordBytes
  certified : peerCertificateDer network url = .ok der
  presented : lower settings.certFootprint = lower (digest der)
  /-- The domain is a bare one, and the host's URL is one for TLS. -/
  bare : settings.domain ≠ "" ∧ contains settings.domain '/' = false ∧ strip settings.domain = settings.domain
  url : settings.url = "" ∨ startsWith settings.url "https://" = true
  active : (settings.renewal start).ActiveAt (now network) 0

section Stations
variable [Accounts] {members : MemberSet} {root guestAddress hostAddress : String} {epoch : Int} {guest host : Node}
  {guestClaim hostClaim : MembershipClaim} {network : Network} {world : World} {tables : Tables} {request : HttpRequest}
  {settings : NodeSettings} {published : Published} {federation : Federation} {domain url client : String} {bytes : Json → Nat}
  {record : PublishedRecord} {access : AccessRequest} {der : List Nat} {start : Int}
  (reaches : Reaches guest host network world tables request settings published federation domain url client bytes record access
    der start)
include reaches

theorem Reaches.minted (guestStation : Station members root epoch guest guest.nodeKey guestAddress guestClaim)
    (own : access.claim = guestClaim) (keyed : guest.nodeKey ≠ "") : mintAccess guest network domain = some access.toDict := by
  have signed := reaches.signed
  rw [own] at signed
  simp only [mintAccess, guestStation.cluster, if_neg keyed, signed]
  rfl

/-- What the guest fetches is the whole record of the host. -/
theorem Reaches.fetches (reads : ReadsPlain headerStyle) (recovers : Delegation.RecoversBytes) (bounded : Delegation.BoundedEncoding)
    (guestStation : Station members root epoch guest guest.nodeKey guestAddress guestClaim)
    (hostStation : Station members root epoch host settings.nodeKey hostAddress hostClaim) (own : access.claim = guestClaim)
    (keyed : guest.nodeKey ≠ "") {nodeId : String} {bindings : BindingSet} {read : NodeRecord}
    (reading : OwnRead settings nodeId bindings record read) : fetchRecord guest network domain url = .ok read := by
  have signed := reaches.signed
  rw [own] at signed
  have presents := signAccessRequest_presents recovers bounded guestStation.keyed signed
  have asked : lower (lower (strip domain)) = lower (strip published.domain) := by
    rw [reaches.publishes.2.1, reaches.bare.2.2, reaches.named.2.2, Host.lower_lower, reaches.named.2.1, Host.lower_lower]
  have verified := presents.verifies guestStation.handed guestStation.own.symm asked reaches.begun reaches.lasts false
  have holds : host.cluster.charter = some ⟨members.clusterId, root, epoch, false⟩ := by rw [hostStation.cluster]
  have fetched := reaches.fetched
  rw [servedRecord_whole reaches.publishes.1 holds rfl reaches.publishes.2.2 reaches.budget
    (readAccess_encodeAccess reads presents.plain) (encodeAccess_filled access) verified] at fetched
  have got : fetchNodeRecord network url (some access.toDict) =
      .ok { status := 200, bodyBytes := bytes record.toDict.sorted, document := .ok record.toDict.sorted } := by
    rw [fetchNodeRecord, fetched]
    simp [Except.mapError, ok_bind, reaches.size.2, require]
  have ungated : record.toDict.sorted.get "gated" = .ok .null := get_sorted record.names_distinct "gated"
  have named : record.toDict.sorted.get "node_id" = .ok (.str record.nodeId) := get_sorted record.names_distinct "node_id"
  have cluster : record.toDict.sorted.get "cluster_id" = .ok (.str record.clusterId) := get_sorted record.names_distinct "cluster_id"
  have sized : bytes record.toDict.sorted ≠ 0 := reaches.size.1.ne'
  simp only [fetchRecord, reaches.minted guestStation own keyed, got, orUnreadable, Except.mapError, ok_bind, require, sized,
    if_false, ungated, named, cluster, reading.parsed]
  simp [Json.truthy, ok_bind]

omit reaches [JsonDecoder] in
/-- The guest's charter accepts the claim in the host's record. -/
theorem hostClaim_accepted {identity : NodeIdentity} {bindings : BindingSet}
    (guestStation : Station members root epoch guest guest.nodeKey guestAddress guestClaim)
    (hostStation : Station members root epoch host settings.nodeKey hostAddress hostClaim)
    (own : Own settings host.cluster start identity bindings record) {read : NodeRecord}
    (reading : OwnRead settings identity.nodeId bindings record read) :
    identity.nodeId = nodeIdFromAddress hostAddress ∧ clusterMember guest read = .ok (.str hostClaim.clusterId) := by
  have address : identity.address = hostAddress := by
    have known := own.known
    simp only [NodeIdentity.fromKey, hostStation.keyed, ok_bind, pure_eq_ok] at known
    rw [← known]
  have nodeId : identity.nodeId = nodeIdFromAddress hostAddress := by rw [NodeIdentity.nodeId, address]
  refine ⟨nodeId, ?_⟩
  have claimed : read.membership = hostClaim.toDict.sorted := by
    rw [reading.membership, own.membership, hostStation.cluster]
    rfl
  have filled : hostClaim.toDict.sorted.truthy = true := sorted_truthy (List.cons_ne_nil _ _)
  have verified := hostStation.handed.verifies false identity.nodeId (.inr (by rw [hostStation.own, nodeId]))
  have charter : guest.cluster.charter.filter (fun charter => !charter.open_) =
      some ⟨members.clusterId, root, epoch, false⟩ := by
    rw [guestStation.cluster]
    rfl
  simp only [clusterMember, charter, claimed, filled, require, if_true, ok_bind, claim_read_sorted, Except.mapError,
    reading.nodeId, verified, attempt]
  rfl

/-- The guest records the host, whatever it has been told of it before. -/
theorem Reaches.peers (sized : SizedHash) (reads : ReadsPlain headerStyle) (recovers : Delegation.RecoversBytes)
    (bounded : Delegation.BoundedEncoding)
    (guestStation : Station members root epoch guest guest.nodeKey guestAddress guestClaim)
    (hostStation : Station members root epoch host settings.nodeKey hostAddress hostClaim) (own : access.claim = guestClaim)
    (keyed : guest.nodeKey ≠ "") {identity : NodeIdentity} {bindings : BindingSet}
    (made : Own settings host.cluster start identity bindings record) :
    ∃ after response peer, federationPeer guest network tables request = .ok (after, response) ∧
      after.federation.bind (fun federation => federation.peers.get? domain) = some peer ∧
      peer.nodeId = .str (nodeIdFromAddress hostAddress) ∧ peer.trust = .verified ∧ peer.revoked = false ∧
      response.body.get "clusterMember" = .ok (.str hostClaim.clusterId) := by
  obtain ⟨read, reading⟩ := made.reads
  obtain ⟨nodeId, member⟩ := hostClaim_accepted guestStation hostStation made reading
  have still : lower domain = domain := by rw [reaches.named.2.1, Host.lower_lower]
  have known : ((federation.peers.get? domain).map Peer.sequence).getD 0 = federation.knownSequence domain := by
    rw [Federation.knownSequence, Federation.peer?, still]
  have bound : recordProblems network federation domain url read = .ok [] := by
    rw [recordProblems, reaches.certified, ok_bind, known]
    exact made.verifies reading sized ⟨reaches.bare.1, reaches.bare.2.1⟩ reaches.url (by rw [still, reaches.named.2.1])
      reaches.presented reaches.active reaches.known
  obtain ⟨items, serves⟩ := reading.serves
  obtain ⟨listed, list⟩ : ∃ listed, (read.serves.orElse (.list [])).toList = .ok listed := by
    rw [serves]
    cases items <;> exact ⟨_, rfl⟩
  have fresh (new : Introduction) (same : new.domain = domain) (first : new.sequence = 1) : federation.replayed new = false := by
    have least := reaches.known
    simp [Federation.replayed, same, first, least]
  have recorded : ∃ both, introduce network federation domain read = .ok both := by
    rw [introduce, made.sequence reading, ok_bind, list, ok_bind, Federation.addVerifiedPeer, require_true _ (fresh _ rfl rfl)]
    exact ⟨_, rfl⟩
  have introduces : Introduces guest network tables request federation domain url read := {
    configured := reaches.configured
    metered := reaches.metered
    asked := reaches.asked
    named := by
      refine ⟨reaches.named.1, ?_⟩
      rintro rfl
      exact absurd reaches.https (by decide)
    permitted := reaches.permitted
    served := reaches.fetches reads recovers bounded guestStation hostStation own keyed reading
    claims := by
      rw [reading.domain, reaches.named.2.1]
      rfl
    compatible := Own.compatible reading
    bound := by
      rw [if_pos reaches.https]
      exact bound
    member := ⟨_, member⟩
    recorded }
  obtain ⟨⟨after, peer⟩, recorded⟩ := recorded
  obtain ⟨rfl, keyed', named, trust, revoked⟩ := introduce_ok recorded
  obtain ⟨tlsVerified, checked⟩ := (bindRecord_ok guest network).mpr introduces.bound
  obtain ⟨response, answered, told⟩ : ∃ response,
      peered (federation.peers.get? domain) read peer tlsVerified (.str hostClaim.clusterId) = .ok response ∧
        response.body.get "clusterMember" = .ok (.str hostClaim.clusterId) := by
    rw [peered, made.sequence reading]
    exact ⟨_, rfl, rfl⟩
  have done := federationPeer_ok.mpr
    ⟨federation, domain, url, read, _, tlsVerified, _, introduces, recorded, rfl, checked, member, answered⟩
  refine ⟨_, response, peer, done, ?_, ?_, trust, revoked, told⟩
  · simp [Federation.setPeer, keyed', still]
  · rw [named, reading.nodeId, nodeId]

end Stations

/-- A gateway that starts with the charter and a claim of an issue, under its own key. -/
structure Starts [Accounts] (charter : ClusterCharter) (claims : List MembershipClaim) (node : Node) (nodeKey address : String)
    (claim : MembershipClaim) : Prop where
  handed : claim ∈ claims
  keyed : Accounts.address nodeKey = .ok address
  started : ∃ env files begun, Equipped env files charter claim ∧
    startCluster env files (some (nodeIdFromAddress address)) begun = .ok node.cluster

omit [JsonDecoder] in
theorem Starts.station [Accounts] {authorityKey root authority nodeKey address : String} {members : MemberSet} {args : IssueArgs}
    {signedAt : Int} {charter : ClusterCharter} {claims : List MembershipClaim} {node : Node} {claim : MembershipClaim}
    (recovers : Delegation.RecoversBytes) (signed : Cluster.Signed authorityKey members args.terms signedAt root authority charter)
    (formed : normalise root = .ok root) (closed : args.terms.open_ = false)
    (handed : ∀ claim ∈ claims, Handed members root args.terms.epoch claim)
    (starts : Starts charter claims node nodeKey address claim) :
    Station members root args.terms.epoch node nodeKey address claim := by
  obtain ⟨env, files, begun, equipped, started⟩ := starts.started
  obtain ⟨fits, cluster⟩ := (startCluster_iff recovers signed formed (handed claim starts.handed) equipped _ _ _).mp started
  rw [closed] at cluster
  exact ⟨handed claim starts.handed, cluster, starts.keyed, fits.own _ rfl⟩

/-- Any two members of a closed cluster that are started with what was issued to them peer
with each other: the guest's proof gets it the gated record of the host, which it verifies
and records. -/
theorem members_peer [Accounts] {authorityKey guestAddress hostAddress : String} {args : IssueArgs} {tokenBytes : Nat → List Nat}
    {members : MemberSet} {signedAt checkedAt : Int} {charter : ClusterCharter} {claims : List MembershipClaim} {guest host : Node}
    {guestClaim hostClaim : MembershipClaim} {settings : NodeSettings} {network : Network} {world : World} {tables : Tables}
    {request : HttpRequest} {published : Published} {federation : Federation} {domain url client site : String}
    {serves : List String} {bytes : Json → Nat} {record : PublishedRecord} {access : AccessRequest} {der : List Nat} {start : Int}
    (ascii : LowersAscii) (sized : SizedHash) (reads : ReadsPlain headerStyle) (recovers : Delegation.RecoversBytes)
    (recoversGiven : Stateless.RecoversSigner) (bounded : Delegation.BoundedEncoding) (accepted : args.Accepted tokenBytes members)
    (signed : signCharter authorityKey members args.terms signedAt = .ok charter) (begun : signedAt ≤ checkedAt)
    (lasts : checkedAt ≤ signedAt + args.terms.ttl) (closed : args.terms.open_ = false)
    (issued : issue authorityKey args tokenBytes signedAt checkedAt = .ok ⟨charter, members, claims⟩)
    (guestStarts : Starts charter claims guest guest.nodeKey guestAddress guestClaim)
    (hostStarts : Starts charter claims host settings.nodeKey hostAddress hostClaim)
    (made : ownRecord settings host.cluster site serves start = .ok record) (keyed : guest.nodeKey ≠ "")
    (own : access.claim = guestClaim)
    (reaches : Reaches guest host network world tables request settings published federation domain url client bytes record access
      der start) :
    ∃ after response peer, federationPeer guest network tables request = .ok (after, response) ∧
      after.federation.bind (fun federation => federation.peers.get? domain) = some peer ∧
      peer.nodeId = .str (nodeIdFromAddress hostAddress) ∧ peer.trust = .verified ∧ peer.revoked = false ∧
      response.body.get "clusterMember" = .ok (.str hostClaim.clusterId) := by
  obtain ⟨root, authority, charterSigned⟩ := signCharter_signed signed
  have formed := root_formed ascii sized (accepted.formed ascii).2 charterSigned.rooted
  obtain ⟨others, _, again, _, handed⟩ := issue_ok ascii sized recovers charterSigned accepted signed begun lasts
  obtain rfl : others = claims := congrArg Issued.claims (Except.ok.inj (again.symm.trans issued))
  obtain ⟨identity, bindings, publishes⟩ := ownRecord_own recoversGiven made
  exact reaches.peers sized reads recovers bounded (guestStarts.station recovers charterSigned formed closed handed)
    (hostStarts.station recovers charterSigned formed closed handed) own keyed publishes

end Peering

/-! ### The second member peers with the first one -/

section Joint

attribute [local instance] accessHost jointPackages jointAccounts jointDecoder

def bankSettings : NodeSettings where
  nodeKey := bankKey
  domain := "bank.example"
  certFootprint := "0x" ++ toHex certHash

def bankPublished (record : PublishedRecord) : Published where
  record := some record
  domain := "bank.example"

def bankNetwork (record : PublishedRecord) : Network :=
  { jointNetwork with
    getRecord := fun _ access =>
      .ok (servedRecord aliceNode (bankPublished record) jointWorld "203.0.113.7" (fun _ => 2000) access) }

theorem joint_checked {claim : MembershipClaim} (either : claim = aliceJoint ∨ claim = bobJoint) :
    checkedClaim jointCharter jointMembers 1 claim.nodeId = .ok claim := by
  obtain ⟨root, address, signed⟩ := signCharter_signed joint_signed
  obtain ⟨member, issued⟩ := joint_claims either
  obtain ⟨own, checked, _⟩ := checkedClaim_ok (asciiHost_lowersAscii []) joint_sound.sizedHash signed
    (joint_accepted.formed (asciiHost_lowersAscii [])).2 member
  simp only [checkedClaim, bind_eq_ok] at checked ⊢
  obtain ⟨made, issued', held, judged, problems, verified, returned⟩ := checked
  obtain rfl : made = claim := Except.ok.inj (issued'.symm.trans issued)
  refine ⟨made, issued, held, judged, problems, verified, ?_⟩
  cases problems with
  | nil => rfl
  | cons problem rest => cases returned

theorem joint_issued : issue jointKey jointArgs (fun _ => padding) 1000 1000 =
    .ok ⟨jointCharter, jointMembers, [aliceJoint, bobJoint]⟩ := by
  obtain ⟨root, address, signed⟩ := signCharter_signed joint_signed
  obtain ⟨claims, checked, issued, _⟩ := issue_ok (asciiHost_lowersAscii []) joint_sound.sizedHash joint_recovers signed
    joint_accepted joint_signed le_rfl (by decide)
  have both : jointMembers.nodeIds.mapM (checkedClaim jointCharter jointMembers 1) = .ok [aliceJoint, bobJoint] := by
    have alice : checkedClaim jointCharter jointMembers 1 aliceJoint.nodeId = .ok aliceJoint := joint_checked (.inl rfl)
    have bob : checkedClaim jointCharter jointMembers 1 bobJoint.nodeId = .ok bobJoint := joint_checked (.inr rfl)
    change [aliceJoint.nodeId, bobJoint.nodeId].mapM _ = _
    rw [List.mapM_cons, List.mapM_cons, alice, bob]
    rfl
  have same : claims = [aliceJoint, bobJoint] := Except.ok.inj (checked.symm.trans both)
  rw [issued, same]

theorem bank_record : ∃ record, ownRecord bankSettings aliceNode.cluster "" [] 1500 = .ok record := by
  have made : (ownRecord bankSettings aliceNode.cluster "" [] 1500).toOption.isSome = true := by
    decide
  obtain ⟨record, found⟩ := Option.isSome_iff_exists.mp made
  exact ⟨record, toOption_eq_some.mp found⟩

theorem bank_permitted : Egress.checkUrl bobNode.egress jointNetwork.resolve "https://bank.example" = .ok () := by
  decide

theorem bob_signs : signAccessRequest bobKey bobJoint "bank.example" (now jointNetwork) = .ok bobRequest := by
  have plain : lower (strip "bank.example") = "bank.example" := by decide
  have read : now jointNetwork = 2000 := by decide
  have member : requestSigned ∈ jointMessages := .tail _ (.head _)
  have typed : unsignedRequest.typed = requestSigned.message := by rfl
  have signed : Packages.sign requestSigned.hash bobKey = .ok requestSigned.signature := joint_sound.signs member
  have encoded := joint_sound.encodes member
  rw [← typed] at encoded
  rw [signAccessRequest, if_neg (by decide), plain, read]
  simp only [show (2000 : Int) + accessTtl = 2060 from rfl]
  rw [show (AccessRequest.mk bobJoint "bank.example" 2000 2060 "") = unsignedRequest from rfl, encoded, ok_bind, signed]
  rfl

theorem bank_in_time : now jointNetwork ≤ truncate jointWorld.now + 5 ∧ truncate jointWorld.now ≤ now jointNetwork + accessTtl ∧
    (bankSettings.renewal 1500).ActiveAt (now jointNetwork) 0 := by
  unfold Renewal.ActiveAt
  decide

theorem bank_presents : bankSettings.certFootprint = digest [48, 3, 2, 1, 13] := by
  have hash : Packages.keccak [48, 3, 2, 1, 13] = certHash := by decide
  rw [digest, hash]
  rfl

theorem bank_certified : peerCertificateDer jointNetwork "https://bank.example" = .ok [48, 3, 2, 1, 13] := by
  decide

theorem bob_reaches (record : PublishedRecord) : Reaches bobNode aliceNode (bankNetwork record) jointWorld bobTables introduceAlice
    bankSettings (bankPublished record) { selfDomain := "shop.example", selfNodeId := bobId } "bank.example" "https://bank.example"
    "203.0.113.7" (fun _ => 2000) record bobRequest [48, 3, 2, 1, 13] 1500 where
  configured := rfl
  asked := rfl
  metered := rfl
  known := by decide
  named := by decide
  https := by decide
  permitted := bank_permitted
  signed := bob_signs
  begun := bank_in_time.1
  lasts := bank_in_time.2.1
  publishes := ⟨rfl, rfl, rfl⟩
  budget := rfl
  fetched := rfl
  size := by decide
  certified := bank_certified
  presented := congrArg lower bank_presents
  bare := by decide
  url := .inl rfl
  active := bank_in_time.2.2

theorem joint_equipped (claim : MembershipClaim) : Equipped jointEnv (jointFiles claim) jointCharter claim where
  charterPath := by decide
  charterFile := rfl
  claimPath := by decide
  claimFile := rfl

theorem bob_starts : Starts jointCharter [aliceJoint, bobJoint] bobNode bobNode.nodeKey requestSigned.signer bobJoint where
  handed := .tail _ (.head _)
  keyed := address_keyedAccounts joint_sound.owners (.tail _ (.head _) : requestSigned ∈ jointMessages)
  started := by
    have own : nodeIdFromAddress requestSigned.signer = bobJoint.nodeId := by
      rw [nodeIdFromAddress, bob_letters]
      rfl
    rw [own]
    exact ⟨jointEnv, jointFiles bobJoint, 1000, joint_equipped bobJoint, joint_started (.inr rfl)⟩

theorem alice_starts : Starts jointCharter [aliceJoint, bobJoint] aliceNode bankSettings.nodeKey bindingSigned.signer aliceJoint where
  handed := .head _
  keyed := address_keyedAccounts joint_sound.owners (.tail _ (.tail _ (.head _)) : bindingSigned ∈ jointMessages)
  started := by
    have own : nodeIdFromAddress bindingSigned.signer = aliceJoint.nodeId := by
      have letters : utf8 (lower bindingSigned.signer) = aliceAddress := alice_letters
      rw [nodeIdFromAddress, letters]
      rfl
    rw [own]
    exact ⟨jointEnv, jointFiles aliceJoint, 1000, joint_equipped aliceJoint, joint_started (.inl rfl)⟩

theorem second_peers_with_first : ∃ record after response peer, ownRecord bankSettings aliceNode.cluster "" [] 1500 = .ok record ∧
    federationPeer bobNode (bankNetwork record) bobTables introduceAlice = .ok (after, response) ∧
    after.federation.bind (fun federation => federation.peers.get? "bank.example") = some peer ∧
    peer.nodeId = .str (nodeIdFromAddress bindingSigned.signer) ∧ peer.trust = .verified ∧ peer.revoked = false ∧
    response.body.get "clusterMember" = .ok (.str aliceJoint.clusterId) := by
  obtain ⟨record, made⟩ := bank_record
  have given : Stateless.RecoversSigner := fun _ _ _ _ known made => (joint_sound.recover_signed known made).2.2
  have bounded : Delegation.BoundedEncoding := by
    intro data signable encoded field member unsigned number held
    obtain ⟨value, found, fits⟩ := joint_sound.encoded_words encoded member unsigned
    obtain rfl : value = number := Json.int.inj (Except.ok.inj (found.symm.trans held))
    exact fits
  have peers := members_peer (asciiHost_lowersAscii []) joint_sound.sizedHash (textDecoder_readsPlain headerStyle_standard)
    joint_recovers given bounded joint_accepted joint_signed le_rfl (by decide) rfl joint_issued bob_starts alice_starts made
    (by decide) rfl (bob_reaches record)
  obtain ⟨after, response, peer, done, found, named, trust, revoked, told⟩ := peers
  exact ⟨record, after, response, peer, made, done, found, named, trust, revoked, told⟩

end Joint

end Xcp.Gateway
