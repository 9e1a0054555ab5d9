import Xcp.Proofs.CertDowngrade
import Xcp.Proofs.CharterAuthority
import Xcp.Proofs.MembershipSoundness
import Xcp.Proofs.PeerDomain

/-! The peers of a node in a closed cluster. Over whole runs of its endpoints the table
names members alone, and so do the tickets that are honoured. -/

namespace Xcp
open Checked Python Eth Identity

section Identities
variable [Host] [Packages]

/-! ### What an id is the hash of -/

/-- The letters of the address whose key signed a binding. -/
def signerLetters (binding : CertBinding) : List (List Nat) :=
  let signer : Raises String := do
    let signable ← Packages.encode binding.typed
    Packages.recover signable (.given binding.signature)
  signer.toOption.toList.map (fun signer => utf8 (lower signer))

/-- What the id of a record may be the hash of. -/
def NodeRecord.identityInputs (record : NodeRecord) (certificateDer : List Nat) : List (List Nat) :=
  match BindingSet.fromDict record.bindings with
  | .ok bindings => certificateDer :: (signerLetters bindings.current ++ bindings.previous.toList.flatMap signerLetters)
  | .error _ => [certificateDer]

theorem identityInputs_der (record : NodeRecord) (certificateDer : List Nat) :
    certificateDer ∈ record.identityInputs certificateDer := by
  unfold NodeRecord.identityInputs
  split <;> exact List.mem_cons_self ..

/-- An id of a node, however it is spelled. -/
structure IdOf (id : String) (data : List Nat) : Prop where
  filled : id ≠ ""
  same : lower id = digest data

theorem Identity.Binds.idOf (ascii : LowersAscii) (sized : SizedHash) {binding : CertBinding} {expected : Expected} {id : String}
    (binds : Binds binding expected) (named : expected.nodeId = .str id) (filled : id ≠ "") :
    ∃ data ∈ signerLetters binding, IdOf id data := by
  obtain ⟨signable, signer, encoded, recovered, own⟩ := signatureProblems_signer binds.signed
  have node := (andThen_eq_false _ _).mp binds.node (by simp [named, Json.truthy, filled])
  rw [own, named] at node
  have same : lower (nodeIdFromAddress signer) = lower id := by
    simpa [differs, Json.lower, Json.asStr] using node
  rw [nodeIdFromAddress, lower_word ascii (word_digest sized _)] at same
  refine ⟨utf8 (lower signer), ?_, filled, same.symm⟩
  simp [signerLetters, encoded, ok_bind, recovered, Except.toOption]

omit [Host] [Packages] in
theorem validate_nodeId {record : NodeRecord} (valid : record.validate = .ok []) : ∃ id, record.nodeId = .str id ∧ id ≠ "" := by
  simp only [NodeRecord.validate, bind_eq_ok, pure_eq_ok, List.append_eq_nil_iff, problemIf_eq_nil] at valid
  obtain ⟨_, _, _, _, _, _, id, read, _, _, valid⟩ := valid
  have text : record.nodeId = .str id := by
    cases held : record.nodeId <;> rw [held] at read <;> cases read
    rfl
  refine ⟨id, text, ?_⟩
  rintro rfl
  simp [startsWith] at valid

/-- A refusal tells what is wrong. -/
theorem accept_notes {bindings : BindingSet} {expected : Expected} {notes : List String}
    (refused : accept bindings expected = .ok (.error notes)) : notes ≠ [] := by
  unfold accept at refused
  simp only [bind_eq_ok] at refused
  obtain ⟨problems, _, refused⟩ := refused
  split at refused
  · cases refused
  next wanting =>
    split at refused
    · cases refused
      exact wanting
    · simp only [bind_eq_ok] at refused
      obtain ⟨before, _, refused⟩ := refused
      split at refused
      · cases refused
      · cases refused
        exact wanting

/-- A record without problems is of a node that its certificate or a signer stands for. -/
theorem verified_identity (ascii : LowersAscii) (sized : SizedHash) {record : NodeRecord} {certificateDer : List Nat}
    {domain : String} {known now : Int} (verified : verifyNodeRecord record certificateDer domain known now = .ok []) :
    ∃ id, record.nodeId = .str id ∧ ∃ data ∈ record.identityInputs certificateDer, IdOf id data := by
  simp only [verifyNodeRecord, bind_eq_ok, pure_eq_ok, List.append_eq_nil_iff] at verified
  obtain ⟨_, valid, _, _, _, _, _, bound, ⟨⟨rfl, _⟩, _⟩, rfl⟩ := verified
  obtain ⟨id, text, filled⟩ := validate_nodeId valid
  refine ⟨id, text, ?_⟩
  unfold certificateProblems at bound
  split at bound
  next given =>
    split at bound
    next => cases bound
    next bindings read =>
      simp only [bind_eq_ok] at bound
      obtain ⟨answer, accepted, bound⟩ := bound
      cases answer with
      | error notes =>
        cases bound
        exact absurd rfl (accept_notes accepted)
      | ok which =>
        rcases accept_ok.mp accepted with ⟨_, binds⟩ | ⟨_, before, overlaps⟩
        · obtain ⟨data, member, idOf⟩ := binds.idOf ascii sized text filled
          refine ⟨data, ?_, idOf⟩
          rw [NodeRecord.identityInputs, read]
          exact List.mem_cons_of_mem _ (List.mem_append_left _ member)
        · obtain ⟨data, member, idOf⟩ := overlaps.binds.idOf ascii sized text filled
          refine ⟨data, ?_, idOf⟩
          rw [NodeRecord.identityInputs, read]
          exact List.mem_cons_of_mem _ (List.mem_append_right _ (by simpa [overlaps.previous] using member))
  next legacy =>
    simp only [bind_eq_ok, pure_eq_ok, problemIf_eq_nil] at bound
    obtain ⟨other, compared, rfl⟩ := bound
    refine ⟨certificateDer, identityInputs_der record certificateDer, filled, ?_⟩
    rw [text] at compared
    have same : lower id = lower (digest certificateDer) := by
      simpa [differs, Json.lower, Json.asStr] using compared
    rw [same, lower_word ascii (word_digest sized _)]

end Identities

end Xcp

namespace Xcp.Gateway
open Checked Python Http Eth Cluster Identity Transition

section Members
variable [Host] [Packages] {node : Node} {network : Network} {tables : Tables} {request : HttpRequest}

/-! ### Introductions -/

theorem clusterMember_claims {charter : Charter} {record : NodeRecord} {cluster : Json}
    (holds : node.cluster.charter = some charter) (closed : charter.open_ = false)
    (admitted : clusterMember node record = .ok cluster) :
    ∃ claim, MembershipClaim.fromDict record.membership = .ok claim ∧ verifyMember charter claim record.nodeId = .ok [] := by
  have judged : node.cluster.charter.filter (fun charter => !charter.open_) = some charter := by
    rw [holds, Option.filter_some, closed]
    rfl
  simp only [clusterMember, judged, bind_eq_ok, mapError_eq_ok, attempt_eq_ok] at admitted
  obtain ⟨_, _, claim, read, problems, verified, admitted⟩ := admitted
  cases problems with
  | nil => exact ⟨claim, read, verified⟩
  | cons problem rest => cases admitted

theorem verifyMember_named {charter : Charter} {claim : MembershipClaim} {id : String} (filled : id ≠ "")
    (verified : verifyMember charter claim (.str id) = .ok []) : lower claim.nodeId = lower id := by
  simp only [verifyMember, bind_eq_ok, pure_eq_ok, List.append_eq_nil_iff, problemIf_eq_nil] at verified
  obtain ⟨_, compared, _, _, ⟨⟨_, rfl⟩, _⟩, _⟩ := verified
  have same := (andThen_eq_false _ _).mp compared (by simp [Json.truthy, filled])
  simpa [differs, Json.lower, Json.asStr] using same

/-- The hash is an ideal one on what an introduction and the trees of the history have
hashed, and a certificate has not as many bytes as a pair. -/
def IdealPeering (node : Node) (history : List Enrolment) (tables : Tables) : Network × FedRequest → Prop
  | (network, .federationPeer request) =>
    ∀ federation domain url record host port der claim, Introduces node network tables request federation domain url record →
      network.certificate host port = .ok der → MembershipClaim.fromDict record.membership = .ok claim →
      der.length ≠ 64 ∧ ∀ issue ∈ history, ∀ data ∈ record.identityInputs der,
        issue.members.Guards issue.addresses (issue.members.claimInputs issue.addresses data claim)
  | _ => True

omit [Host] in
theorem signerLetters_length [Host] (recovers : RecoversAddresses) {binding : CertBinding} {data : List Nat}
    (member : data ∈ signerLetters binding) : data.length = 42 := by
  simp only [signerLetters, List.mem_map, Option.mem_toList, toOption_eq_some, bind_eq_ok] at member
  obtain ⟨signer, ⟨signable, _, recovered⟩, rfl⟩ := member
  exact recovers signable _ signer recovered

theorem identityInputs_length (recovers : RecoversAddresses) {record : NodeRecord} {der data : List Nat} (long : der.length ≠ 64)
    (member : data ∈ record.identityInputs der) : data.length ≠ 64 := by
  have letters {binding : CertBinding} (inside : data ∈ signerLetters binding) : data.length ≠ 64 := by
    rw [signerLetters_length recovers inside]
    decide
  unfold NodeRecord.identityInputs at member
  split at member
  next bindings read =>
    rcases List.mem_cons.mp member with rfl | inside
    · exact long
    · rcases List.mem_append.mp inside with current | previous
      · exact letters current
      · obtain ⟨binding, _, inside⟩ := List.mem_flatMap.mp previous
        exact letters inside
  next => rwa [List.mem_singleton.mp member]

/-- Every entry of the table is of one of these members. -/
def ListsMembers (members : MemberSet) (tables : Tables) : Prop :=
  ∀ peer ∈ tables.peers, ∃ id, peer.nodeId = .str id ∧ lower id ∈ members.nodeIds.map lower

/-- What is honoured is a ticket of a node in the table. -/
theorem ListsMembers.honours {members : MemberSet} (lists : ListsMembers members tables) {nodeId : String}
    (honoured : Honours node nodeId tables) : lower nodeId ∈ members.nodeIds.map lower := by
  obtain ⟨network, request, ⟨body, ticket, given, read, named⟩, served⟩ := honoured
  have admits : Admits node network tables request := by
    rcases served with ⟨_, accepted⟩ | ⟨_, served⟩
    · exact a2aAccept_admits accepted
    · exact toolRelay_admits served
  obtain ⟨federation, _, _, task, decision, configured, same, reread, judged, admitted⟩ := admits
  rw [given] at same
  cases same
  rw [read] at reread
  cases reread
  obtain ⟨peer, member, _, spelled⟩ := originIsPeer_live (decideTicket_peer node network judged admitted)
  have listed : peer ∈ tables.peers := by simpa [Tables.peers, configured] using member
  obtain ⟨id, text, enrolled⟩ := lists peer listed
  rw [named, text] at spelled
  have equal : lower id = lower nodeId := Except.ok.inj spelled
  rwa [← equal]

section Introduced
variable {charter : Charter} {history : List Enrolment} {issue : Enrolment} (ascii : LowersAscii) (hex : HexIsAscii)
  (sized : SizedHash) (recovers : RecoversAddresses) (secure : node.insecurePeers = false)
  (holds : node.cluster.charter = some charter) (closed : charter.open_ = false) (enrolled : issue ∈ history)
  (rooted : issue.members.root = .ok charter.membershipRoot)
include ascii hex sized recovers secure holds closed enrolled rooted

/-- Only a member passes the checks of an introduction. -/
theorem introduced_member {federation : Federation} {domain url : String} {record : NodeRecord}
    (ideal : IdealPeering node history tables (network, .federationPeer request))
    (introduces : Introduces node network tables request federation domain url record) :
    ∃ id, record.nodeId = .str id ∧ lower id ∈ issue.members.nodeIds.map lower := by
  have https : startsWith url "https://" = true := by
    by_contra plain
    have bound := introduces.bound
    rw [if_neg plain, secure] at bound
    cases bound
  obtain ⟨host, port, der, _, certified, verified⟩ := introduces.certified https
  obtain ⟨cluster, admitted⟩ := introduces.member
  obtain ⟨claim, read, claimed⟩ := clusterMember_claims holds closed admitted
  obtain ⟨id, text, data, member, idOf⟩ := verified_identity ascii sized verified
  obtain ⟨long, guards⟩ := ideal federation domain url record host port der claim introduces certified read
  rw [text] at claimed
  have named : lower claim.nodeId = digest data := (verifyMember_named idOf.filled claimed).trans idOf.same
  refine ⟨id, text, ?_⟩
  rw [idOf.same]
  exact proved_member sized (guards issue enrolled data member) named ascii hex rooted
    (identityInputs_length recovers long member) claimed

/-! ### Runs -/

theorem ListsMembers.step {event : Network × FedRequest} (lists : ListsMembers issue.members tables)
    (ideal : IdealPeering node history tables event) : ListsMembers issue.members (fedStep node tables event) := by
  obtain ⟨network, request⟩ := event
  cases request with
  | federationPeer request =>
    dsimp only [fedStep]
    rcases settle_fst_cases tables (federationPeer node network tables request) with ⟨after, response, done, same⟩ | same
    · rw [same]
      obtain ⟨federation, domain, url, record, entry, introduces, own, _, rfl⟩ := federationPeer_writes done
      intro peer listed
      obtain ⟨key, found⟩ := (peers_mem rfl).mp listed
      rcases Dict.get?_set_eq_some found with ⟨_, rfl⟩ | before
      · rw [own]
        exact introduced_member ascii hex sized recovers secure holds closed enrolled rooted ideal introduces
      · exact lists peer ((peers_mem introduces.configured).mpr ⟨key, before⟩)
    · rwa [same]
  | federationRevoke request =>
    dsimp only [fedStep]
    rcases settle_fst_cases tables (federationRevoke node network tables request) with ⟨after, response, done, same⟩ | same
    · rw [same]
      obtain ⟨federation, other, configured, _, rfl⟩ := federationRevoke_ok done
      intro peer listed
      obtain ⟨key, found⟩ := (peers_mem rfl).mp listed
      obtain ⟨before, known, named, _⟩ := Federation.revoke_entry found
      rw [named]
      exact lists before ((peers_mem configured).mpr ⟨key, known⟩)
    · rwa [same]
  | a2aAccept request => exact lists
  | toolRelay request => exact lists

end Introduced

/-- A node that started in a closed cluster, and peers over TLS alone, has only members in
its table whatever happens to it, and honours no ticket of anyone else. They are those of a
charter that the authority has signed, of no earlier epoch than the node's floor. -/
theorem closed_cluster_peers [Accounts] {authorityKey : String} {history : List Enrolment} {env : ClusterEnv} {files : Files}
    {nodeId : Option String} {begun : Int} (ascii : LowersAscii) (hex : HexIsAscii) (sized : SizedHash)
    (recovers : RecoversAddresses) (faithful : FaithfulEncoding)
    (only : OnlyCharters authorityKey (strip env.authority) history) (configured : strip env.authority ≠ "")
    (started : startCluster env files nodeId begun = .ok node.cluster) (closed : node.cluster.closed = true)
    (secure : node.insecurePeers = false) (empty : tables.peers = []) (events : List (Network × FedRequest))
    (ideal : Meets (fedStep node) (IdealPeering node history) tables events) :
    ∃ minEpoch issue, readMinEpoch env.minEpoch = .ok minEpoch ∧ issue ∈ history ∧ minEpoch ≤ issue.terms.epoch ∧
      Always (fedStep node) (fun tables => ListsMembers issue.members tables ∧
        ∀ nodeId, Honours node nodeId tables → lower nodeId ∈ issue.members.nodeIds.map lower) tables events := by
  obtain ⟨charter, holds, shut⟩ : ∃ charter, node.cluster.charter = some charter ∧ charter.open_ = false := by
    cases holds : node.cluster.charter with
    | none => simp [Posture.closed, holds] at closed
    | some charter => exact ⟨charter, rfl, by simpa [Posture.closed, holds] using closed⟩
  obtain ⟨minEpoch, floor, issue, member, held⟩ := started_holds faithful only configured started holds
  refine ⟨minEpoch, issue, floor, member, held.current, ?_⟩
  have keeps : ∀ tables event, ListsMembers issue.members tables → IdealPeering node history tables event →
      ListsMembers issue.members (fedStep node tables event) :=
    fun tables event lists ideal => lists.step ascii hex sized recovers secure holds shut member held.rooted ideal
  have start : ListsMembers issue.members tables := by
    intro peer listed
    rw [empty] at listed
    cases listed
  exact ideal.always keeps (fun tables lists => ⟨lists, fun nodeId honoured => lists.honours honoured⟩) start

end Members

/-! ### The first member is introduced to the second one -/

section Joint

attribute [local instance] accessHost jointPackages jointAccounts

def bobNode : Node where
  limits := false
  nodeKey := bobKey
  cluster := jointPosture bobJoint

def bobTables : Tables where
  registry := fun _ => none
  federation := some { selfDomain := "shop.example", selfNodeId := bobId }

def aliceBinding : CertBinding := { unsignedBinding with signature := .str ("0x" ++ toHex bindingSigned.signature) }

def aliceDocument : Json :=
  .dict [("domain", .str "bank.example"), ("node_id", .str aliceId), ("gateway_url", .str "https://bank.example"),
    ("cluster_id", .str jointMembers.clusterId), ("membership", aliceJoint.toDict),
    ("bindings", .dict [("current", .dict [("node_id", aliceBinding.nodeId), ("cert_footprint", aliceBinding.certFootprint),
      ("sequence", aliceBinding.sequence), ("not_before", aliceBinding.notBefore), ("not_after", aliceBinding.notAfter),
      ("domain", aliceBinding.domain), ("signer", aliceBinding.signer), ("signature", aliceBinding.signature)])])]

def jointNetwork : Network where
  now := 2000
  limiter := fun _ => { allowed := true }
  verifier := fun _ _ => raise (.package "ConnectError") ""
  resolve := fun _ => .ok ["93.184.216.34"]
  postUpstream := fun _ _ _ => raise (.package "ConnectError") ""
  postPeer := fun _ _ => raise (.package "ConnectError") ""
  getRecord := fun _ _ => .ok { bodyBytes := 1500, document := .ok aliceDocument }
  certificate := fun _ _ => .ok [48, 3, 2, 1, 13]
  choose := fun _ => 0
  nonce := ""

def introduceAlice : HttpRequest where
  bodyBytes := 66
  body := .ok (.dict [("domain", .str "bank.example"), ("gatewayUrl", .str "https://bank.example")])

theorem alice_fetched (domain url : String) : fetchRecord bobNode jointNetwork domain url =
    orUnreadable (NodeRecord.fromDict aliceDocument) := rfl

theorem alice_binding_letters : signerLetters aliceBinding = [aliceAddress] := by
  have member : bindingSigned ∈ jointMessages := .tail _ (.tail _ (.head _))
  have encoded : Packages.encode aliceBinding.typed = .ok bindingSigned.hash := joint_sound.encodes member
  have known := address_keyedAccounts joint_sound.owners member
  obtain ⟨_, _, recovered⟩ := joint_sound.recover_signed known (joint_sound.signs member)
  have signature : aliceBinding.signature = .str ("0x" ++ toHex bindingSigned.signature) := rfl
  change ((Packages.encode aliceBinding.typed >>= _).toOption.toList.map _) = _
  rw [encoded, ok_bind, signature, recovered]
  exact congrArg (fun letters => [letters]) alice_letters

theorem alice_inputs {record : NodeRecord} (read : orUnreadable (NodeRecord.fromDict aliceDocument) = .ok record) :
    record.membership = aliceJoint.toDict ∧ ∀ data ∈ record.identityInputs [48, 3, 2, 1, 13],
      data ∈ [aliceAddress, bobAddress, [48, 3, 2, 1, 13]] := by
  obtain rfl := Except.ok.inj read
  refine ⟨rfl, ?_⟩
  intro data member
  have inputs : data ∈ [48, 3, 2, 1, 13] :: (signerLetters aliceBinding ++ []) := member
  rw [alice_binding_letters, List.append_nil] at inputs
  rcases List.mem_cons.mp inputs with rfl | own
  · exact .tail _ (.tail _ (.head _))
  · rw [List.mem_singleton.mp own]
    exact .head _

theorem alice_ideal : IdealPeering bobNode [jointEnrolment] bobTables (jointNetwork, .federationPeer introduceAlice) := by
  intro federation domain url record host port der claim introduces certified read
  obtain rfl : [48, 3, 2, 1, 13] = der := Except.ok.inj certified
  obtain ⟨membership, inputs⟩ := alice_inputs ((alice_fetched domain url).symm.trans introduces.served)
  have own : claim = aliceJoint := by
    rw [membership, claim_accepted] at read
    exact (Except.ok.inj read).symm
  refine ⟨by decide, ?_⟩
  rintro issue (_ | ⟨_, ⟨⟩⟩) data member
  exact joint_guards (.inl own) (inputs data member)

theorem joint_peers : ∃ minEpoch issue, readMinEpoch jointEnv.minEpoch = .ok minEpoch ∧ issue ∈ [jointEnrolment] ∧
    minEpoch ≤ issue.terms.epoch ∧
    Always (fedStep bobNode) (fun tables => ListsMembers issue.members tables ∧
      ∀ nodeId, Honours bobNode nodeId tables → lower nodeId ∈ issue.members.nodeIds.map lower) bobTables
      [(jointNetwork, .federationPeer introduceAlice)] :=
  closed_cluster_peers (asciiHost_lowersAscii []) accessHost_hexIsAscii joint_sound.sizedHash
    (fun _ _ _ => joint_sound.recovered_letters (asciiHost_lowersAscii [])) joint_sound.faithful joint_only (by decide)
    (joint_started (.inr rfl)) rfl rfl rfl _ ⟨alice_ideal, trivial⟩

end Joint

end Xcp.Gateway
