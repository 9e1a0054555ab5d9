import Xcp.Gateway.Records
import Xcp.Library.Decode
import Xcp.Proofs.CharterAuthority
import Xcp.Proofs.MembershipSoundness

/-! Who gets at the record of a node in a closed cluster. What a response says beyond the
public fields it says to the key of a member, of an epoch that the node still accepts. -/

namespace Xcp.Gateway
open Checked Python Http Eth Cluster Identity

/-! ### The header -/

theorem headerStyle_standard : headerStyle.Standard :=
  ⟨⟨[], rfl, by simp⟩, ⟨[], rfl, by simp⟩⟩

section Header
variable [Host] [JsonDecoder]

/-- A request for access arrives as it was put into the header. -/
theorem readAccess_encodeAccess (reads : ReadsPlain headerStyle) {access : AccessRequest} (plain : access.toDict.plain = true) :
    readAccess (encodeAccess access.toDict) = .ok access := by
  have bytes : ∀ byte ∈ utf8 (access.toDict.dumps headerStyle), byte < 256 := utf8_bytes _
  have still : access.toDict.arranged headerStyle = access.toDict := rfl
  rw [readAccess, encodeAccess, Base64.decode_rstrip_encode bytes, ok_bind, reads _ plain, ok_bind, still,
    request_accepted]

omit [JsonDecoder] in
theorem encodeAccess_filled (access : AccessRequest) : encodeAccess access.toDict ≠ "" := by
  intro empty
  have bytes : ∀ byte ∈ utf8 (access.toDict.dumps headerStyle), byte < 256 := utf8_bytes _
  have decoded := Base64.decode_rstrip_encode bytes
  rw [encodeAccess] at empty
  rw [empty] at decoded
  have none : utf8 (access.toDict.dumps headerStyle) = [] := (Except.ok.inj decoded).symm
  have begins : (Json.dict _).dumped headerStyle = _ := dumped_dict [("claim", access.claim.toDict), ("audience", .str access.audience),
    ("issuedAt", .int access.issuedAt), ("expiresAt", .int access.expiresAt), ("signature", .str access.signature)]
  rw [utf8, List.flatMap_eq_nil_iff] at none
  have first := none '\x7b' (by
    change '\x7b' ∈ (Json.dict _).dumped headerStyle
    rw [begins]
    exact List.mem_cons_self ..)
  exact absurd first (by decide)

end Header

/-! ### The gate -/

/-- Records that a stranger cannot tell apart. -/
def AgreePublicly (first second : PublishedRecord) : Prop :=
  ∀ name ∈ PublishedRecord.publicFields, Json.find? first.members name = Json.find? second.members name

theorem AgreePublicly.reduced {first second : PublishedRecord} (agree : AgreePublicly first second) :
    first.reduced = second.reduced := by
  have same : PublishedRecord.publicFields.filterMap (fun name =>
        (Json.find? first.members name).map (fun value => (name, value))) =
      PublishedRecord.publicFields.filterMap (fun name =>
        (Json.find? second.members name).map (fun value => (name, value))) :=
    List.filterMap_congr fun name member => by rw [agree name member]
  rw [PublishedRecord.reduced, PublishedRecord.reduced, same]

section Gate
variable [Host] [Packages] [JsonDecoder] {node : Node} {published : Published}

theorem provesMembership_true {now : Int} {header : String} (proves : provesMembership node published now header = .ok true) :
    ∃ charter access, node.cluster.charter = some charter ∧ readAccess header = .ok access ∧
      verifyAccessRequest charter access published.domain now accessTtl = .ok [] := by
  unfold provesMembership at proves
  cases held : node.cluster.charter with
  | none => simp [held] at proves
  | some charter =>
    simp only [held] at proves
    split at proves
    · cases proves
    · cases read : readAccess header with
      | error exception => simp [read] at proves
      | ok access =>
        simp only [read, bind_eq_ok, pure_eq_ok, decide_eq_true_eq] at proves
        obtain ⟨problems, verified, rfl⟩ := proves
        exact ⟨charter, access, rfl, rfl, verified⟩

theorem nodeRecord_gated {world : World} {request : HttpRequest} (gated : recordIsGated node published = true)
    {record : PublishedRecord} (publishes : published.record = some record) :
    nodeRecord node published world request = (do
      let _ ← fedLimit node world request "record"
      let member ← attempt (provesMembership node published (truncate world.now) (request.header "xcp-cluster-access"))
      return { body := if member then record.toDict.sorted else record.reduced }) := by
  rw [nodeRecord, publishes, gated]
  rfl

/-- What is said to others is a matter of the public fields. -/
theorem nodeRecord_public {world : World} {request : HttpRequest} (gated : recordIsGated node published = true)
    (stranger : provesMembership node published (truncate world.now) (request.header "xcp-cluster-access") ≠ .ok true)
    {record other : PublishedRecord} (publishes : published.record = some record) (agree : AgreePublicly record other) :
    nodeRecord node { published with record := some other } world request = nodeRecord node published world request := by
  have gated' : recordIsGated node { published with record := some other } = true := by
    rw [recordIsGated] at gated ⊢
    exact gated
  have same (now : Int) (header : String) : provesMembership node { published with record := some other } now header =
      provesMembership node published now header := by
    rw [provesMembership, provesMembership]
  rw [nodeRecord_gated gated' rfl, same, nodeRecord_gated gated publishes]
  generalize provesMembership node published (truncate world.now) (request.header "xcp-cluster-access") = proven at stranger
  cases fedLimit node world request "record" with
  | error response => simp only [bind, Except.bind]
  | ok done =>
    cases proven with
    | error exception => simp only [attempt, Except.mapError, bind, Except.bind]
    | ok member =>
      cases member with
      | true => exact absurd rfl stranger
      | false => simp only [attempt, Except.mapError, bind, Except.bind, agree.reduced, Bool.false_eq_true, if_false]

/-- The key of a member signed the request that the header holds, for this node and this
time. -/
structure FromMember (members : MemberSet) (domain header : String) (now : Int) (access : AccessRequest) (signer : String) :
    Prop where
  read : readAccess header = .ok access
  signed : access.signer = .ok signer
  enrolled : nodeIdFromAddress signer ∈ members.nodeIds.map lower
  audience : lower access.audience = lower (strip domain)
  timely : access.Timely now accessTtl

/-- The hash is an ideal one on what a header and the trees of the history have hashed. -/
def IdealAccess (history : List Enrolment) (header : String) : Prop :=
  ∀ issue ∈ history, ∀ access signer, readAccess header = .ok access → access.signer = .ok signer →
    issue.members.Guards issue.addresses (issue.members.claimInputs issue.addresses (utf8 (lower signer)) access.claim)

theorem accepted_fromMember (ascii : LowersAscii) (hex : HexIsAscii) (sized : SizedHash) (recovers : RecoversAddresses)
    {charter : Charter} {access : AccessRequest} {header : String} {now : Int} {issue : Enrolment}
    {history : List Enrolment} (ideal : IdealAccess history header) (member : issue ∈ history)
    (rooted : issue.members.root = .ok charter.membershipRoot) (read : readAccess header = .ok access)
    (none : verifyAccessRequest charter access published.domain now accessTtl = .ok []) :
    ∃ signer, FromMember issue.members published.domain header now access signer := by
  obtain ⟨audience, timely, claimed, signed⟩ := verifyAccessRequest_nil.mp none
  obtain ⟨signer, found, named⟩ := signatureProblems_nil signed
  rw [nodeIdFromAddress, lower_word ascii (word_digest sized _)] at named
  have letters : (utf8 (lower signer)).length ≠ 64 := by
    rw [signer_address recovers found]
    decide
  have enrolled := proved_member sized (ideal issue member access signer read found) named.symm ascii hex rooted letters claimed
  exact ⟨signer, read, found, enrolled, audience, timely⟩

/-- A response of a gated node is the same whatever its record says beyond the public
fields, unless the key of a member asks for it: one of a charter that the authority has
signed, of no earlier epoch than the node's floor. -/
theorem gated_record_for_members [Accounts] {authorityKey : String} {history : List Enrolment} {env : ClusterEnv} {files : Files}
    {nodeId : Option String} {begun : Int} (ascii : LowersAscii) (hex : HexIsAscii) (sized : SizedHash)
    (recovers : RecoversAddresses) (faithful : FaithfulEncoding)
    (only : OnlyCharters authorityKey (strip env.authority) history) (configured : strip env.authority ≠ "")
    (started : startCluster env files nodeId begun = .ok node.cluster) (gated : recordIsGated node published = true)
    (world : World) (request : HttpRequest) (ideal : IdealAccess history (request.header "xcp-cluster-access")) :
    (∃ minEpoch issue access signer, readMinEpoch env.minEpoch = .ok minEpoch ∧ issue ∈ history ∧
      minEpoch ≤ issue.terms.epoch ∧
      FromMember issue.members published.domain (request.header "xcp-cluster-access") (truncate world.now) access signer) ∨
    ∀ record other, published.record = some record → AgreePublicly record other →
      nodeRecord node { published with record := some other } world request = nodeRecord node published world request := by
  by_cases proves : provesMembership node published (truncate world.now) (request.header "xcp-cluster-access") = .ok true
  · left
    obtain ⟨charter, access, holds, read, none⟩ := provesMembership_true proves
    obtain ⟨minEpoch, floor, issue, member, held⟩ := started_holds faithful only configured started holds
    obtain ⟨signer, from_⟩ := accepted_fromMember ascii hex sized recovers ideal member held.rooted read none
    exact ⟨minEpoch, issue, access, signer, floor, member, held.current, from_⟩
  · right
    intro record other publishes agree
    exact nodeRecord_public gated proves publishes agree

end Gate

/-! ### The record of the first member -/

section Joint

attribute [local instance] accessHost jointPackages jointAccounts

local instance jointDecoder : JsonDecoder := textDecoder

def bobRequest : AccessRequest := { unsignedRequest with signature := "0x" ++ toHex requestSigned.signature }

def aliceNode : Node where
  limits := false
  cluster := jointPosture aliceJoint

def alicePublished : Published where
  record := some { domain := "bank.example", nodeId := aliceId, gatewayUrl := "https://bank.example", clusterId := jointMembers.clusterId }
  domain := "bank.example"

def jointWorld : World where
  now := 2001
  limiter := fun _ => { allowed := true }
  verifier := fun _ _ => raise (.package "ConnectError") ""

def bobAsks : HttpRequest := recordRequest "203.0.113.7" (some bobRequest.toDict)

theorem bob_read : readAccess (bobAsks.header "xcp-cluster-access") = .ok bobRequest :=
  readAccess_encodeAccess (textDecoder_readsPlain headerStyle_standard) (by decide)

theorem bob_signer : bobRequest.signer = .ok requestSigned.signer := by
  have member : requestSigned ∈ jointMessages := .tail _ (.head _)
  have typed : bobRequest.typed = requestSigned.message := by rfl
  have known := address_keyedAccounts joint_sound.owners member
  obtain ⟨bytes, recovered, _⟩ := joint_sound.recover_signed known (joint_sound.signs member)
  rw [AccessRequest.signer, typed, joint_sound.encodes member, ok_bind]
  change fromHex (dropStart ("0x" ++ toHex requestSigned.signature) 2) >>= _ = _
  rw [fromHex_toHex bytes, ok_bind, recovered]

theorem bob_letters : utf8 (lower requestSigned.signer) = bobAddress := by decide

theorem bob_ideal : IdealAccess [jointEnrolment] (bobAsks.header "xcp-cluster-access") := by
  rintro issue (_ | ⟨_, ⟨⟩⟩) access signer read found
  obtain rfl := Except.ok.inj (bob_read.symm.trans read)
  obtain rfl := Except.ok.inj (bob_signer.symm.trans found)
  rw [bob_letters]
  exact joint_guards (.inr rfl) (by simp)

theorem joint_record_for_members :
    (∃ minEpoch issue access signer, readMinEpoch jointEnv.minEpoch = .ok minEpoch ∧ issue ∈ [jointEnrolment] ∧
      minEpoch ≤ issue.terms.epoch ∧
      FromMember issue.members alicePublished.domain (bobAsks.header "xcp-cluster-access") (truncate jointWorld.now) access signer) ∨
    ∀ record other, alicePublished.record = some record → AgreePublicly record other →
      nodeRecord aliceNode { alicePublished with record := some other } jointWorld bobAsks =
        nodeRecord aliceNode alicePublished jointWorld bobAsks :=
  gated_record_for_members (asciiHost_lowersAscii []) accessHost_hexIsAscii joint_sound.sizedHash
    (fun _ _ _ => joint_sound.recovered_letters (asciiHost_lowersAscii [])) joint_sound.faithful joint_only (by decide)
    (joint_started (.inl rfl)) rfl jointWorld bobAsks bob_ideal

end Joint

end Xcp.Gateway
