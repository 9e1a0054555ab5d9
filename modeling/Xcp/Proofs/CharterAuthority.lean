import Xcp.Proofs.Charters

/-! A node that starts holds a charter that its authority has signed, of no earlier epoch
than the node is configured for. -/

namespace Xcp.Cluster
open Checked Python Eth Identity

section Held

theorem held_ok {charter : ClusterCharter} {held : Charter} (judged : charter.held = .ok held) :
    charter.clusterId = .str held.clusterId ∧ charter.membershipRoot = .str held.membershipRoot ∧
      charter.epoch = .int held.epoch := by
  simp only [ClusterCharter.held, bind_eq_ok] at judged
  obtain ⟨clusterId, cluster, root, rooted, judged⟩ := judged
  have text {value : Json} {method text : String} (read : value.asStr method = .ok text) : value = .str text := by
    cases value <;> first | cases read; rfl | cases read
  cases epoch : charter.epoch <;> rw [epoch] at judged <;> cases judged
  exact ⟨text cluster, text rooted, rfl⟩

variable [Host] [Packages]

theorem charter_signatureProblems_nil {charter : ClusterCharter} (none : charter.signatureProblems = .ok []) :
    ∃ signer authority, charter.signer = .ok signer ∧ charter.authority.lower = .ok authority ∧ lower signer = authority := by
  unfold ClusterCharter.signatureProblems at none
  split at none
  · cases none
  · split at none
    next => cases none
    next signer found =>
      simp only [bind_eq_ok, pure_eq_ok, problemIf_eq_nil, decide_eq_false_iff_not, not_not] at none
      obtain ⟨authority, named, same⟩ := none
      exact ⟨signer, authority, found, named, same⟩

/-- What a charter without problems says of its signer, its epoch and its time. -/
theorem verifyCharter_nil {charter : ClusterCharter} {expected : CharterExpected} {now : Int}
    (none : verifyCharter charter expected now = .ok []) :
    (∃ signer, charter.signer = .ok signer ∧ (expected.authority ≠ "" → lower signer = lower expected.authority)) ∧
      charter.epoch.lt (.int expected.minEpoch) = .ok false ∧ charter.active now = .ok true := by
  simp only [verifyCharter, bind_eq_ok, pure_eq_ok, List.append_eq_nil_iff, problemIf_eq_nil, Bool.not_eq_false'] at none
  obtain ⟨_, _, otherAuthority, compared, _, active, _, older, _, _, unsigned, signed, none⟩ := none
  obtain ⟨⟨⟨⟨⟨_, rfl⟩, rfl⟩, rfl⟩, _⟩, rfl⟩ := none
  refine ⟨?_, older, active⟩
  obtain ⟨signer, authority, found, named, same⟩ := charter_signatureProblems_nil signed
  refine ⟨signer, found, ?_⟩
  intro configured
  have equal := (andThen_eq_false _ _).mp compared (by simpa using configured)
  rw [differs, named, ok_bind] at equal
  simpa [same, Json.lower, Json.asStr] using equal

theorem startCluster_charter {env : ClusterEnv} {files : Files} {nodeId : Option String} {now : Int} {posture : Posture}
    {held : Charter} (started : startCluster env files nodeId now = .ok posture) (holds : posture.charter = some held) :
    ∃ charter minEpoch, charter.held = .ok held ∧ readMinEpoch env.minEpoch = .ok minEpoch ∧
      verifyCharter charter { authority := strip env.authority, minEpoch } now = .ok [] := by
  simp only [startCluster, bind_eq_ok, mapError_eq_ok] at started
  obtain ⟨loaded, load, started⟩ := started
  have verified : ∀ charter, loaded.charter = some charter → ∃ minEpoch, readMinEpoch env.minEpoch = .ok minEpoch ∧
      verifyCharter charter { authority := strip env.authority, minEpoch } now = .ok [] := by
    intro charter kept
    unfold loadPosture at load
    split at load
    · cases load
      cases kept
    · simp only [bind_eq_ok] at load
      obtain ⟨read, _, minEpoch, floor, problems, verified, load⟩ := load
      cases problems with
      | cons problem rest => cases load
      | nil =>
        simp only [bind_eq_ok, pure_eq_ok] at load
        obtain ⟨_, _, rfl⟩ := load
        cases kept
        exact ⟨minEpoch, floor, verified⟩
  cases kept : loaded.charter with
  | none =>
    rw [kept] at started
    cases started
    cases holds
  | some charter =>
    simp only [kept, bind_eq_ok] at started
    obtain ⟨_, _, judged, judgement, started⟩ := started
    have same : posture.charter = some judged := by
      split at started
      · split at started
        · cases started
          rfl
        · cases started
      · cases started
        rfl
    obtain rfl : judged = held := Option.some.inj (same.symm.trans holds)
    obtain ⟨minEpoch, floor, none⟩ := verified charter kept
    exact ⟨charter, minEpoch, judgement, floor, none⟩

end Held

/-! ### What the authority has signed -/

/-- For which members, named by which addresses, a charter was signed. -/
structure Enrolment where
  members : MemberSet
  addresses : List (List Nat)
  terms : CharterTerms
  signedAt : Int
  charter : ClusterCharter

section Authority
variable [Host] [Packages] [Accounts]

/-- The key, whose address the authority is, signed the charters of these enrolments and
nothing else. -/
structure OnlyCharters (authorityKey authority : String) (history : List Enrolment) : Prop where
  made : ∀ issue ∈ history, signCharter authorityKey issue.members issue.terms issue.signedAt = .ok issue.charter
  only : ∀ signable signature signer, Packages.recover signable signature = .ok signer → lower signer = lower authority →
    ∃ issue ∈ history, Packages.encode issue.charter.typed = .ok signable

/-- The charter that a node holds. -/
structure Enrolment.Holds (issue : Enrolment) (held : Charter) (minEpoch now : Int) : Prop where
  clusterId : held.clusterId = issue.members.clusterId
  rooted : issue.members.root = .ok held.membershipRoot
  epoch : held.epoch = issue.terms.epoch
  current : minEpoch ≤ issue.terms.epoch
  begun : issue.signedAt ≤ now
  lasts : now ≤ issue.signedAt + issue.terms.ttl

omit [Host] [Accounts] in
/-- The time of a signed charter is given in whole numbers, which a text is not compared with. -/
theorem active_between (faithful : FaithfulEncoding) {charter : ClusterCharter} {signable : List Nat}
    (encoded : Packages.encode charter.typed = .ok signable) {now : Int} (active : charter.active now = .ok true) :
    ∃ begin_ end_ : Int, charter.notBefore = .int begin_ ∧ charter.notAfter = .int end_ ∧ begin_ ≤ now ∧ now ≤ end_ := by
  simp only [ClusterCharter.active, bind_eq_ok, andThen_eq_true] at active
  obtain ⟨_, began, rfl, ended⟩ := active
  obtain ⟨_, found, first⟩ := faithful.whole _ signable encoded ("notBefore", "uint64") (by simp [ClusterCharter.typed]) (by decide)
  obtain ⟨_, found', last⟩ := faithful.whole _ signable encoded ("notAfter", "uint64") (by simp [ClusterCharter.typed]) (by decide)
  obtain rfl := Except.ok.inj (show Except.ok charter.notBefore = _ from found)
  obtain rfl := Except.ok.inj (show Except.ok charter.notAfter = _ from found')
  rcases first with ⟨begin_, first⟩ | ⟨text, first⟩
  · rcases last with ⟨end_, last⟩ | ⟨text, last⟩
    · rw [first, Json.int_le_int, Except.ok.injEq, decide_eq_true_eq] at began
      rw [last, Json.int_le_int, Except.ok.injEq, decide_eq_true_eq] at ended
      exact ⟨begin_, end_, first, last, began, ended⟩
    · rw [last] at ended
      cases ended
  · rw [first] at began
    cases began

/-- A node that is configured with an authority starts with what that has signed, in its
time and of no earlier epoch than its own floor. -/
theorem started_holds (faithful : FaithfulEncoding) {authorityKey : String} {history : List Enrolment} {env : ClusterEnv}
    (only : OnlyCharters authorityKey (strip env.authority) history) (configured : strip env.authority ≠ "") {files : Files}
    {nodeId : Option String} {now : Int} {posture : Posture} {held : Charter}
    (started : startCluster env files nodeId now = .ok posture) (holds : posture.charter = some held) :
    ∃ minEpoch, readMinEpoch env.minEpoch = .ok minEpoch ∧ ∃ issue ∈ history, issue.Holds held minEpoch now := by
  obtain ⟨charter, minEpoch, judged, floor, none⟩ := startCluster_charter started holds
  obtain ⟨cluster, rooted, epoch⟩ := held_ok judged
  obtain ⟨⟨signer, found, named⟩, older, active⟩ := verifyCharter_nil none
  simp only [ClusterCharter.signer, bind_eq_ok] at found
  obtain ⟨signable, encoded, signature, _, recovered⟩ := found
  obtain ⟨issue, member, original⟩ := only.only signable (.bytes signature) signer recovered (named configured)
  obtain ⟨root, address, signed⟩ := signCharter_signed (only.made issue member)
  have alike (name type : String) (listed : (name, type) ∈ charter.typed.fields) {value value' : Json}
      (here : charter.payload.item name = .ok value) (there : issue.charter.payload.item name = .ok value') :
      ReadAlike type value value' :=
    faithful.alike _ _ signable encoded original rfl (name, type) listed value value' here there
  have sameText (name : String) (listed : (name, "string") ∈ charter.typed.fields) {text text' : String}
      (here : charter.payload.item name = .ok (.str text)) (there : issue.charter.payload.item name = .ok (.str text')) :
      text = text' := (alike name "string" listed here there).1 rfl text text' rfl rfl
  have sameNumber (name : String) (listed : (name, "uint64") ∈ charter.typed.fields) {number number' : Int}
      (here : charter.payload.item name = .ok (.int number)) (there : issue.charter.payload.item name = .ok (.int number')) :
      number = number' := (alike name "uint64" listed here there).2 (by decide) number number' rfl rfl
  obtain ⟨begin_, end_, notBefore, notAfter, begun, lasts⟩ := active_between faithful encoded active
  have clusterId := sameText "clusterId" (by simp [ClusterCharter.typed]) (congrArg Except.ok cluster)
    (congrArg Except.ok signed.clusterId)
  have root_eq := sameText "membershipRoot" (by simp [ClusterCharter.typed]) (congrArg Except.ok rooted)
    (congrArg Except.ok signed.membershipRoot)
  have epoch_eq := sameNumber "epoch" (by simp [ClusterCharter.typed]) (congrArg Except.ok epoch)
    (congrArg Except.ok signed.epoch)
  obtain rfl := sameNumber "notBefore" (by simp [ClusterCharter.typed]) (congrArg Except.ok notBefore)
    (congrArg Except.ok signed.notBefore)
  obtain rfl := sameNumber "notAfter" (by simp [ClusterCharter.typed]) (congrArg Except.ok notAfter)
    (congrArg Except.ok signed.notAfter)
  rw [epoch, Json.int_lt_int, Except.ok.injEq, decide_eq_false_iff_not, not_lt, epoch_eq] at older
  refine ⟨minEpoch, floor, issue, member, ?_⟩
  exact { clusterId, rooted := root_eq ▸ signed.rooted, epoch := epoch_eq, current := older, begun, lasts }

end Authority

/-! ### The authority of the two members -/

section Joint

attribute [local instance] accessHost jointPackages jointAccounts

def jointEnrolment : Enrolment where
  members := jointMembers
  addresses := [aliceAddress, bobAddress]
  terms := jointArgs.terms
  signedAt := 1000
  charter := jointCharter

def jointEnv : ClusterEnv where
  charterPath := "charter.json"
  claimPath := "claim.json"
  authority := "0x19E7E376E7C213B7E7e7e46cc70A5dD086DAff2A"
  minEpoch := "1"

def jointFiles (claim : MembershipClaim) : Files
  | "charter.json" => some (.ok jointCharter.toDict.sorted)
  | "claim.json" => some (.ok claim.toDict.sorted)
  | _ => none

def jointPosture (claim : MembershipClaim) : Posture where
  charter := some ⟨jointMembers.clusterId, jointRoot, 1, false⟩
  claim := some claim

theorem joint_only : OnlyCharters jointKey (strip jointEnv.authority) [jointEnrolment] where
  made := by
    rintro issue (_ | ⟨_, ⟨⟩⟩)
    exact joint_signed
  only := by
    intro signable signature signer recovered own
    obtain ⟨known, member, rfl, rfl⟩ := SoundTables.recovered_signer recovered
    have apart : ∀ other ∈ [requestSigned, bindingSigned], lower other.signer ≠ lower (strip jointEnv.authority) := by
      decide
    rcases List.mem_cons.mp member with rfl | other
    · exact ⟨jointEnrolment, List.mem_singleton_self _, joint_sound.encodes (.head _ : charterSigned ∈ jointMessages)⟩
    · exact absurd own (apart known other)

theorem joint_claims {claim : MembershipClaim} (either : claim = aliceJoint ∨ claim = bobJoint) :
    claim.nodeId ∈ jointMembers.nodeIds ∧ issueClaim jointMembers claim.nodeId 1 = .ok claim := by
  have shown (id : String) (word : Word id) (other : String)
      (only : MerkleTree.siblings pair 2 [aliceId, bobId] ([aliceId, bobId].idxOf id) = .ok [other]) (member : id ∈ [aliceId, bobId]) :
      issueClaim jointMembers id 1 = .ok ⟨jointMembers.clusterId, id, 1, [other]⟩ := by
    have proof : jointMembers.proofFor id = .ok [other] := by
      change membershipProof [aliceId, bobId] id = _
      rw [membershipProof, joint_read, ok_bind, normalise_word word, lower_word (asciiHost_lowersAscii []) word, ok_bind]
      dsimp only
      rw [joint_sorted]
      exact (if_pos member).trans only
    rw [issueClaim, normalise_word word, lower_word (asciiHost_lowersAscii []) word, ok_bind, proof]
    rfl
  have above : MerkleTree.parents pair [aliceId, bobId] = .ok [jointRoot] := by
    rw [MerkleTree.parents, joint_pair]
    rfl
  rcases either with rfl | rfl
  · refine ⟨.head _, shown aliceId alice_word bobId ?_ (.head _)⟩
    rw [List.idxOf_cons_self, MerkleTree.siblings, above]
    rfl
  · refine ⟨.tail _ (.head _), shown bobId bob_word aliceId ?_ (.tail _ (.head _))⟩
    rw [List.idxOf_cons_ne _ (ne_of_lt alice_before_bob), List.idxOf_cons_self, MerkleTree.siblings, above]
    rfl

theorem joint_started {claim : MembershipClaim} (either : claim = aliceJoint ∨ claim = bobJoint) :
    startCluster jointEnv (jointFiles claim) (some claim.nodeId) 1000 = .ok (jointPosture claim) := by
  obtain ⟨root, address, signed⟩ := signCharter_signed joint_signed
  obtain rfl : root = jointRoot := Except.ok.inj (signed.rooted.symm.trans joint_root)
  have known : Accounts.address jointKey = .ok charterSigned.signer :=
    address_keyedAccounts joint_sound.owners (.head _ : charterSigned ∈ jointMessages)
  obtain rfl : address = charterSigned.signer := Except.ok.inj (signed.keyed.symm.trans known)
  have ascii := asciiHost_lowersAscii []
  have sized := joint_sound.sizedHash
  have formed := (joint_accepted.formed ascii).2
  obtain ⟨member, issued⟩ := joint_claims either
  obtain ⟨own, made, _, _, verifies⟩ := claim_verifies ascii sized formed joint_root member 1
  obtain rfl : own = claim := Except.ok.inj (made.symm.trans issued)
  have equipped : Equipped jointEnv (jointFiles own) jointCharter own := by
    constructor
    · decide
    · rfl
    · decide
    · rfl
  have starts := startCluster_iff joint_recovers signed (root_formed ascii sized formed joint_root) ⟨member, verifies⟩ equipped
  refine (starts (some own.nodeId) 1000 (jointPosture own)).mpr ⟨?_, rfl⟩
  exact {
    floor := ⟨1, by decide, le_rfl⟩
    authority := by decide
    begun := le_rfl
    lasts := by decide
    own := by
      rintro id ⟨⟩
      rfl }

end Joint

end Xcp.Cluster
