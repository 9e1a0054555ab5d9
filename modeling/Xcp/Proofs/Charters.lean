import Xcp.Federation.Charter
import Xcp.Library.Decode
import Xcp.Library.Keyed
import Xcp.Proofs.MembershipChecks
import Xcp.Proofs.TicketRoundTrip

/-! What an authority issues is what nodes start with: its charters verify in their time,
and so does the claim of each member under them. -/

namespace Xcp.Cluster
open Checked Python Eth Identity
open Delegation (RecoversBytes)

/-! ### Documents -/

namespace ClusterCharter

theorem snake_members (charter : ClusterCharter) : ∀ member ∈ charter.members, snake member.1 = member.1 := by
  have names : ∀ name ∈ ["cluster_id", "membership_root", "policy_hash", "epoch", "not_before", "not_after", "authority",
      "open", "spec_version", "signature"], snake name = name := by decide
  intro member inside
  exact names member.1 (List.mem_map_of_mem (f := Prod.fst) inside)

/-- The order of the members does not matter. -/
theorem fromDict_perm (charter : ClusterCharter) {members : List (String × Json)} (perm : members.Perm charter.members) :
    fromDict (.dict members) = .ok charter := by
  have distinct : (charter.members.map Prod.fst).Nodup := by simp [ClusterCharter.members]
  have plain : members.map (fun member => (snake member.1, member.2)) = members.map id :=
    List.map_congr_left fun member inside => by
      rw [snake_members charter member (perm.mem_iff.mp inside)]
      rfl
  have found (name : String) : Json.find? (named members) name = Json.find? charter.members name := by
    rw [named, plain, List.map_id]
    exact find?_perm distinct ((List.reverse_perm members).trans perm) name
  have keys : (Json.dict members).toList = .ok (members.map (fun member => .str member.1)) := rfl
  have complete : missing (members.map (fun member => Json.str member.1)) = [] := by
    rw [missing, List.filter_eq_nil_iff]
    intro name listed
    have inside : name ∈ members.map Prod.fst := by
      rw [(perm.map Prod.fst).mem_iff]
      revert name
      simp [ClusterCharter.members]
    obtain ⟨member, held, rfl⟩ := List.mem_map.mp inside
    rw [Bool.not_eq_true, Bool.not_eq_false', List.any_eq_true]
    exact ⟨.str member.1, List.mem_map_of_mem held, decide_eq_true (snake_members charter member (perm.mem_iff.mp held))⟩
  rw [fromDict, keys, ok_bind, require_true _ complete, ok_bind]
  simp only [requireFields, field, found]
  rfl

end ClusterCharter

theorem sorted_texts (items : List String) : (Json.list (items.map Json.str)).sorted = .list (items.map Json.str) := by
  rw [Json.sorted, sortedItems_eq_map, List.map_map]
  rfl

section Members
variable [Host]

theorem claim_read_sorted (claim : MembershipClaim) : MembershipClaim.fromDict claim.toDict.sorted = .ok claim := by
  have distinct : ([("clusterId", Json.str claim.clusterId), ("nodeId", .str claim.nodeId), ("epoch", .int claim.epoch),
      ("proof", .list (claim.proof.map Json.str))].map Prod.fst).Nodup := by simp
  have isDict : claim.toDict.sorted.isDict = true := by rw [MembershipClaim.toDict, sorted_dict]; rfl
  have proof : claim.toDict.sorted.get "proof" = claim.toDict.get "proof" := by
    rw [MembershipClaim.toDict, get_sorted distinct]
    exact congrArg Except.ok (sorted_texts claim.proof)
  have clusterId : claim.toDict.sorted.item "clusterId" = claim.toDict.item "clusterId" := item_sorted distinct "clusterId"
  have nodeId : claim.toDict.sorted.item "nodeId" = claim.toDict.item "nodeId" := item_sorted distinct "nodeId"
  have epoch : claim.toDict.sorted.item "epoch" = claim.toDict.item "epoch" := item_sorted distinct "epoch"
  have read : readClaim claim.toDict.sorted = readClaim claim.toDict := by
    rw [readClaim, readClaim, proof, clusterId, nodeId, epoch]
  have accepted := claim_accepted claim
  rw [MembershipClaim.fromDict] at accepted ⊢
  rw [isDict, read]
  exact accepted

end Members

section Signing
variable [Host] [Packages] [Accounts]

/-- What comes of signing a charter. -/
structure Signed (authorityKey : String) (members : MemberSet) (terms : CharterTerms) (now : Int) (root address : String)
    (charter : ClusterCharter) : Prop where
  begun : 1 ≤ terms.epoch
  rooted : members.root = .ok root
  keyed : Accounts.address authorityKey = .ok address
  clusterId : charter.clusterId = .str members.clusterId
  membershipRoot : charter.membershipRoot = .str root
  policyHash : charter.policyHash = .str terms.policyHash
  epoch : charter.epoch = .int terms.epoch
  notBefore : charter.notBefore = .int now
  notAfter : charter.notAfter = .int (now + terms.ttl)
  authority : charter.authority = .str address
  open_ : charter.open_ = .bool terms.open_
  specVersion : charter.specVersion = .str "0.1-draft"
  signed : ∃ signable signature, Packages.encode charter.typed = .ok signable ∧
    Packages.sign signable authorityKey = .ok signature ∧ charter.signature = .str ("0x" ++ toHex signature)

theorem signCharter_signed {authorityKey : String} {members : MemberSet} {terms : CharterTerms} {now : Int}
    {charter : ClusterCharter} (made : signCharter authorityKey members terms now = .ok charter) :
    ∃ root address, Signed authorityKey members terms now root address charter := by
  unfold signCharter at made
  split at made
  · cases made
  next started =>
    simp only [bind_eq_ok, pure_eq_ok] at made
    obtain ⟨address, keyed, root, rooted, signable, encoded, signature, signed, rfl⟩ := made
    exact ⟨root, address, {
      begun := not_lt.mp started, rooted, keyed, clusterId := rfl, membershipRoot := rfl, policyHash := rfl, epoch := rfl
      notBefore := rfl, notAfter := rfl, authority := rfl, open_ := rfl, specVersion := rfl
      signed := ⟨signable, signature, encoded, signed, rfl⟩ }⟩

namespace Signed
variable {authorityKey root address : String} {members : MemberSet} {terms : CharterTerms} {now : Int}
  {charter : ClusterCharter} (signed : Signed authorityKey members terms now root address charter)
include signed

/-- What the node that holds the charter judges by. -/
theorem held : charter.held = .ok ⟨members.clusterId, root, terms.epoch, terms.open_⟩ := by
  simp only [ClusterCharter.held, signed.clusterId, signed.membershipRoot, signed.epoch, signed.open_, Json.asStr, ok_bind]
  rfl

theorem signer (recovers : RecoversBytes) : charter.signer = .ok address := by
  obtain ⟨signable, signature, encoded, made, written⟩ := signed.signed
  obtain ⟨small, recovered⟩ := recovers authorityKey address signable signature signed.keyed made
  rw [ClusterCharter.signer, encoded, ok_bind, written, bytesBehind, fromHex_toHex small, ok_bind, recovered]

theorem signatureProblems (recovers : RecoversBytes) : charter.signatureProblems = .ok [] := by
  obtain ⟨_, signature, _, _, written⟩ := signed.signed
  have some : charter.signature.truthy = true := by
    rw [written]
    exact truthy_append _ _ (by decide)
  rw [ClusterCharter.signatureProblems, some, signed.signer recovers]
  simp only [signed.authority, Json.lower, Json.asStr, ok_bind]
  simp [pure_eq_ok]

/-- What is expected of a charter, and when it is checked. -/
structure Meets (expected : CharterExpected) (clusterId address : String) (terms : CharterTerms) (signedAt now : Int) : Prop where
  cluster : expected.clusterId = "" ∨ lower clusterId = lower expected.clusterId
  authority : expected.authority = "" ∨ lower address = lower expected.authority
  current : expected.minEpoch ≤ terms.epoch
  begun : signedAt ≤ now
  lasts : now ≤ signedAt + terms.ttl

omit [Packages] [Accounts] signed in
/-- A text that differs from the one that is expected. -/
theorem unexpected (expected found : String) : andThen (expected ≠ "") (differs (.str found) (.str expected)) =
    .ok (decide (¬ (expected = "" ∨ lower found = lower expected))) := by
  by_cases none : expected = ""
  · simp [none, andThen]
  · simp [none, andThen, differs, Json.lower, Json.asStr, pure, Except.pure, bind, Except.bind]

/-- The authority and the epoch, the cluster and the time are all that a signed charter can
be refused for. -/
theorem verifies_iff (recovers : RecoversBytes) (formed : normalise root = .ok root) (expected : CharterExpected)
    (checkedAt : Int) : ∃ problems, verifyCharter charter expected checkedAt = .ok problems ∧
      (problems = [] ↔ Meets expected members.clusterId address terms now checkedAt) := by
  have active : charter.active checkedAt = .ok (decide (now ≤ checkedAt) && decide (checkedAt ≤ now + terms.ttl)) := by
    simp only [ClusterCharter.active, signed.notBefore, signed.notAfter, Json.int_le_int, ok_bind, andThen]
    by_cases begun : now ≤ checkedAt <;> simp [begun]
  have rootFormed : rootProblems charter.membershipRoot = .ok [] := by
    rw [rootProblems, signed.membershipRoot, Json.asStr, ok_bind, formed]
    rfl
  rw [verifyCharter, signed.clusterId, unexpected, ok_bind, signed.authority, unexpected, ok_bind, active, ok_bind, signed.epoch,
    Json.int_lt_int, ok_bind, rootFormed, ok_bind, signed.signatureProblems recovers, ok_bind]
  refine ⟨_, rfl, ?_⟩
  simp only [List.append_nil, List.append_eq_nil_iff, problemIf_eq_nil, decide_eq_false_iff_not, not_not, not_lt,
    Bool.not_eq_false', Bool.and_eq_true, decide_eq_true_eq]
  constructor
  · rintro ⟨⟨⟨cluster, authority⟩, begun, lasts⟩, current⟩
    exact ⟨cluster, authority, current, begun, lasts⟩
  · intro meets
    exact ⟨⟨⟨meets.cluster, meets.authority⟩, meets.begun, meets.lasts⟩, meets.current⟩

theorem verifies (recovers : RecoversBytes) (formed : normalise root = .ok root) {expected : CharterExpected} {checkedAt : Int}
    (meets : Meets expected members.clusterId address terms now checkedAt) : verifyCharter charter expected checkedAt = .ok [] := by
  obtain ⟨problems, returned, none⟩ := signed.verifies_iff recovers formed expected checkedAt
  rw [returned, none.mpr meets]

/-- A charter is read as it was signed, its members in the order of their names. -/
theorem read_sorted : ClusterCharter.fromDict charter.toDict.sorted = .ok charter := by
  obtain ⟨_, signature, _, _, written⟩ := signed.signed
  have flat : ∀ member ∈ charter.members, member.2.sorted = member.2 := by
    simp only [ClusterCharter.members, signed.clusterId, signed.membershipRoot, signed.policyHash, signed.epoch, signed.notBefore,
      signed.notAfter, signed.authority, signed.open_, signed.specVersion, written, List.forall_mem_cons, List.not_mem_nil]
    simp [Json.sorted]
  obtain ⟨others, sorted, perm⟩ := sorted_perm flat
  rw [ClusterCharter.toDict, sorted, charter.fromDict_perm perm]

end Signed

/-! ### Claims -/

section Claims
omit [Accounts]

/-- The leaves have their form, in small letters. -/
def MemberSet.Formed (members : MemberSet) : Prop := ∀ leaf ∈ members.leaves, normalise leaf = .ok leaf

variable {members : MemberSet} {root : String} (ascii : LowersAscii) (sized : SizedHash) (formed : members.Formed)
  (rooted : members.root = .ok root)

omit [Host] in
theorem normalise_pair [Host] (ascii : LowersAscii) (sized : SizedHash) (first second node : String)
    (made : pair first second = .ok node) : normalise node = .ok node := by
  have word := hash_pair sized first second node made
  rw [normalise_word word, lower_word ascii word]

include formed

omit [Packages] in
theorem level_formed : ∀ node ∈ members.level, normalise node = .ok node := by
  intro node member
  obtain ⟨leaf, inside, rfl⟩ := List.mem_map.mp ((List.mem_insertionSort _).mp member)
  have form := formed leaf inside
  rw [← normalise_ok form]
  exact form

include ascii sized rooted

theorem root_formed : normalise root = .ok root :=
  MerkleTree.ascend_all (normalise_pair ascii sized) (MemberSet.root_ok rooted) (level_formed formed) root
    (List.mem_singleton_self root)

omit ascii sized formed rooted in
theorem climb_formed {node : String} {proof : List String} (formed : ∀ sibling ∈ proof, normalise sibling = .ok sibling) :
    climb node proof = MerkleTree.climb pair node proof := by
  induction proof generalizing node with
  | nil => rfl
  | cons sibling rest ih =>
    obtain ⟨here, later⟩ := List.forall_mem_cons.mp formed
    rw [climb, here, ok_bind, MerkleTree.climb, List.foldlM_cons]
    cases pair node sibling with
    | error exception => rfl
    | ok parent => exact ih later

/-- Every leaf has a proof under the root. -/
theorem leaf_proved {leaf : String} (member : leaf ∈ members.leaves) :
    ∃ proof, members.proofFor leaf = .ok proof ∧ verifyMembershipProof leaf proof root = .ok true := by
  have form := formed leaf member
  have still : lower leaf = leaf := (normalise_ok form).symm
  have inside : leaf ∈ members.level := (List.mem_insertionSort _).mpr (List.mem_map.mpr ⟨leaf, member, still⟩)
  have up := MemberSet.root_ok rooted
  have here : members.level[members.level.idxOf leaf]? = some leaf := List.getElem?_idxOf inside
  obtain ⟨proof, met, climbs⟩ := MerkleTree.siblings_climb Transport.pair_comm up here
  have siblings := MerkleTree.siblings_all (normalise_pair ascii sized) met (level_formed formed)
  refine ⟨proof, ?_, ?_⟩
  · have read : members.leaves.mapM normalise = .ok (members.leaves.map lower) :=
      mapM_ok fun leaf inside => by rw [formed leaf inside, ← normalise_ok (formed leaf inside)]
    rw [MemberSet.proofFor, membershipProof, read, ok_bind, form, ok_bind, List.length_map]
    exact (if_pos inside).trans met
  · rw [verifyMembershipProof, form, ok_bind, climb_formed siblings]
    have reached : MerkleTree.climb pair leaf proof = .ok root := climbs
    rw [reached, ok_bind, ← normalise_ok (root_formed ascii sized formed rooted)]
    simp [pure_eq_ok]

/-- What a member is handed proves its membership. -/
theorem claim_verifies {nodeId : String} (member : nodeId ∈ members.nodeIds) (epoch : Int) :
    ∃ claim, issueClaim members nodeId epoch = .ok claim ∧ claim.nodeId = nodeId ∧ claim.epoch = epoch ∧
      ∀ (open_ : Bool) (expected : String), expected = "" ∨ lower nodeId = lower expected →
        verifyMember ⟨members.clusterId, root, epoch, open_⟩ claim (.str expected) = .ok [] := by
  have leaf : nodeId ∈ members.leaves := List.mem_append_left _ member
  obtain ⟨proof, shown, verified⟩ := leaf_proved ascii sized formed rooted leaf
  refine ⟨⟨members.clusterId, nodeId, epoch, proof⟩, ?_, rfl, rfl, ?_⟩
  · rw [issueClaim, formed nodeId leaf, ok_bind, shown]
    rfl
  · intro open_ expected named
    have same : andThen (Json.str expected).truthy (differs (.str nodeId) (.str expected)) = .ok false := by
      rw [andThen_eq_false]
      intro other
      obtain rfl | equal := named
      · simp [Json.truthy] at other
      · simp [differs, Json.lower, Json.asStr, equal]
    rw [verifyMember, same, ok_bind, proofProblems, verified]
    simp [problemIf]

end Claims

/-! ### Issues -/

section Issues

/-- The ids that the script is given, as it reads them. -/
def IssueArgs.ids (args : IssueArgs) : List String := args.members.map (fun member => lower (strip member))

omit [Packages] [Accounts] in
/-- An id that was accepted is in small letters already. -/
theorem buildMemberSet_formed {clusterId : String} {args : IssueArgs} {tokenBytes : Nat → List Nat} {built : MemberSet}
    (ascii : LowersAscii) (random : RandomBytes tokenBytes) (made : buildMemberSet clusterId args.ids tokenBytes = .ok built) :
    built.clusterId = clusterId ∧ built.nodeIds = args.ids ∧ built.Formed := by
  obtain ⟨named, words⟩ := buildMemberSet_ok random made
  have small : args.ids.map lower = args.ids := by
    rw [IssueArgs.ids, List.map_map]
    exact List.map_congr_left fun member _ => Host.lower_lower (strip member)
  rw [small] at named
  simp only [buildMemberSet, bind_eq_ok] at made
  obtain ⟨ids, read, made⟩ := made
  have cluster : built.clusterId = clusterId := by
    split at made
    · cases made
    · split at made
      · cases made
      · cases made
        rfl
  refine ⟨cluster, named, ?_⟩
  intro leaf member
  rcases List.mem_append.mp member with own | pad
  · rw [named] at own
    obtain ⟨node, _, one⟩ := result_of_mapM read own
    obtain ⟨given, _, rfl⟩ := List.mem_map.mp own
    rw [one, normalise_ok one, Host.lower_lower]
  · rw [normalise_word (words leaf pad), lower_word ascii (words leaf pad)]

omit [Packages] [Accounts] in
theorem carryPads_formed (ascii : LowersAscii) (count : Nat) {built : MemberSet} {prior : Option MemberSet}
    (formed : built.Formed) (words : ∀ earlier ∈ prior, ∀ pad ∈ earlier.pads, Word pad) :
    (carryPads built prior count).clusterId = built.clusterId ∧ (carryPads built prior count).nodeIds = built.nodeIds ∧
      (carryPads built prior count).Formed := by
  cases prior with
  | none => exact ⟨rfl, rfl, formed⟩
  | some earlier =>
    rw [carryPads]
    split
    · refine ⟨rfl, rfl, ?_⟩
      intro leaf member
      rcases List.mem_append.mp member with own | pad
      · exact formed leaf (List.mem_append_left _ own)
      · have word := words earlier rfl leaf pad
        rw [normalise_word word, lower_word ascii word]
    · exact ⟨rfl, rfl, formed⟩

/-- A set of members whose charter the script comes to sign. -/
structure IssueArgs.Accepted (args : IssueArgs) (tokenBytes : Nat → List Nat) (members : MemberSet) : Prop where
  random : RandomBytes tokenBytes
  built : ∃ clusterId built, clusterIdFromName args.name = .ok clusterId ∧
    (∀ prior ∈ args.membersIn, lower prior.clusterId = lower clusterId ∧ ∀ pad ∈ prior.pads, Word pad) ∧
    buildMemberSet clusterId args.ids tokenBytes = .ok built ∧ members = carryPads built args.membersIn args.members.length

/-- A node that is started with the files of an issue. -/
structure Equipped (env : ClusterEnv) (files : Files) (charter : ClusterCharter) (claim : MembershipClaim) : Prop where
  charterPath : strip env.charterPath ≠ ""
  charterFile : files (strip env.charterPath) = some (.ok charter.toDict.sorted)
  claimPath : strip env.claimPath ≠ ""
  claimFile : files (strip env.claimPath) = some (.ok claim.toDict.sorted)

variable {authorityKey root address : String} {args : IssueArgs} {tokenBytes : Nat → List Nat} {members : MemberSet}
  {signedAt : Int} {charter : ClusterCharter} (ascii : LowersAscii) (sized : SizedHash) (recovers : RecoversBytes)
  (signed : Signed authorityKey members args.terms signedAt root address charter)

include ascii in
omit [Packages] [Accounts] in
theorem IssueArgs.Accepted.formed [Packages] (accepted : args.Accepted tokenBytes members) :
    members.nodeIds = args.ids ∧ members.Formed := by
  obtain ⟨clusterId, built, _, prior, made, rfl⟩ := accepted.built
  obtain ⟨_, named, formed⟩ := buildMemberSet_formed ascii accepted.random made
  obtain ⟨_, kept, formed⟩ := carryPads_formed ascii args.members.length formed (fun earlier given => (prior earlier given).2)
  exact ⟨kept.trans named, formed⟩

/-- What a node that has the files of an issue is started for. -/
structure Fits (env : ClusterEnv) (nodeId : Option String) (claim : MembershipClaim) (address : String)
    (terms : CharterTerms) (signedAt now : Int) : Prop where
  floor : ∃ minEpoch, readMinEpoch env.minEpoch = .ok minEpoch ∧ minEpoch ≤ terms.epoch
  authority : strip env.authority = "" ∨ lower address = lower (strip env.authority)
  begun : signedAt ≤ now
  lasts : now ≤ signedAt + terms.ttl
  own : ∀ id ∈ nodeId, lower claim.nodeId = lower id

/-- A claim that every charter of the issue accepts. -/
structure Handed (members : MemberSet) (root : String) (epoch : Int) (claim : MembershipClaim) : Prop where
  member : claim.nodeId ∈ members.nodeIds
  verifies : ∀ (open_ : Bool) (expected : String), expected = "" ∨ lower claim.nodeId = lower expected →
    verifyMember ⟨members.clusterId, root, epoch, open_⟩ claim (.str expected) = .ok []

include ascii sized signed

/-- No claim fails the check of the script. -/
theorem checkedClaim_ok (formed : members.Formed) {nodeId : String} (member : nodeId ∈ members.nodeIds) :
    ∃ claim, checkedClaim charter members args.terms.epoch nodeId = .ok claim ∧ claim.nodeId = nodeId ∧
      Handed members root args.terms.epoch claim := by
  obtain ⟨claim, made, named, _, verifies⟩ :=
    claim_verifies ascii sized formed signed.rooted member args.terms.epoch
  refine ⟨claim, ?_, named, by rwa [named], ?_⟩
  · rw [checkedClaim, made, ok_bind, signed.held, ok_bind, verifies args.terms.open_ nodeId (.inr rfl)]
    rfl
  · rwa [named]

include recovers

/-- Where the charter is signed, the script hands out the claims of all members. -/
theorem issue_ok (accepted : args.Accepted tokenBytes members)
    (made : signCharter authorityKey members args.terms signedAt = .ok charter) {checkedAt : Int} (begun : signedAt ≤ checkedAt)
    (lasts : checkedAt ≤ signedAt + args.terms.ttl) :
    ∃ claims, members.nodeIds.mapM (checkedClaim charter members args.terms.epoch) = .ok claims ∧
      issue authorityKey args tokenBytes signedAt checkedAt = .ok ⟨charter, members, claims⟩ ∧
      claims.map MembershipClaim.nodeId = args.ids ∧ ∀ claim ∈ claims, Handed members root args.terms.epoch claim := by
  obtain ⟨kept, formed⟩ := accepted.formed ascii
  have some : Nonempty MembershipClaim := ⟨⟨"", "", 0, []⟩⟩
  have each : ∀ nodeId ∈ members.nodeIds, _ := fun _ member => checkedClaim_ok ascii sized signed formed member
  choose! claim checked named handed using each
  have claims := mapM_ok checked
  obtain ⟨clusterId, built, cluster, prior, made', rfl⟩ := accepted.built
  have same : args.membersIn.any (fun prior => lower prior.clusterId ≠ lower clusterId) = false := by
    cases given : args.membersIn with
    | none => rfl
    | some earlier => simpa using (prior earlier given).1
  have clusterId_eq : (carryPads built args.membersIn args.members.length).clusterId = clusterId := by
    obtain ⟨own, _, formed⟩ := buildMemberSet_formed ascii accepted.random made'
    exact (carryPads_formed ascii _ formed (fun earlier given => (prior earlier given).2)).1.trans own
  have verified : verifyCharter charter { clusterId, authority := charter.authority.toStr } checkedAt = .ok [] := by
    apply signed.verifies recovers (root_formed ascii sized formed signed.rooted)
    exact {
      cluster := .inr (by rw [clusterId_eq])
      authority := .inr (by rw [signed.authority]; rfl)
      current := zero_le_one.trans signed.begun
      begun
      lasts }
  refine ⟨(carryPads built args.membersIn args.members.length).nodeIds.map claim, claims, ?_, ?_, List.forall_mem_map.mpr handed⟩
  · rw [IssueArgs.ids] at made'
    rw [issue, cluster, ok_bind, same, made']
    simp only [Bool.false_eq_true, if_false, Except.mapError, ok_bind, made, verified, claims]
    rfl
  · rw [List.map_map, ← kept]
    exact (List.map_congr_left named).trans (List.map_id _)

omit ascii sized

section Start
variable {claim : MembershipClaim} {env : ClusterEnv} {files : Files} (formed : normalise root = .ok root)
  (handed : Handed members root args.terms.epoch claim) (equipped : Equipped env files charter claim)
include formed handed equipped

/-- The charter is loaded where it meets what the environment expects, and the claim with it. -/
theorem loadPosture_iff {now : Int} {loaded : LoadedPosture} : loadPosture env files now = .ok loaded ↔
    (∃ minEpoch, readMinEpoch env.minEpoch = .ok minEpoch ∧
      Signed.Meets { authority := strip env.authority, minEpoch } members.clusterId address args.terms signedAt now) ∧
    loaded = { charter := some charter, claim := some claim } := by
  have charterRead : readDocument files "XCP_CLUSTER_CHARTER" (strip env.charterPath) "charter" ClusterCharter.fromDict =
      .ok charter := by
    simp only [readDocument, equipped.charterFile, ok_bind, signed.read_sorted]
    rfl
  have claimRead : readDocument files "XCP_CLUSTER_MEMBERSHIP" (strip env.claimPath) "claim" MembershipClaim.fromDict =
      .ok claim := by
    simp only [readDocument, equipped.claimFile, ok_bind, claim_read_sorted]
    rfl
  have claimLoaded : loadClaim env files charter = .ok (some claim) := by
    rw [loadClaim, if_neg equipped.claimPath, claimRead, ok_bind, signed.held, ok_bind,
      handed.verifies args.terms.open_ "" (.inl rfl)]
    rfl
  rw [loadPosture, if_neg equipped.charterPath, charterRead, ok_bind]
  constructor
  · intro done
    obtain ⟨minEpoch, floor, done⟩ := (bind_eq_ok _ _ _).mp done
    obtain ⟨problems, verified, none⟩ := signed.verifies_iff recovers formed { authority := strip env.authority, minEpoch } now
    rw [verified, ok_bind] at done
    cases problems with
    | cons problem rest => cases done
    | nil =>
      simp only [claimLoaded, ok_bind, pure_eq_ok] at done
      exact ⟨⟨minEpoch, floor, none.mp rfl⟩, done.symm⟩
  · rintro ⟨⟨minEpoch, floor, meets⟩, rfl⟩
    rw [floor, ok_bind, signed.verifies recovers formed meets, ok_bind]
    simp only [claimLoaded, ok_bind]
    rfl

/-- With the files of an issue a node starts where nothing else is against it. -/
theorem startCluster_iff (nodeId : Option String) (now : Int) (posture : Posture) :
    startCluster env files nodeId now = .ok posture ↔
      Fits env nodeId claim address args.terms signedAt now ∧
        posture = { charter := some ⟨members.clusterId, root, args.terms.epoch, args.terms.open_⟩, claim := some claim } := by
  have loads (loaded : LoadedPosture) : loadPosture env files now = .ok loaded ↔ _ :=
    loadPosture_iff recovers signed formed handed equipped
  obtain ⟨start, printed⟩ : ∃ start, charter.clusterId.takeFirst 14 = .ok start := ⟨_, by rw [signed.clusterId]; rfl⟩
  have own (loaded : loadPosture env files now = .ok { charter := some charter, claim := some claim }) :
      startCluster env files nodeId now = .ok posture ↔ (∀ id ∈ nodeId, lower claim.nodeId = lower id) ∧
        posture = { charter := some ⟨members.clusterId, root, args.terms.epoch, args.terms.open_⟩, claim := some claim } := by
    simp only [startCluster, loaded, Except.mapError, ok_bind, printed, signed.held]
    cases nodeId with
    | none =>
      rw [pure_eq_ok]
      simp [eq_comm]
    | some id =>
      by_cases same : lower claim.nodeId = lower id
      · simp only [same, if_true, pure_eq_ok]
        simp [eq_comm]
      · simp [same, runtimeError, raise]
  constructor
  · intro done
    have some : ∃ loaded, loadPosture env files now = .ok loaded := by
      simp only [startCluster, bind_eq_ok, mapError_eq_ok] at done
      obtain ⟨loaded, read, _⟩ := done
      exact ⟨loaded, read⟩
    obtain ⟨loaded, read⟩ := some
    obtain ⟨⟨minEpoch, floor, meets⟩, rfl⟩ := (loads loaded).mp read
    obtain ⟨same, rfl⟩ := (own read).mp done
    exact ⟨⟨⟨minEpoch, floor, meets.current⟩, meets.authority, meets.begun, meets.lasts, same⟩, rfl⟩
  · rintro ⟨fits, rfl⟩
    obtain ⟨minEpoch, floor, current⟩ := fits.floor
    have read := (loads _).mpr ⟨⟨minEpoch, floor, ⟨.inl rfl, fits.authority, current, fits.begun, fits.lasts⟩⟩, rfl⟩
    exact (own read).mpr ⟨fits.own, rfl⟩

end Start

end Issues

end Signing

/-! ### An issue for two members -/

theorem strip_word {text : String} (word : Word text) : strip text = text := by
  obtain ⟨bytes, _, small, rfl⟩ := word
  have digits : ∀ digit < 16, isSpace (hexDigit digit) = false := by decide
  have bare : ∀ letter ∈ ("0x" ++ toHex bytes).toList, isSpace letter = false := by
    simp only [hex_toList, List.forall_mem_cons, List.mem_flatMap]
    refine ⟨by decide, by decide, ?_⟩
    rintro letter ⟨byte, member, inside⟩
    have bound := small byte member
    simp only [List.mem_cons, List.not_mem_nil, or_false] at inside
    rcases inside with rfl | rfl
    · exact digits _ (by omega)
    · exact digits _ (by omega)
  rw [strip, Strip.stripBy_of_bare, String.ofList_toList]
  exact ⟨fun letter first => bare letter (List.mem_of_mem_head? first), fun letter last => bare letter (List.mem_of_mem_getLast? last)⟩

section Joint

attribute [local instance] accessHost

def jointKey : String := "0x" ++ toHex (List.replicate 32 17)

def bobKey : String := "0x" ++ toHex (List.replicate 32 34)

def bankKey : String := "0x" ++ toHex
  [156, 2, 87, 17, 78, 185, 57, 154, 41, 133, 248, 231, 93, 173, 118, 0, 197, 216, 159, 227, 130, 79, 250, 153, 236, 28, 62, 184,
  191, 59, 5, 1]

/-- The letters of the address of the second member's key. -/
def bobAddress : List Nat := utf8 "0x1563915e194d8cfba1943570603f7606a3115508"

def bobHash : List Nat :=
  [78, 52, 236, 60, 82, 208, 94, 248, 245, 162, 206, 150, 109, 85, 253, 71, 96, 35, 145, 105, 214, 93, 138, 233, 96, 158, 70,
  4, 31, 0, 28, 128]

def bobId : String := "0x" ++ toHex bobHash

def jointHash : List Nat :=
  [23, 61, 95, 66, 78, 60, 19, 128, 63, 129, 32, 243, 8, 239, 172, 43, 46, 238, 171, 149, 30, 225, 79, 177, 153, 191, 9, 168,
  197, 54, 42, 244]

def jointRootHash : List Nat :=
  [100, 219, 28, 131, 174, 252, 167, 211, 34, 250, 75, 94, 35, 137, 7, 182, 205, 72, 94, 106, 29, 9, 129, 202, 130, 186, 129,
  214, 177, 181, 52, 215]

/-- The hash of the certificate that the first member presents. -/
def certHash : List Nat :=
  [147, 60, 92, 149, 82, 210, 69, 86, 10, 100, 102, 49, 62, 215, 151, 42, 47, 66, 251, 221, 67, 35, 79, 160, 65, 22, 212, 197,
  216, 67, 174, 228]

def jointRoot : String := "0x" ++ toHex jointRootHash

def jointMembers : MemberSet where
  clusterId := "0x" ++ toHex jointHash
  nodeIds := [aliceId, bobId]

def jointArgs : IssueArgs where
  name := "acme"
  members := [aliceId, bobId]
  terms := { epoch := 1 }

def aliceJoint : MembershipClaim where
  clusterId := jointMembers.clusterId
  nodeId := aliceId
  epoch := 1
  proof := [bobId]

def bobJoint : MembershipClaim where
  clusterId := jointMembers.clusterId
  nodeId := bobId
  epoch := 1
  proof := [aliceId]

/-- The hashes that are asked for: of the name, of the addresses, of the pair of members, of
the first one's certificate, and of the second one's claim with its proof. -/
def jointHashes : List (List Nat × List Nat) :=
  [(utf8 "xcp-cluster:acme", jointHash), (aliceAddress, aliceHash), (bobAddress, bobHash), (aliceHash ++ bobHash, jointRootHash),
   ([48, 3, 2, 1, 13], certHash),
   (utf8 (Json.list [.str jointMembers.clusterId, .str bobId, .int 1, .list [.str aliceId]]).canonical,
    [171, 10, 187, 161, 169, 10, 69, 70, 138, 205, 166, 125, 248, 73, 250, 213, 174, 189, 3, 150, 94, 81, 130, 202, 9, 175, 185,
    205, 185, 185, 162, 80])]

def unsignedCharter : ClusterCharter where
  clusterId := .str jointMembers.clusterId
  membershipRoot := .str jointRoot
  policyHash := .str jointArgs.terms.policyHash
  epoch := .int 1
  notBefore := .int 1000
  notAfter := .int (1000 + defaultCharterTtl)
  authority := .str "0x19E7E376E7C213B7E7e7e46cc70A5dD086DAff2A"

def charterSigned : KeyedMessage where
  message := unsignedCharter.typed
  hash := [240, 177, 3, 155, 82, 142, 240, 237, 122, 219, 226, 167, 231, 221, 88, 22, 9, 228, 45, 182, 214, 187, 132, 171, 208, 42,
    176, 78, 151, 227, 5, 44]
  key := jointKey
  signature := [254, 176, 151, 140, 139, 46, 197, 106, 65, 44, 89, 32, 231, 170, 135, 9, 198, 195, 209, 171, 31, 173, 144, 149, 220, 16,
    131, 110, 134, 56, 29, 2, 34, 198, 252, 57, 152, 196, 226, 90, 139, 0, 5, 183, 78, 53, 43, 47, 175, 144, 111, 125, 41, 204,
    68, 0, 126, 124, 184, 211, 162, 4, 19, 200, 28]
  signer := "0x19E7E376E7C213B7E7e7e46cc70A5dD086DAff2A"

def jointCharter : ClusterCharter := { unsignedCharter with signature := .str ("0x" ++ toHex charterSigned.signature) }

/-- What the second member signs for the domain of the first one. -/
def unsignedRequest : AccessRequest where
  claim := bobJoint
  audience := "bank.example"
  issuedAt := 2000
  expiresAt := 2060

def requestSigned : KeyedMessage where
  message := @AccessRequest.typed accessHost (signingPackages jointHashes []) unsignedRequest
  hash := [240, 43, 154, 238, 121, 247, 156, 213, 51, 85, 97, 220, 105, 47, 117, 72, 246, 92, 121, 155, 175, 222, 131, 24, 247, 208,
    68, 201, 156, 116, 38, 60]
  key := bobKey
  signature := [160, 118, 27, 118, 74, 163, 146, 40, 148, 84, 178, 46, 173, 62, 81, 96, 185, 222, 82, 102, 229, 117, 239, 20, 185, 18, 203,
    235, 255, 136, 83, 137, 73, 227, 176, 168, 149, 11, 42, 104, 216, 222, 128, 240, 96, 202, 25, 220, 190, 82, 169, 240, 53,
    25, 74, 154, 189, 65, 26, 148, 221, 115, 97, 217, 27]
  signer := "0x1563915e194D8CfBA1943570603F7606A3115508"

/-- What the first member publishes its certificate with. -/
def unsignedBinding : CertBinding where
  nodeId := .str aliceId
  certFootprint := .str ("0x" ++ toHex certHash)
  sequence := .int 1
  notBefore := .int 1500
  notAfter := .int (1500 + 90 * 86400)
  domain := .str "bank.example"
  signer := .str "0x328809Bc894f92807417D2dAD6b7C998c1aFdac6"

def bindingSigned : KeyedMessage where
  message := unsignedBinding.typed
  hash := [32, 113, 246, 82, 186, 99, 49, 63, 8, 244, 169, 131, 30, 66, 68, 128, 157, 4, 133, 40, 190, 1, 255, 48, 132, 245, 136, 88,
    51, 248, 193, 22]
  key := bankKey
  signature := [198, 156, 62, 44, 95, 122, 170, 143, 16, 169, 65, 62, 68, 244, 160, 90, 13, 232, 122, 152, 232, 75, 137, 132, 208, 43, 128,
    62, 149, 182, 152, 50, 71, 80, 31, 221, 57, 186, 184, 183, 180, 7, 247, 193, 21, 107, 123, 89, 15, 132, 77, 97, 31, 202, 44,
    224, 20, 122, 185, 245, 10, 185, 219, 201, 28]
  signer := "0x328809Bc894f92807417D2dAD6b7C998c1aFdac6"

def jointMessages : List KeyedMessage := [charterSigned, requestSigned, bindingSigned]

@[reducible] local instance jointPackages : Packages := signingPackages jointHashes jointMessages

@[reducible] local instance jointAccounts : Accounts := keyedAccounts jointMessages

theorem joint_sound : SoundTables jointHashes jointMessages where
  sized := by
    simp only [jointHashes, List.forall_mem_cons]
    decide
  messages := List.Nodup.of_map TypedData.primaryType (by simp [jointMessages, charterSigned, requestSigned, bindingSigned,
    ClusterCharter.typed, AccessRequest.typed, CertBinding.typed])
  distinct := by decide
  owners := by
    have bytes : (jointMessages.map fun known => wordBytes known.key).Nodup := by
      simp only [jointMessages, charterSigned, requestSigned, bindingSigned, jointKey, bobKey, bankKey, List.map_cons, List.map_nil]
      rw [wordBytes_hex (by decide), wordBytes_hex (by decide), wordBytes_hex (by decide)]
      decide
    intro first inside second member same
    rw [List.inj_on_of_nodup_map bytes inside member (congrArg wordBytes same)]
  bytes := by decide
  letters := by decide
  words := by decide

theorem bob_word : Word bobId := ⟨bobHash, by decide, by decide, rfl⟩

theorem bob_lower : lower bobId = bobId := lower_word (asciiHost_lowersAscii []) bob_word

theorem alice_before_bob : aliceId < bobId := by
  rw [String.lt_iff_toList_lt, bobId, aliceId, hex_toList, hex_toList]
  decide

theorem bob_second : ¬ bobId < aliceId := lt_asymm alice_before_bob

theorem joint_pair : pair aliceId bobId = .ok jointRoot := by
  rw [pair_words alice_word bob_word, hashed, if_neg bob_second, aliceId, bobId, wordBytes_hex (by decide), wordBytes_hex (by decide)]
  rfl

theorem joint_read : [aliceId, bobId].mapM normalise = .ok [aliceId, bobId] := by
  rw [List.mapM_cons, List.mapM_cons, normalise_word alice_word, normalise_word bob_word, alice_lower, bob_lower]
  rfl

theorem joint_sorted : [aliceId, bobId].insertionSort (· ≤ ·) = [aliceId, bobId] := by
  simp [not_lt.mp bob_second]

theorem joint_root : jointMembers.root = .ok jointRoot := by
  change membershipRoot [aliceId, bobId] = _
  rw [membershipRoot, if_neg (by simp), joint_read, ok_bind, joint_sorted]
  simp only [List.length_cons, List.length_nil, Nat.zero_add, Nat.reduceAdd, MerkleTree.ascend, MerkleTree.parents, joint_pair]
  rfl

theorem joint_accepted : jointArgs.Accepted (fun _ => padding) jointMembers where
  random := padding_random
  built := by
    have different : [aliceId, bobId].Nodup := by
      simp [ne_of_lt alice_before_bob]
    have given : jointArgs.ids = [aliceId, bobId] := by
      change [lower (strip aliceId), lower (strip bobId)] = _
      rw [strip_word alice_word, strip_word bob_word, alice_lower, bob_lower]
    have named : clusterIdFromName jointArgs.name = .ok jointMembers.clusterId := by
      have plain : lower (strip jointArgs.name) = "acme" := by decide
      rw [clusterIdFromName, if_neg (by decide), plain]
      rfl
    refine ⟨jointMembers.clusterId, jointMembers, named, nofun, ?_, rfl⟩
    rw [given, buildMemberSet, joint_read, ok_bind, if_neg (by simp), if_neg (not_not.mpr different)]
    rfl

theorem joint_signed : signCharter jointKey jointMembers jointArgs.terms 1000 = .ok jointCharter := by
  have address : Accounts.address jointKey = .ok charterSigned.signer :=
    address_keyedAccounts joint_sound.owners (.head _ : charterSigned ∈ jointMessages)
  have encoded : Packages.encode unsignedCharter.typed = .ok charterSigned.hash :=
    joint_sound.encodes (.head _ : charterSigned ∈ jointMessages)
  have signed : Packages.sign charterSigned.hash jointKey = .ok charterSigned.signature :=
    joint_sound.signs (.head _ : charterSigned ∈ jointMessages)
  rw [signCharter, if_neg (by decide), address, ok_bind, joint_root, ok_bind]
  change (Packages.encode unsignedCharter.typed >>= _) = _
  rw [encoded, ok_bind, signed]
  rfl

theorem joint_recovers : RecoversBytes := by
  intro key address signable signature known made
  obtain ⟨bytes, recovered, _⟩ := joint_sound.recover_signed known made
  exact ⟨bytes, recovered⟩

end Joint

end Xcp.Cluster
