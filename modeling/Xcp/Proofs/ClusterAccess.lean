import Xcp.Library.Ideal
import Xcp.Federation.Cluster

/-! Who gets at the gated records of a cluster. Whatever path a request shows, the
key that signed it is one of a member in the tree that the charter commits to. -/

namespace Xcp.Cluster
open Checked Python Eth Identity

section Membership
variable [Host]

theorem normalise_ok {leaf node : String} (read : normalise leaf = .ok node) : node = lower leaf := by
  unfold normalise at read
  split at read
  next => cases read
  next => exact (Except.ok.inj read).symm

theorem normalise_hexWord {text : String} (word : HexWord text) : normalise text = .ok (lower text) := by
  obtain ⟨digits, size, _, whole⟩ := word
  have start : startsWith text "0x" = true := by
    rw [startsWith, whole]
    rfl
  have length : text.length = 66 := by
    rw [← String.length_toList, whole]
    simp [size]
  simp [normalise, start, length]

theorem normalise_word {text : String} (word : Word text) : normalise text = .ok (lower text) :=
  normalise_hexWord word.hexWord

theorem mapM_normalise {leaves nodes : List String} (read : leaves.mapM normalise = .ok nodes) :
    nodes = leaves.map lower :=
  eq_map_of_mapM (fun _ _ one => normalise_ok one) read

/-- The lowest level of the tree. -/
def MemberSet.level (members : MemberSet) : List String := (members.leaves.map lower).insertionSort (· ≤ ·)

theorem MemberSet.mem_level {members : MemberSet} {node : String} :
    node ∈ members.level ↔ node ∈ members.nodeIds.map lower ∨ ∃ pad ∈ members.pads, lower pad = node := by
  rw [MemberSet.level, List.mem_insertionSort, MemberSet.leaves, List.map_append, List.mem_append]
  simp only [List.mem_map]

/-- What a pair of words is hashed as. -/
def hashed (couple : String × String) : List Nat :=
  if couple.2 < couple.1 then wordBytes couple.2 ++ wordBytes couple.1
  else wordBytes couple.1 ++ wordBytes couple.2

omit [Host] in
theorem hashed_length {couple : String × String} (left : Word couple.1) (right : Word couple.2) :
    (hashed couple).length = 64 := by
  unfold hashed
  split <;> simp [left.length, right.length]

omit [Host] in
theorem hashed_inj {couple step : String × String} (left : Word couple.1) (right : Word couple.2) (start : Word step.1)
    (sibling : Word step.2) (same : hashed couple = hashed step) : step.1 = couple.1 ∨ step.1 = couple.2 := by
  have halves {a b c d : String} (one : Word a) (other : Word c)
      (bytes : wordBytes a ++ wordBytes b = wordBytes c ++ wordBytes d) :
      wordBytes a = wordBytes c ∧ wordBytes b = wordBytes d :=
    List.append_inj bytes (one.length.trans other.length.symm)
  unfold hashed at same
  split at same <;> split at same
  · exact .inl (start.inj left (halves right sibling same).2.symm)
  · exact .inr (start.inj right (halves right start same).1.symm)
  · exact .inr (start.inj right (halves left sibling same).2.symm)
  · exact .inl (start.inj left (halves left start same).1.symm)

variable [Packages]

omit [Host] in
theorem pair_words {first second : String} (left : Word first) (right : Word second) :
    pair first second = .ok (digest (hashed (first, second))) := by
  by_cases order : second < first
  · simp only [pair, hashed, idBytes, order, if_true, left.reads, right.reads, ok_bind]
    rfl
  · simp only [pair, hashed, idBytes, order, if_false, left.reads, right.reads, ok_bind]
    rfl

omit [Host] in
theorem pair_digest {first second node : String} (made : pair first second = .ok node) : ∃ data, node = digest data := by
  unfold pair at made
  simp only [bind_eq_ok, pure_eq_ok] at made
  obtain ⟨low, _, high, _, rfl⟩ := made
  exact ⟨_, rfl⟩

theorem MemberSet.root_ok {members : MemberSet} {root : String} (rooted : members.root = .ok root) :
    MerkleTree.ascend pair members.leaves.length members.level = .ok [root] := by
  unfold MemberSet.root membershipRoot at rooted
  split at rooted
  next => cases rooted
  next some =>
    simp only [bind_eq_ok, pure_eq_ok] at rooted
    obtain ⟨nodes, read, top, up, rfl⟩ := rooted
    obtain rfl := mapM_normalise read
    rw [List.length_map] at up
    have single : ∃ root, top = [root] := by
      apply MerkleTree.ascend_single _ _ up
      · simp
      · intro empty
        have none := congrArg List.length empty
        simp only [List.length_insertionSort, List.length_map, List.length_nil, List.length_eq_zero_iff] at none
        exact some none
    obtain ⟨root, rfl⟩ := single
    exact up

theorem climb_ok {node found : String} {proof : List String} (climbs : climb node proof = .ok found) :
    MerkleTree.climb pair node (proof.map lower) = .ok found := by
  induction proof generalizing node with
  | nil => exact climbs
  | cons sibling rest ih =>
    simp only [climb, bind_eq_ok] at climbs
    obtain ⟨normal, read, parent, made, later⟩ := climbs
    obtain rfl := normalise_ok read
    rw [MerkleTree.climb, List.map_cons, List.foldlM_cons, made]
    exact ih later

theorem proofProblems_nil {charter : Charter} {claim : MembershipClaim} (none : proofProblems charter claim = .ok []) :
    MerkleTree.climb pair (lower claim.nodeId) (claim.proof.map lower) = .ok (lower charter.membershipRoot) := by
  unfold proofProblems at none
  split at none
  next verifies verified =>
    simp only [Except.ok.injEq, problemIf_eq_nil, Bool.not_eq_false'] at none
    simp only [verifyMembershipProof, bind_eq_ok, pure_eq_ok] at verified
    obtain ⟨leaf, read, found, climbs, same⟩ := verified
    obtain rfl := normalise_ok read
    have reached : found = lower charter.membershipRoot := by simpa [none] using same
    rw [climb_ok climbs, reached]
  next exception _ =>
    split at none
    · cases none
    · cases none

theorem verifyMember_nil {charter : Charter} {claim : MembershipClaim} {expected : Json}
    (none : verifyMember charter claim expected = .ok []) :
    MerkleTree.climb pair (lower claim.nodeId) (claim.proof.map lower) = .ok (lower charter.membershipRoot) := by
  simp only [verifyMember, bind_eq_ok, pure_eq_ok, List.append_eq_nil_iff] at none
  obtain ⟨_, _, problems, proof, _, rfl⟩ := none
  exact proofProblems_nil proof

theorem signatureProblems_nil {request : AccessRequest} (none : request.signatureProblems = []) :
    ∃ signer, request.signer = .ok signer ∧ lower (nodeIdFromAddress signer) = lower request.claim.nodeId := by
  unfold AccessRequest.signatureProblems at none
  split at none
  next => cases none
  next =>
    split at none
    next => cases none
    next signer found => exact ⟨signer, found, by simpa using none⟩

/-- What is checked of the time that a request names. -/
def AccessRequest.Timely (request : AccessRequest) (now maxTtl : Int) : Prop :=
  request.issuedAt ≤ now + 5 ∧ now ≤ request.expiresAt ∧ request.expiresAt - request.issuedAt ≤ maxTtl

theorem verifyAccessRequest_nil {charter : Charter} {request : AccessRequest} {audience : String} {now maxTtl : Int} :
    verifyAccessRequest charter request audience now maxTtl = .ok [] ↔
      lower request.audience = lower (strip audience) ∧ request.Timely now maxTtl ∧
        verifyMember charter request.claim (.str "") = .ok [] ∧ request.signatureProblems = [] := by
  simp only [verifyAccessRequest, AccessRequest.Timely, AccessRequest.expired, bind_eq_ok, pure_eq_ok,
    List.append_eq_nil_iff, problemIf_eq_nil, decide_eq_false_iff_not, not_not, not_lt]
  constructor
  · rintro ⟨problems, member, ⟨⟨⟨⟨audience, expires⟩, issued⟩, life⟩, rfl⟩, signed⟩
    exact ⟨audience, ⟨issued, expires, life⟩, member, signed⟩
  · rintro ⟨audience, ⟨issued, expires, life⟩, member, signed⟩
    exact ⟨[], member, ⟨⟨⟨⟨audience, expires⟩, issued⟩, life⟩, rfl⟩, signed⟩

/-! ### An ideal hash -/

/-- The pairs that are hashed for the tree. -/
def MemberSet.pairs (members : MemberSet) : List (String × String) :=
  MerkleTree.joins pair members.leaves.length members.level

/-- The pairs that are hashed on the way up that the request shows. -/
def AccessRequest.steps (request : AccessRequest) : List (String × String) :=
  MerkleTree.path pair (lower request.claim.nodeId) (request.claim.proof.map lower)

/-- What is hashed for a decision: the addresses of the members and of the signer,
and the pairs of the tree and of the way up. -/
def hashInputs (members : MemberSet) (addresses : List (List Nat)) (request : AccessRequest) : List (List Nat) :=
  addresses ++ request.signer.toOption.toList.map (fun signer => utf8 (lower signer)) ++ members.pairs.map hashed ++
    request.steps.map hashed

theorem mem_hashInputs {members : MemberSet} {addresses : List (List Nat)} {request : AccessRequest} {data : List Nat} :
    data ∈ hashInputs members addresses request ↔
      data ∈ addresses ∨ (∃ signer, request.signer = .ok signer ∧ utf8 (lower signer) = data) ∨
        (∃ couple ∈ members.pairs, hashed couple = data) ∨ ∃ step ∈ request.steps, hashed step = data := by
  have signers : data ∈ request.signer.toOption.toList.map (fun signer => utf8 (lower signer)) ↔
      ∃ signer, request.signer = .ok signer ∧ utf8 (lower signer) = data := by
    cases request.signer with
    | ok signer => simp [Except.toOption, eq_comm]
    | error exception => simp [Except.toOption]
  simp only [hashInputs, List.mem_append, signers, List.mem_map, or_assoc]

/-- The members are named by the addresses of their keys, and the other leaves are
random words, which are the hash of nothing. -/
structure MemberSet.Enrols (members : MemberSet) (addresses inputs : List (List Nat)) : Prop where
  named : members.nodeIds.map lower = addresses.map digest
  letters : ∀ address ∈ addresses, address.length = 42
  words : ∀ pad ∈ members.pads, Word (lower pad)
  random : ∀ pad ∈ members.pads, ∀ data ∈ inputs, digest data ≠ lower pad

/-- The signer of a message is given by an address, `0x` and twenty bytes. -/
def RecoversAddresses : Prop :=
  ∀ signable signature signer, Packages.recover signable signature = .ok signer → (utf8 (lower signer)).length = 42

theorem signer_address (addresses : RecoversAddresses) {request : AccessRequest} {signer : String}
    (found : request.signer = .ok signer) : (utf8 (lower signer)).length = 42 := by
  simp only [AccessRequest.signer, bind_eq_ok] at found
  obtain ⟨signable, _, signature, _, recovered⟩ := found
  exact addresses signable (.bytes signature) signer recovered

omit [Host] in
theorem hash_pair (sized : SizedHash) (first second node : String) (made : pair first second = .ok node) : Word node := by
  obtain ⟨data, rfl⟩ := pair_digest made
  exact word_digest sized data

theorem level_words (sized : SizedHash) {members : MemberSet} {addresses inputs : List (List Nat)}
    (enrols : members.Enrols addresses inputs) : ∀ node ∈ members.level, Word node := by
  intro node member
  rcases MemberSet.mem_level.mp member with named | ⟨pad, inside, rfl⟩
  · rw [enrols.named] at named
    obtain ⟨address, _, rfl⟩ := List.mem_map.mp named
    exact word_digest sized address
  · exact enrols.words pad inside

omit [Host] in
/-- An address has 42 letters, and a pair 64 bytes. -/
theorem address_not_pair {address : List Nat} {all : List (List Nat)} {couple : String × String}
    (free : CollisionFree all) (known : address ∈ all) (letters : address.length = 42) (input : hashed couple ∈ all)
    (left : Word couple.1) (right : Word couple.2) : digest address ≠ digest (hashed couple) := by
  intro same
  have equal := free address known (hashed couple) input same
  rw [equal, hashed_length left right] at letters
  omega

section Ideal
variable {members : MemberSet} {addresses : List (List Nat)} {request : AccessRequest} {signer root node : String}
  {couple step : String × String} (sized : SizedHash)
  (enrols : members.Enrols addresses (hashInputs members addresses request))
  (free : CollisionFree (hashInputs members addresses request))
include sized

include enrols in
theorem pairs_words (member : couple ∈ members.pairs) : Word couple.1 ∧ Word couple.2 :=
  MerkleTree.joins_all (hash_pair sized) (level_words sized enrols) couple member

theorem steps_words (start : Word (lower request.claim.nodeId))
    (words : ∀ element ∈ request.claim.proof, Word (lower element)) (inside : step ∈ request.steps) :
    Word step.1 ∧ Word step.2 :=
  MerkleTree.path_all (hash_pair sized) start (List.forall_mem_map.mpr words) step inside

include enrols free

/-- Where a step of the way up meets the tree it goes up from a node of it. -/
theorem step_in_tree (member : couple ∈ members.pairs) (inside : step ∈ request.steps) (start : Word step.1)
    (sibling : Word step.2) (joined : pair couple.1 couple.2 = .ok node) (stepped : pair step.1 step.2 = .ok node) :
    step.1 = couple.1 ∨ step.1 = couple.2 := by
  obtain ⟨left, right⟩ := pairs_words sized enrols member
  rw [pair_words left right, Except.ok.injEq] at joined
  rw [pair_words start sibling, Except.ok.injEq] at stepped
  have same := free (hashed couple) (mem_hashInputs.mpr (.inr (.inr (.inl ⟨couple, member, rfl⟩)))) (hashed step)
    (mem_hashInputs.mpr (.inr (.inr (.inr ⟨step, inside, rfl⟩)))) (joined.trans stepped.symm)
  exact hashed_inj left right start sibling same

omit sized in
/-- No step of the way up ends at a leaf. -/
theorem step_not_leaf (inside : step ∈ request.steps) (start : Word step.1) (sibling : Word step.2)
    (stepped : pair step.1 step.2 = .ok node) : node ∉ members.level := by
  intro member
  have input : hashed step ∈ hashInputs members addresses request :=
    mem_hashInputs.mpr (.inr (.inr (.inr ⟨step, inside, rfl⟩)))
  rw [pair_words start sibling, Except.ok.injEq] at stepped
  subst stepped
  rcases MemberSet.mem_level.mp member with named | ⟨pad, padded, same⟩
  · rw [enrols.named] at named
    obtain ⟨address, enrolled, same⟩ := List.mem_map.mp named
    exact address_not_pair free (mem_hashInputs.mpr (.inl enrolled)) (enrols.letters address enrolled) input start sibling
      same
  · exact enrols.random pad padded (hashed step) input same.symm

/-- The address of the signer is hashed to a member's name: its hash is no inner
node of the tree. -/
theorem signer_enrolled (recovers : RecoversAddresses) (words : ∀ element ∈ request.claim.proof, Word (lower element))
    (rooted : members.root = .ok root) (found : request.signer = .ok signer)
    (named : nodeIdFromAddress signer = lower request.claim.nodeId)
    (climbs : MerkleTree.climb pair (lower request.claim.nodeId) (request.claim.proof.map lower) = .ok root) :
    nodeIdFromAddress signer ∈ members.nodeIds.map lower := by
  have start : Word (lower request.claim.nodeId) := by
    rw [← named]
    exact word_digest sized _
  have mine : utf8 (lower signer) ∈ hashInputs members addresses request :=
    mem_hashInputs.mpr (.inr (.inl ⟨signer, found, rfl⟩))
  have leaf : lower request.claim.nodeId ∈ members.level := by
    apply MerkleTree.mem_leaves_of_climb (MemberSet.root_ok rooted) _ _ _ climbs
    · intro couple member step inside node joined stepped
      obtain ⟨node', sibling⟩ := steps_words sized start words inside
      exact step_in_tree sized enrols free member inside node' sibling joined stepped
    · intro step inside node stepped
      obtain ⟨node', sibling⟩ := steps_words sized start words inside
      exact step_not_leaf enrols free inside node' sibling stepped
    · intro couple member joined
      obtain ⟨left, right⟩ := pairs_words sized enrols member
      rw [pair_words left right, Except.ok.injEq, ← named] at joined
      have input : hashed couple ∈ hashInputs members addresses request :=
        mem_hashInputs.mpr (.inr (.inr (.inl ⟨couple, member, rfl⟩)))
      exact address_not_pair free mine (signer_address recovers found) input left right joined.symm
  rw [← named] at leaf
  rcases MemberSet.mem_level.mp leaf with id | ⟨pad, padded, same⟩
  · exact id
  · exact absurd same.symm (enrols.random pad padded _ mine)

end Ideal

theorem lower_root (ascii : LowersAscii) (sized : SizedHash) {members : MemberSet} {addresses inputs : List (List Nat)}
    (enrols : members.Enrols addresses inputs) {root : String} (rooted : members.root = .ok root) : lower root = root := by
  have up := MemberSet.root_ok rooted
  have tree : ∀ node ∈ [root], Word node := MerkleTree.ascend_all (hash_pair sized) up (level_words sized enrols)
  exact lower_word ascii (tree root (List.mem_singleton_self root))

/-- A request without problems was signed by the key of a member and is for this
audience and this time. No key of another node gets one accepted, whatever its
path and its epoch. -/
theorem access_is_membership {charter : Charter} {members : MemberSet} {addresses : List (List Nat)}
    {request : AccessRequest} {audience : String} {now maxTtl : Int} (ascii : LowersAscii) (sized : SizedHash)
    (recovers : RecoversAddresses) (enrols : members.Enrols addresses (hashInputs members addresses request))
    (free : CollisionFree (hashInputs members addresses request))
    (words : ∀ element ∈ request.claim.proof, Word (lower element))
    (rooted : members.root = .ok charter.membershipRoot) :
    (verifyAccessRequest charter request audience now maxTtl = .ok [] →
      (∃ signer, request.signer = .ok signer ∧ nodeIdFromAddress signer ∈ members.nodeIds.map lower) ∧
        lower request.audience = lower (strip audience) ∧ request.Timely now maxTtl) ∧
    ∀ signer, request.signer = .ok signer → nodeIdFromAddress signer ∉ members.nodeIds.map lower →
      verifyAccessRequest charter request audience now maxTtl ≠ .ok [] := by
  have accepted (none : verifyAccessRequest charter request audience now maxTtl = .ok []) :
      (∃ signer, request.signer = .ok signer ∧ nodeIdFromAddress signer ∈ members.nodeIds.map lower) ∧
        lower request.audience = lower (strip audience) ∧ request.Timely now maxTtl := by
    obtain ⟨here, timely, member, signed⟩ := verifyAccessRequest_nil.mp none
    obtain ⟨signer, found, named⟩ := signatureProblems_nil signed
    have climbs := verifyMember_nil member
    rw [lower_root ascii sized enrols rooted] at climbs
    rw [nodeIdFromAddress, lower_word ascii (word_digest sized _)] at named
    exact ⟨⟨signer, found, signer_enrolled sized enrols free recovers words rooted found named climbs⟩, here, timely⟩
  constructor
  · exact accepted
  · intro signer found outside none
    obtain ⟨⟨signer', found', inside⟩, _⟩ := accepted none
    obtain rfl : signer = signer' := Except.ok.inj (found.symm.trans found')
    exact outside inside

end Membership

/-! ### A member of a cluster of one -/

section Alice

local instance accessHost : Host := asciiHost []

/-- The letters of the address of the member's key. -/
def aliceAddress : List Nat :=
  [48, 120, 51, 50, 56, 56, 48, 57, 98, 99, 56, 57, 52, 102, 57, 50, 56, 48, 55, 52, 49, 55, 100, 50, 100, 97, 100, 54, 98,
  55, 99, 57, 57, 56, 99, 49, 97, 102, 100, 97, 99, 54]

def aliceHash : List Nat :=
  [7, 168, 112, 91, 113, 31, 81, 171, 61, 231, 54, 8, 39, 217, 169, 17, 28, 30, 109, 57, 164, 78, 48, 129, 130, 218, 120,
  240, 9, 119, 166, 249]

def padding : List Nat := List.replicate 32 171

def rootHash : List Nat :=
  [67, 210, 131, 41, 43, 249, 31, 188, 229, 138, 173, 202, 163, 76, 28, 188, 27, 96, 4, 105, 18, 153, 24, 36, 82, 88, 189,
  151, 43, 178, 113, 64]

def aliceId : String := "0x" ++ toHex aliceHash

def padId : String := "0x" ++ toHex padding

def acmeMembers : MemberSet where
  clusterId := "acme"
  nodeIds := [aliceId]
  pads := [padId]

def acmeCharter : Charter where
  clusterId := "acme"
  membershipRoot := "0x" ++ toHex rootHash
  epoch := 1

def aliceClaim : MembershipClaim where
  clusterId := "acme"
  nodeId := aliceId
  epoch := 1
  proof := [padId]

def aliceSignature : List Nat :=
  [123, 175, 30, 21, 4, 62, 212, 238, 201, 121, 246, 107, 198, 210, 127, 166, 202, 184, 2, 68, 74, 203, 27, 175, 174, 219,
  127, 196, 60, 154, 26, 169, 56, 234, 7, 2, 47, 208, 189, 148, 12, 247, 35, 252, 92, 54, 116, 12, 157, 89, 180, 149, 67,
  120, 194, 83, 170, 92, 160, 161, 189, 116, 132, 79, 27]

def aliceRequest : AccessRequest where
  claim := aliceClaim
  audience := "bank.example"
  issuedAt := 1000
  expiresAt := 1060
  signature := "0x" ++ toHex aliceSignature

/-- The hashes that are asked for: of the address, of the pair of leaves, and of the
claim with its proof. -/
def accessHashes : List (List Nat × List Nat) :=
  [(aliceAddress, aliceHash), (aliceHash ++ padding, rootHash),
   (utf8 (Json.list [.str "acme", .str aliceId, .int 1, .list [.str padId]]).canonical,
    [130, 11, 114, 15, 196, 72, 82, 49, 100, 173, 12, 10, 121, 77, 12, 57, 47, 120, 49, 241, 107, 208, 227, 6, 248, 221, 194,
    57, 47, 96, 95, 16])]

/-- The packages on these inputs. -/
@[reducible] def acmePackages (signed : List SignedMessage) : Packages :=
  { tablePackages accessHashes signed with keccak := fun data => (accessHashes.lookup data).getD (List.replicate 32 0) }

theorem encode_acme {signed : List SignedMessage} {known : SignedMessage}
    (found : signed.find? (fun other => other.message = known.message) = some known) :
    (acmePackages signed).encode known.message = .ok known.hash :=
  encode_tablePackages accessHashes found

theorem recover_acme {signed : List SignedMessage} {known : SignedMessage}
    (found : signed.find? (fun other => other.hash = known.hash && other.signature = known.signature) = some known) :
    (acmePackages signed).recover known.hash known.signature = .ok known.signer :=
  recover_tablePackages accessHashes found

def aliceMessage : SignedMessage where
  message := @AccessRequest.typed _ (acmePackages []) aliceRequest
  hash := [46, 209, 183, 204, 86, 206, 16, 27, 18, 185, 34, 151, 104, 38, 183, 157, 205, 171, 81, 163, 77, 115, 152, 59, 122,
    185, 215, 80, 14, 106, 250, 211]
  signature := .bytes aliceSignature
  signer := "0x328809Bc894f92807417D2dAD6b7C998c1aFdac6"

local instance accessPackages : Packages := acmePackages [aliceMessage]

theorem access_sized : SizedHash := by
  have entries : ∀ entry ∈ accessHashes, entry.2.length = 32 ∧ ∀ byte ∈ entry.2, byte < 256 := by decide
  have sized : ∀ data, (Packages.keccak data).length = 32 ∧ ∀ byte ∈ Packages.keccak data, byte < 256 := by
    intro data
    simp only [Packages.keccak]
    cases found : accessHashes.lookup data with
    | none => decide
    | some hash =>
      obtain ⟨before, after, same, _⟩ := List.lookup_eq_some_iff.mp found
      exact entries (data, hash) (by simp [same])
  exact ⟨fun data => (sized data).1, fun data => (sized data).2⟩

theorem alice_digest : digest aliceAddress = aliceId := rfl

theorem alice_word : Word aliceId := word_digest access_sized aliceAddress

theorem pad_word : Word padId := ⟨padding, by decide, by decide, rfl⟩

theorem alice_first : ¬ padId < aliceId := by decide +kernel

theorem alice_signer : aliceRequest.signer = .ok aliceMessage.signer := by
  have typed : aliceRequest.typed = aliceMessage.message := rfl
  have known : [aliceMessage].find? (fun other => other.message = aliceMessage.message) = some aliceMessage := by simp
  have signature : fromHex (dropStart aliceRequest.signature 2) = .ok aliceSignature := fromHex_toHex (by decide)
  have signed : [aliceMessage].find? (fun other => other.hash = aliceMessage.hash &&
      other.signature = aliceMessage.signature) = some aliceMessage := by simp
  have encoded : Packages.encode aliceMessage.message = .ok aliceMessage.hash := encode_acme known
  have recovered : Packages.recover aliceMessage.hash aliceMessage.signature = .ok aliceMessage.signer :=
    recover_acme signed
  rw [AccessRequest.signer, typed, encoded, ok_bind, signature, ok_bind]
  exact recovered

theorem alice_lower : lower aliceId = aliceId := lower_word (asciiHost_lowersAscii []) alice_word

theorem pad_lower : lower padId = padId := lower_word (asciiHost_lowersAscii []) pad_word

theorem alice_letters : utf8 (lower aliceMessage.signer) = aliceAddress := by decide +kernel

theorem alice_named : nodeIdFromAddress aliceMessage.signer = aliceId := by
  rw [nodeIdFromAddress, alice_letters, alice_digest]

theorem acme_level : acmeMembers.level = [aliceId, padId] := by
  have ordered : aliceId ≤ padId := not_lt.mp alice_first
  simp [MemberSet.level, MemberSet.leaves, acmeMembers, alice_lower, pad_lower, ordered]

theorem acme_bytes : hashed (aliceId, padId) = aliceHash ++ padding := by
  rw [hashed, if_neg alice_first, aliceId, padId, wordBytes_hex (by decide), wordBytes_hex (by decide)]

theorem acme_pair : pair aliceId padId = .ok acmeCharter.membershipRoot := by
  rw [pair_words alice_word pad_word, acme_bytes]
  rfl

theorem acme_up : MerkleTree.ascend pair 2 [aliceId, padId] = .ok [acmeCharter.membershipRoot] := by
  rw [MerkleTree.ascend, MerkleTree.parents, acme_pair]
  rfl

theorem acme_root : acmeMembers.root = .ok acmeCharter.membershipRoot := by
  have read : [aliceId, padId].mapM normalise = .ok [aliceId, padId] := by
    rw [List.mapM_cons, List.mapM_cons, normalise_word alice_word, normalise_word pad_word, alice_lower, pad_lower]
    rfl
  have sorted : [aliceId, padId].insertionSort (· ≤ ·) = [aliceId, padId] := by
    simp [not_lt.mp alice_first]
  change membershipRoot [aliceId, padId] = _
  rw [membershipRoot, if_neg (by simp), read, ok_bind, sorted, List.length_cons, List.length_singleton, acme_up]
  rfl

theorem alice_member : verifyMember acmeCharter aliceRequest.claim (.str "") = .ok [] := by
  have climbs : climb aliceId [padId] = .ok acmeCharter.membershipRoot := by
    rw [climb, normalise_word pad_word, pad_lower, ok_bind, acme_pair]
    rfl
  have root : lower acmeCharter.membershipRoot = acmeCharter.membershipRoot :=
    lower_word (asciiHost_lowersAscii []) ⟨rootHash, by decide, by decide, rfl⟩
  have proof : verifyMembershipProof aliceId [padId] acmeCharter.membershipRoot = .ok true := by
    rw [verifyMembershipProof, normalise_word alice_word, alice_lower, ok_bind, climbs, ok_bind, root]
    simp [pure, Except.pure]
  have shown : verifyMembershipProof aliceRequest.claim.nodeId aliceRequest.claim.proof acmeCharter.membershipRoot =
      .ok true := proof
  have problems : proofProblems acmeCharter aliceRequest.claim = .ok [] := by
    rw [proofProblems, shown]
    rfl
  have unnamed : andThen (Json.str "").truthy (differs (.str aliceRequest.claim.nodeId) (.str "")) = .ok false := rfl
  rw [verifyMember, unnamed, ok_bind, problems, ok_bind]
  simp [aliceRequest, aliceClaim, acmeCharter, pure, Except.pure]

theorem alice_accepted {now : Int} (begun : 995 ≤ now) (open_ : now ≤ 1060) :
    verifyAccessRequest acmeCharter aliceRequest "bank.example" now accessTtl = .ok [] := by
  apply verifyAccessRequest_nil.mpr
  refine ⟨by decide, ⟨?_, open_, by decide⟩, alice_member, ?_⟩
  · simp only [aliceRequest]
    omega
  · have given : aliceRequest.signature ≠ "" := by
      simp [aliceRequest]
    rw [AccessRequest.signatureProblems, if_neg given, alice_signer]
    simp [alice_named, aliceRequest, aliceClaim]

theorem acme_pairs : acmeMembers.pairs = [(aliceId, padId)] := by
  rw [MemberSet.pairs, acme_level, show acmeMembers.leaves.length = 2 from rfl, MerkleTree.joins, MerkleTree.parents,
    acme_pair]
  rfl

theorem alice_steps : aliceRequest.steps = [(aliceId, padId)] := by
  have start : lower aliceRequest.claim.nodeId = aliceId := alice_lower
  have shown : aliceRequest.claim.proof.map lower = [padId] := congrArg (fun text => [text]) pad_lower
  rw [AccessRequest.steps, start, shown, MerkleTree.path, acme_pair]
  rfl

theorem acme_inputs {data : List Nat} (input : data ∈ hashInputs acmeMembers [aliceAddress] aliceRequest) :
    data = aliceAddress ∨ data = aliceHash ++ padding := by
  rcases mem_hashInputs.mp input with address | ⟨signer, found, rfl⟩ | ⟨couple, member, rfl⟩ | ⟨step, member, rfl⟩
  · exact .inl (List.mem_singleton.mp address)
  · rw [alice_signer, Except.ok.injEq] at found
    subst found
    exact .inl alice_letters
  · rw [acme_pairs] at member
    rw [List.mem_singleton.mp member]
    exact .inr acme_bytes
  · rw [alice_steps] at member
    rw [List.mem_singleton.mp member]
    exact .inr acme_bytes

theorem acme_digest {data : List Nat} (input : data ∈ hashInputs acmeMembers [aliceAddress] aliceRequest) :
    (data = aliceAddress ∧ wordBytes (digest data) = aliceHash) ∨
      (data = aliceHash ++ padding ∧ wordBytes (digest data) = rootHash) := by
  rcases acme_inputs input with rfl | rfl
  · exact .inl ⟨rfl, wordBytes_hex (by decide)⟩
  · exact .inr ⟨rfl, wordBytes_hex (by decide)⟩

theorem acme_free : CollisionFree (hashInputs acmeMembers [aliceAddress] aliceRequest) := by
  intro data input data' input' same
  have bytes := congrArg wordBytes same
  have differ : aliceHash ≠ rootHash := by decide
  rcases acme_digest input with ⟨rfl, hash⟩ | ⟨rfl, hash⟩ <;> rcases acme_digest input' with ⟨rfl, hash'⟩ | ⟨rfl, hash'⟩
  · rfl
  · exact absurd (hash.symm.trans (bytes.trans hash')) differ
  · exact absurd (hash'.symm.trans (bytes.symm.trans hash)) differ
  · rfl

theorem acme_enrols : acmeMembers.Enrols [aliceAddress] (hashInputs acmeMembers [aliceAddress] aliceRequest) where
  named := by simp [acmeMembers, alice_lower, alice_digest]
  letters := by decide
  words := by simp [acmeMembers, pad_lower, pad_word]
  random := by
    intro pad member data input same
    obtain rfl : pad = padId := by simpa [acmeMembers] using member
    have bytes : wordBytes (digest data) = padding := by
      rw [same, pad_lower, padId, wordBytes_hex (by decide)]
    rcases acme_digest input with ⟨_, hash⟩ | ⟨_, hash⟩
    · exact absurd (hash.symm.trans bytes) (by decide)
    · exact absurd (hash.symm.trans bytes) (by decide)

theorem access_recovers : RecoversAddresses := by
  intro signable signature signer recovered
  simp only [Packages.recover] at recovered
  split at recovered
  next known found =>
    obtain rfl : known = aliceMessage := List.mem_singleton.mp (List.mem_of_find?_eq_some found)
    rw [← Except.ok.inj recovered, alice_letters]
    rfl
  next => cases recovered

theorem access_is_membership_alice :
    (∃ signer, aliceRequest.signer = .ok signer ∧ nodeIdFromAddress signer ∈ acmeMembers.nodeIds.map lower) ∧
      lower aliceRequest.audience = lower (strip "bank.example") ∧ aliceRequest.Timely 1030 accessTtl := by
  have words : ∀ element ∈ aliceRequest.claim.proof, Word (lower element) := by
    simp [aliceRequest, aliceClaim, pad_lower, pad_word]
  exact (access_is_membership (asciiHost_lowersAscii []) access_sized access_recovers acme_enrols acme_free words
    acme_root).1 (alice_accepted (by decide) (by decide))

/-- Three seconds before the time that it names, a request is let in already. -/
theorem early_request_accepted :
    acmeMembers.root = .ok acmeCharter.membershipRoot ∧
      verifyAccessRequest acmeCharter aliceRequest "bank.example" 997 accessTtl = .ok [] ∧
      ¬ (aliceRequest.issuedAt ≤ 997 ∧ 997 ≤ aliceRequest.expiresAt) :=
  ⟨acme_root, alice_accepted (by decide) (by decide), by decide⟩

end Alice

end Xcp.Cluster
