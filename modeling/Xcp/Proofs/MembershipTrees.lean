import Xcp.Contracts.NodeRegistry
import Xcp.Federation.Ledger
import Xcp.Proofs.ClusterAccess

/-! Three trees over the same leaves. The authority of a cluster builds one, the
contract checks the proofs of it, and the billing of routes builds its own. -/

namespace Xcp.Cluster
open Checked Python Eth
open Evm (Bytes32 Preimage)
open NodeRegistry (hashPair)

theorem wordBytes_lower [Host] (ascii : LowersAscii) {text : String} (word : HexWord text) :
    wordBytes text = wordBytes (lower text) := by
  rw [wordBytes, (word.lower ascii).2, settle_ok]

/-- The lowest level of the tree of some leaves. -/
def lowest [Host] (leaves : List String) : List String := (leaves.map lower).insertionSort (· ≤ ·)

section Levels
variable [Host]

theorem mapM_hexWords {leaves : List String} (hex : ∀ leaf ∈ leaves, HexWord leaf) :
    leaves.mapM normalise = .ok (leaves.map lower) :=
  mapM_ok fun leaf member => normalise_hexWord (hex leaf member)

theorem lowest_words (ascii : LowersAscii) {leaves : List String} (hex : ∀ leaf ∈ leaves, HexWord leaf) :
    ∀ node ∈ lowest leaves, Word node := by
  intro node member
  obtain ⟨leaf, inside, rfl⟩ := List.mem_map.mp ((List.mem_insertionSort _).mp member)
  exact ((hex leaf inside).lower ascii).1

theorem lowest_length (leaves : List String) : (lowest leaves).length = leaves.length := by
  rw [lowest, List.length_insertionSort, List.length_map]

theorem lowest_perm {leaves others : List String} (perm : (others.map lower).Perm (leaves.map lower)) :
    lowest others = lowest leaves := by
  apply List.Perm.eq_of_sortedLE
  · exact List.sortedLE_insertionSort
  · exact List.sortedLE_insertionSort
  · exact (List.perm_insertionSort _ _).trans (perm.trans (List.perm_insertionSort _ _).symm)

/-- Small letters stay as they are. -/
theorem lowest_of_words (ascii : LowersAscii) {leaves : List String} (words : ∀ leaf ∈ leaves, Word leaf) :
    lowest leaves = Transport.sorted leaves := by
  have same : leaves.map lower = leaves.map id := List.map_congr_left fun leaf member => lower_word ascii (words leaf member)
  rw [lowest, same, List.map_id, Transport.sorted]

end Levels

section Trees
variable [Host] [Packages]

omit [Host] in
/-- Words can be hashed in pairs, to words. -/
theorem pair_word (sized : SizedHash) (first second : String) (left : Word first) (right : Word second) :
    ∃ node, pair first second = .ok node ∧ Word node :=
  ⟨_, pair_words left right, word_digest sized _⟩

/-- Every list of words has a tree, and its root is a word. -/
theorem tree_built (ascii : LowersAscii) (sized : SizedHash) {leaves : List String} (inhabited : leaves ≠ [])
    (hex : ∀ leaf ∈ leaves, HexWord leaf) :
    ∃ root, MerkleTree.ascend pair leaves.length (lowest leaves) = .ok [root] ∧ Word root := by
  obtain ⟨top, up, words⟩ := MerkleTree.ascend_total (pair_word sized) leaves.length (lowest_words ascii hex)
  have size := lowest_length leaves
  have some : lowest leaves ≠ [] := by
    intro none
    rw [none, List.length_nil] at size
    exact inhabited (List.eq_nil_of_length_eq_zero size.symm)
  obtain ⟨root, rfl⟩ := MerkleTree.ascend_single (by omega) some up
  exact ⟨root, up, words root (List.mem_singleton_self root)⟩

theorem membershipRoot_of_hexWords {leaves : List String} {root : String} (inhabited : leaves ≠ [])
    (hex : ∀ leaf ∈ leaves, HexWord leaf) (up : MerkleTree.ascend pair leaves.length (lowest leaves) = .ok [root]) :
    membershipRoot leaves = .ok root := by
  rw [membershipRoot, if_neg inhabited, mapM_hexWords hex, ok_bind, List.length_map]
  change (MerkleTree.ascend pair leaves.length (lowest leaves) >>= _) = _
  rw [up]
  rfl

theorem membershipProof_of_hexWords {leaves : List String} {member : String} (hex : ∀ leaf ∈ leaves, HexWord leaf)
    (word : HexWord member) (inside : lower member ∈ lowest leaves) :
    membershipProof leaves member =
      MerkleTree.siblings pair leaves.length (lowest leaves) ((lowest leaves).idxOf (lower member)) := by
  rw [membershipProof, mapM_hexWords hex, ok_bind, normalise_hexWord word, ok_bind, List.length_map]
  exact if_pos inside

/-- Where all siblings are words, none is refused on the way up. -/
theorem climb_words (ascii : LowersAscii) {node : String} {proof : List String} (words : ∀ sibling ∈ proof, Word sibling) :
    climb node proof = MerkleTree.climb pair node proof := by
  induction proof generalizing node with
  | nil => rfl
  | cons sibling rest ih =>
    obtain ⟨here, later⟩ := List.forall_mem_cons.mp words
    rw [climb, normalise_word here, lower_word ascii here, ok_bind, MerkleTree.climb, List.foldlM_cons]
    cases pair node sibling with
    | error exception => rfl
    | ok parent => exact ih later

/-- The siblings of a leaf are words that lead to the root. -/
theorem member_climbs (ascii : LowersAscii) (sized : SizedHash) {leaves : List String} {member root : String}
    (hex : ∀ leaf ∈ leaves, HexWord leaf) (inside : lower member ∈ lowest leaves)
    (up : MerkleTree.ascend pair leaves.length (lowest leaves) = .ok [root]) :
    ∃ proof, MerkleTree.siblings pair leaves.length (lowest leaves) ((lowest leaves).idxOf (lower member)) = .ok proof ∧
      (∀ sibling ∈ proof, Word sibling) ∧ MerkleTree.climb pair (lower member) proof = .ok root := by
  have here : (lowest leaves)[(lowest leaves).idxOf (lower member)]? = some (lower member) := List.getElem?_idxOf inside
  obtain ⟨proof, met, climbs⟩ := MerkleTree.siblings_climb Transport.pair_comm up here
  exact ⟨proof, met, MerkleTree.siblings_all (hash_pair sized) met (lowest_words ascii hex), climbs⟩

end Trees

/-! ### The contract -/

section Contract
variable [Packages]

/-- The contract's hash of two words is that of their bytes, which the packages have. -/
def OneKeccak (keccak256 : Preimage → Bytes32) : Prop :=
  ∀ first second : List Nat, first.length = 32 → second.length = 32 → (∀ byte ∈ first, byte < 256) →
    (∀ byte ∈ second, byte < 256) →
    keccak256 (.packed [ofBytes first, ofBytes second]) = ofBytes (Packages.keccak (first ++ second))

variable {keccak256 : Preimage → Bytes32}

theorem hashPair_words (sized : SizedHash) (one : OneKeccak keccak256) {first second : String} (left : Word first)
    (right : Word second) : hashPair keccak256 (wordNumber first) (wordNumber second) =
      wordNumber (digest (wordBytes first ++ wordBytes second)) := by
  rw [hashPair, wordNumber, wordNumber, one _ _ left.length right.length left.small right.small, wordNumber]
  exact congrArg ofBytes (wordBytes_hex (sized.bytes _)).symm

/-- Both sort a pair before they hash it. -/
theorem join_words (sized : SizedHash) (one : OneKeccak keccak256) {first second : String} (left : Word first)
    (right : Word second) : Merkle.join (hashPair keccak256) (wordNumber first) (wordNumber second) =
      wordNumber (digest (hashed (first, second))) := by
  rcases lt_trichotomy first second with less | rfl | greater
  · rw [Merkle.join, if_pos ((left.lt_iff right).mp less), hashed, if_neg less.asymm, hashPair_words sized one left right]
  · rw [Merkle.join, ite_self, hashed, ite_self, hashPair_words sized one left right]
  · rw [Merkle.join, if_neg ((right.lt_iff left).mp greater).asymm, hashed, if_pos greater, hashPair_words sized one right left]

/-- The contract goes the same way up. -/
theorem contract_climb (sized : SizedHash) (one : OneKeccak keccak256) {node : String} {proof : List String}
    (start : Word node) (words : ∀ sibling ∈ proof, Word sibling) :
    ∃ root, MerkleTree.climb pair node proof = .ok root ∧ Word root ∧
      Merkle.climb (hashPair keccak256) (wordNumber node) (proof.map wordNumber) = wordNumber root := by
  induction proof generalizing node with
  | nil => exact ⟨node, rfl, start, by rw [List.map_nil, Merkle.climb_nil]⟩
  | cons sibling rest ih =>
    obtain ⟨here, later⟩ := List.forall_mem_cons.mp words
    obtain ⟨root, climbs, word, contract⟩ := ih (word_digest sized (hashed (node, sibling))) later
    refine ⟨root, ?_, word, ?_⟩
    · rw [MerkleTree.climb, List.foldlM_cons, pair_words start here, ok_bind]
      exact climbs
    · rw [List.map_cons, Merkle.climb, List.foldl_cons, join_words sized one start here, ← contract, Merkle.climb]

end Contract

section Agreement
variable [Host] [Packages]

/-- What the cluster and the contract say of a proof of a member. -/
theorem member_verifies (ascii : LowersAscii) (sized : SizedHash) {keccak256 : Preimage → Bytes32}
    (one : OneKeccak keccak256) {member root : String} (named : HexWord member) (word : Word root) {proof : List String}
    (words : ∀ sibling ∈ proof, Word sibling) (climbs : MerkleTree.climb pair (lower member) proof = .ok root) :
    verifyMembershipProof member proof root = .ok true ∧
      ∀ (state : NodeRegistry.State) (clusterId : Bytes32), (state.clusters clusterId).exists_ = true →
        (state.clusters clusterId).membershipRoot = wordNumber root →
        NodeRegistry.verifyMembership keccak256 state clusterId (wordNumber member) (proof.map wordNumber) = true := by
  constructor
  · rw [verifyMembershipProof, normalise_hexWord named, ok_bind, climb_words ascii words, climbs, ok_bind,
      lower_word ascii word]
    simp [pure_eq_ok]
  · intro state clusterId exists_ rooted
    obtain ⟨reached, same, _, contract⟩ := contract_climb sized one (named.lower ascii).1 words
    obtain rfl : root = reached := Except.ok.inj (climbs.symm.trans same)
    have number : wordNumber member = wordNumber (lower member) := congrArg ofBytes (wordBytes_lower ascii named)
    rw [NodeRegistry.verifyMembership, exists_, rooted, number, contract]
    simp

/-- The order of the leaves does not matter. -/
theorem membershipRoot_perm {leaves others : List String} {root : String} (inhabited : leaves ≠ [])
    (hexOthers : ∀ leaf ∈ others, HexWord leaf) (perm : (others.map lower).Perm (leaves.map lower))
    (up : MerkleTree.ascend pair leaves.length (lowest leaves) = .ok [root]) : membershipRoot others = .ok root := by
  have size : others.length = leaves.length := by simpa using perm.length_eq
  have some : others ≠ [] := by
    rintro rfl
    exact inhabited (List.eq_nil_of_length_eq_zero size.symm)
  apply membershipRoot_of_hexWords some hexOthers
  rw [size, lowest_perm perm]
  exact up

/-- The billing builds the same tree. -/
theorem billing_tree (ascii : LowersAscii) {leaves : List String} {root : String} (inhabited : leaves ≠ [])
    (words : ∀ leaf ∈ leaves, Word leaf) (up : MerkleTree.ascend pair leaves.length (lowest leaves) = .ok [root]) :
    Transport.merkleRoot leaves = .ok root ∧
      ∀ member ∈ leaves, Transport.merkleProof leaves member = membershipProof leaves member := by
  have level := lowest_of_words ascii words
  have same : Transport.pair = pair := rfl
  constructor
  · rw [Transport.merkleRoot, if_neg inhabited, same, ← level, up]
    rfl
  · intro member among
    have inside : member ∈ lowest leaves := by
      rw [level]
      exact (List.mem_insertionSort _).mpr among
    have still := lower_word ascii (words member among)
    have proof := membershipProof_of_hexWords (fun leaf given => (words leaf given).hexWord) (words member among).hexWord
      (by rwa [still])
    rw [still] at proof
    rw [proof, Transport.merkleProof, same, ← level, if_pos (by simpa using inside)]

/-- Each member has a proof, which the cluster and the contract accept; the root is
that of the set of leaves in whatever order and letters; and the tree of the billing
is the same one. -/
theorem membership_complete (ascii : LowersAscii) (sized : SizedHash) {keccak256 : Preimage → Bytes32}
    (one : OneKeccak keccak256) {leaves : List String} (inhabited : leaves ≠ []) (hex : ∀ leaf ∈ leaves, HexWord leaf) :
    ∃ root, membershipRoot leaves = .ok root ∧
      (∀ member, HexWord member → lower member ∈ leaves.map lower → ∃ proof, membershipProof leaves member = .ok proof ∧
        verifyMembershipProof member proof root = .ok true ∧
        ∀ (state : NodeRegistry.State) (clusterId : Bytes32), (state.clusters clusterId).exists_ = true →
          (state.clusters clusterId).membershipRoot = wordNumber root →
          NodeRegistry.verifyMembership keccak256 state clusterId (wordNumber member) (proof.map wordNumber) = true) ∧
      (∀ others, (∀ leaf ∈ others, HexWord leaf) → (others.map lower).Perm (leaves.map lower) →
        membershipRoot others = .ok root) ∧
      ((∀ leaf ∈ leaves, Word leaf) → Transport.merkleRoot leaves = .ok root ∧
        ∀ member ∈ leaves, Transport.merkleProof leaves member = membershipProof leaves member) := by
  obtain ⟨root, up, word⟩ := tree_built ascii sized inhabited hex
  refine ⟨root, membershipRoot_of_hexWords inhabited hex up, ?_, ?_, ?_⟩
  · intro member named among
    have inside : lower member ∈ lowest leaves := (List.mem_insertionSort _).mpr among
    obtain ⟨proof, met, words, climbs⟩ := member_climbs ascii sized hex inside up
    exact ⟨proof, (membershipProof_of_hexWords hex named inside).trans met,
      member_verifies ascii sized one named word words climbs⟩
  · intro others hexOthers perm
    exact membershipRoot_perm inhabited hexOthers perm up
  · intro words
    exact billing_tree ascii inhabited words up

end Agreement

/-! ### A cluster of one member -/

section Acme

attribute [local instance] accessHost accessPackages

/-- The bytes of a number, the highest first. -/
def bytesOf : Nat → Nat → List Nat
  | 0, _ => []
  | count + 1, number => bytesOf count (number / 256) ++ [number % 256]

theorem bytesOf_ofBytes {bytes : List Nat} (small : ∀ byte ∈ bytes, byte < 256) :
    bytesOf bytes.length (ofBytes bytes) = bytes := by
  induction bytes using List.reverseRecOn with
  | nil => rfl
  | append_singleton front last ih =>
    obtain ⟨before, here⟩ := List.forall_mem_append.mp small
    have bound := here last (List.mem_singleton_self last)
    have high : (256 * ofBytes front + last) / 256 = ofBytes front := by omega
    have low : (256 * ofBytes front + last) % 256 = last := by omega
    have whole : ofBytes (front ++ [last]) = 256 * ofBytes front + last := by simp [ofBytes]
    rw [List.length_append, List.length_singleton, whole, bytesOf, high, low, ih before]

/-- The hash of the packages, on the words that the contract packs. -/
def contractHash : Preimage → Bytes32
  | .packed [first, second] => ofBytes (Packages.keccak (bytesOf 32 first ++ bytesOf 32 second))
  | _ => 0

theorem contractHash_one : OneKeccak contractHash := by
  intro first second size size' small small'
  have one := bytesOf_ofBytes small
  have other := bytesOf_ofBytes small'
  rw [size] at one
  rw [size'] at other
  rw [contractHash, one, other]

theorem membership_acme : ∃ root proof, membershipRoot [aliceId, padId] = .ok root ∧
    membershipProof [aliceId, padId] aliceId = .ok proof ∧ verifyMembershipProof aliceId proof root = .ok true := by
  have hex : ∀ leaf ∈ [aliceId, padId], HexWord leaf := by
    simp [alice_word.hexWord, pad_word.hexWord]
  obtain ⟨root, rooted, members, _⟩ :=
    membership_complete (asciiHost_lowersAscii []) access_sized contractHash_one (List.cons_ne_nil _ _) hex
  obtain ⟨proof, shown, verified, _⟩ := members aliceId alice_word.hexWord (List.mem_cons_self ..)
  exact ⟨root, proof, rooted, shown, verified⟩

end Acme

end Xcp.Cluster
