import Xcp.Proofs.MembershipTrees

/-! Which ids have a proof of membership. Leaves and inner nodes are hashed alike,
so that an inner node is as good as a leaf, and the root needs no proof at all. -/

namespace Xcp.Cluster
open Checked Python Eth

section Inputs
variable [Host]

/-- What the standard library gives for random bytes. -/
def RandomBytes (tokenBytes : Nat → List Nat) : Prop :=
  ∀ index, (tokenBytes index).length = 32 ∧ ∀ byte ∈ tokenBytes index, byte < 256

theorem normalise_form {leaf node : String} (read : normalise leaf = .ok node) :
    startsWith leaf "0x" = true ∧ leaf.length = 66 := by
  unfold normalise at read
  split at read
  · cases read
  next form => simpa [not_or] using form

theorem mapM_form {leaves nodes : List String} (read : leaves.mapM normalise = .ok nodes) :
    ∀ leaf ∈ leaves, startsWith leaf "0x" = true ∧ leaf.length = 66 := by
  intro leaf member
  obtain ⟨node, _, one⟩ := result_of_mapM read member
  exact normalise_form one

/-- The members are in small letters, and the pads are words. -/
theorem buildMemberSet_ok {clusterId : String} {nodeIds : List String} {tokenBytes : Nat → List Nat} {members : MemberSet}
    (random : RandomBytes tokenBytes) (built : buildMemberSet clusterId nodeIds tokenBytes = .ok members) :
    members.nodeIds = nodeIds.map lower ∧ ∀ pad ∈ members.pads, Word pad := by
  simp only [buildMemberSet, bind_eq_ok] at built
  obtain ⟨ids, read, built⟩ := built
  obtain rfl := mapM_normalise read
  split at built
  · cases built
  · split at built
    · cases built
    · rw [pure_eq_ok] at built
      subst built
      refine ⟨rfl, ?_⟩
      intro pad member
      obtain ⟨index, _, rfl⟩ := List.mem_map.mp member
      exact ⟨tokenBytes index, (random index).1, (random index).2, rfl⟩

omit [Host] in
theorem hashed_size (couple : String × String) :
    (hashed couple).length = (wordBytes couple.1).length + (wordBytes couple.2).length := by
  unfold hashed
  split
  · rw [List.length_append, Nat.add_comm]
  · rw [List.length_append]

omit [Host] in
theorem hashed_swap (couple : String × String) : hashed couple.swap = hashed couple := by
  obtain ⟨first, second⟩ := couple
  rcases lt_trichotomy first second with less | rfl | greater
  · simp [hashed, less, less.asymm]
  · rfl
  · simp [hashed, greater, greater.asymm]

variable [Packages]

omit [Host] in
theorem pair_hashed {first second node : String} (made : pair first second = .ok node) :
    node = digest (hashed (first, second)) := by
  unfold pair idBytes at made
  have read {text : String} {bytes : List Nat} (decoded : fromHex (dropStart text 2) = .ok bytes) : wordBytes text = bytes := by
    rw [wordBytes, decoded, settle_ok]
  simp only [bind_eq_ok, pure_eq_ok] at made
  obtain ⟨low, readLow, high, readHigh, rfl⟩ := made
  rw [← read readLow, ← read readHigh, hashed]
  split
  · rfl
  · rfl

/-- What is hashed for the tree, and on the way up from an id. -/
def MemberSet.inputs (members : MemberSet) (id : String) (proof : List String) : List (List Nat) :=
  members.pairs.map hashed ++ (MerkleTree.path pair (lower id) (proof.map lower)).map hashed

/-- No two of the inputs have one hash, and no hash of them is a leaf. -/
structure MemberSet.Ideal (members : MemberSet) (inputs : List (List Nat)) : Prop where
  free : CollisionFree inputs
  apart : ∀ data ∈ inputs, digest data ∉ members.leaves

/-- The root, or a hash between it and the leaves. -/
def MemberSet.Inner (members : MemberSet) (node : String) : Prop :=
  ∃ couple ∈ members.pairs, pair couple.1 couple.2 = .ok node

/-- Only for a leaf there is a proof of 32-byte words, as far as the hash is ideal. -/
def MemberSet.OnlyLeaf (members : MemberSet) (root id : String) : Prop :=
  ∀ proof, (∀ element ∈ proof, HexWord element) → members.Ideal (members.inputs id proof) →
    verifyMembershipProof id proof root = .ok true → lower id ∈ members.leaves

end Inputs

section Sets
variable [Host] [Packages] {clusterId root id : String} {nodeIds : List String} {tokenBytes : Nat → List Nat}
  {members : MemberSet} (ascii : LowersAscii) (sized : SizedHash) (random : RandomBytes tokenBytes)
  (built : buildMemberSet clusterId nodeIds tokenBytes = .ok members) (rooted : members.root = .ok root)
include ascii random built

omit [Packages] in
theorem leaves_lower : ∀ leaf ∈ members.leaves, lower leaf = leaf := by
  obtain ⟨named, pads⟩ := buildMemberSet_ok random built
  intro leaf member
  rcases List.mem_append.mp member with own | pad
  · rw [named] at own
    obtain ⟨nodeId, _, rfl⟩ := List.mem_map.mp own
    exact Host.lower_lower nodeId
  · exact lower_word ascii (pads leaf pad)

omit [Packages] in
theorem mem_level_iff {node : String} : node ∈ members.level ↔ node ∈ members.leaves := by
  have same : members.leaves.map lower = members.leaves.map id :=
    List.map_congr_left (leaves_lower ascii random built)
  rw [MemberSet.level, List.mem_insertionSort, same, List.map_id]

include rooted in
/-- A leaf that is no word is read as fewer bytes. -/
theorem level_sizes : ∀ node ∈ members.level, Word node ∨ (wordBytes node).length < 32 := by
  intro node member
  have leaf := (mem_level_iff ascii random built).mp member
  have form : startsWith node "0x" = true ∧ node.length = 66 := by
    have rooted := rooted
    unfold MemberSet.root membershipRoot at rooted
    split at rooted
    · cases rooted
    · simp only [bind_eq_ok] at rooted
      obtain ⟨nodes, read, _⟩ := rooted
      exact mapM_form read node leaf
  exact word_or_short ascii form.1 form.2 (leaves_lower ascii random built node leaf)

include sized rooted in
theorem root_lower : lower root = root := by
  have closed : ∀ first second node, pair first second = .ok node → lower node = node :=
    fun first second node made => lower_word ascii (hash_pair sized first second node made)
  have still := MerkleTree.ascend_all closed (MemberSet.root_ok rooted)
    (fun node member => leaves_lower ascii random built node ((mem_level_iff ascii random built).mp member))
  exact still root (List.mem_singleton_self root)

include sized rooted in
/-- A proof that goes up to the root without being in the tree all along starts at a
leaf. -/
theorem leaf_of_climb (outer : ¬ members.Inner (lower id)) (word : HexWord id) {proof : List String}
    (words : ∀ element ∈ proof, HexWord element) (ideal : members.Ideal (members.inputs id proof))
    (climbs : MerkleTree.climb pair (lower id) (proof.map lower) = .ok root) : lower id ∈ members.leaves := by
  have sizes := level_sizes ascii random built rooted
  have inTree {couple : String × String} (member : couple ∈ members.pairs) :
      (Word couple.1 ∨ (wordBytes couple.1).length < 32) ∧ (Word couple.2 ∨ (wordBytes couple.2).length < 32) :=
    MerkleTree.joins_all (fun first second node made => .inl (hash_pair sized first second node made)) sizes couple member
  have onWay {step : String × String} (inside : step ∈ MerkleTree.path pair (lower id) (proof.map lower)) :
      Word step.1 ∧ Word step.2 := by
    apply MerkleTree.path_all (hash_pair sized) (word.lower ascii).1 _ step inside
    intro sibling member
    obtain ⟨element, given, rfl⟩ := List.mem_map.mp member
    exact ((words element given).lower ascii).1
  rw [← mem_level_iff ascii random built]
  apply MerkleTree.mem_leaves_of_climb (MemberSet.root_ok rooted) _ _ _ climbs
  · intro couple member step inside node joined stepped
    obtain ⟨start, sibling⟩ := onWay inside
    obtain ⟨left, right⟩ := inTree member
    have same := ideal.free (hashed couple) (List.mem_append_left _ (List.mem_map_of_mem member)) (hashed step)
      (List.mem_append_right _ (List.mem_map_of_mem inside)) ((pair_hashed joined).symm.trans (pair_hashed stepped))
    -- A pair of words has 64 bytes, and so has what is hashed in the tree to the same value.
    have size := hashed_size couple
    rw [same, hashed_length start sibling] at size
    obtain first | less := left
    · obtain second | less := right
      · exact hashed_inj first second start sibling same
      · rw [first.length] at size
        omega
    · have most : (wordBytes couple.2).length ≤ 32 := by
        obtain second | less := right
        · exact second.length.le
        · exact less.le
      omega
  · intro step inside node stepped member
    have leaf := (mem_level_iff ascii random built).mp member
    rw [pair_hashed stepped] at leaf
    exact ideal.apart (hashed step) (List.mem_append_right _ (List.mem_map_of_mem inside)) leaf
  · intro couple member joined
    exact outer ⟨couple, member, joined⟩

include sized rooted in
/-- An inner node of a tree of words has a proof. -/
theorem inner_verifies (named : ∀ nodeId ∈ nodeIds, HexWord nodeId) (ideal : members.Ideal (members.pairs.map hashed))
    (word : HexWord id) (inner : members.Inner (lower id)) :
    ∃ proof, (∀ element ∈ proof, HexWord element) ∧ members.Ideal (members.inputs id proof) ∧
      verifyMembershipProof id proof root = .ok true ∧ lower id ∉ members.leaves := by
  obtain ⟨couple, member, made⟩ := inner
  have leaves : ∀ node ∈ members.level, Word node := by
    intro node inside
    obtain ⟨names, pads⟩ := buildMemberSet_ok random built
    rcases List.mem_append.mp ((mem_level_iff ascii random built).mp inside) with own | pad
    · rw [names] at own
      obtain ⟨nodeId, given, rfl⟩ := List.mem_map.mp own
      exact ((named nodeId given).lower ascii).1
    · exact pads node pad
  have commutes : ∀ first second, pair first second = pair second first := Transport.pair_comm
  obtain ⟨proof, climbs, words, taken⟩ :=
    MerkleTree.inner_climb commutes (hash_pair sized) (MemberSet.root_ok rooted) leaves member made
  have still : proof.map lower = proof := by
    have same : proof.map lower = proof.map (fun text => text) :=
      List.map_congr_left fun sibling inside => lower_word ascii (words sibling inside)
    rw [same, List.map_id']
  have known : ∀ data ∈ members.inputs id proof, data ∈ members.pairs.map hashed := by
    intro data input
    rcases List.mem_append.mp input with tree | way
    · exact tree
    · rw [still] at way
      obtain ⟨step, inside, rfl⟩ := List.mem_map.mp way
      rcases taken step inside with there | there
      · exact List.mem_map_of_mem there
      · rw [← hashed_swap]
        exact List.mem_map_of_mem there
  refine ⟨proof, fun element inside => (words element inside).hexWord, ⟨?_, ?_⟩, ?_, ?_⟩
  · exact fun data input data' input' => ideal.free data (known data input) data' (known data' input')
  · exact fun data input => ideal.apart data (known data input)
  · rw [verifyMembershipProof, normalise_hexWord word, ok_bind, climb_words ascii words, climbs, ok_bind,
      root_lower ascii sized random built rooted]
    simp [pure_eq_ok]
  · rw [pair_hashed made]
    exact ideal.apart (hashed couple) (List.mem_map_of_mem member)

include sized rooted in
/-- The leaves alone have proofs, but for the inner nodes of the tree; and in a tree of
32-byte words each of those has one. -/
theorem only_leaves_iff (ideal : members.Ideal (members.pairs.map hashed)) (word : HexWord id) :
    (¬ members.Inner (lower id) → members.OnlyLeaf root id) ∧
    ((∀ nodeId ∈ nodeIds, HexWord nodeId) → (members.OnlyLeaf root id ↔ ¬ members.Inner (lower id))) := by
  have enough (outer : ¬ members.Inner (lower id)) : members.OnlyLeaf root id := by
    intro proof words idealWay verified
    simp only [verifyMembershipProof, bind_eq_ok, pure_eq_ok] at verified
    obtain ⟨leaf, read, found, climbs, same⟩ := verified
    obtain rfl := normalise_ok read
    have reached : found = root := by simpa [root_lower ascii sized random built rooted] using same
    exact leaf_of_climb ascii sized random built rooted outer word words idealWay (reached ▸ climb_ok climbs)
  refine ⟨enough, fun named => ⟨?_, enough⟩⟩
  intro only inner
  obtain ⟨proof, words, idealWay, verified, other⟩ := inner_verifies ascii sized random built rooted named ideal word inner
  exact other (only proof words idealWay verified)

end Sets

/-! ### A cluster of one member -/

section Acme

attribute [local instance] accessHost accessPackages

theorem acme_built : buildMemberSet "acme" [aliceId] (fun _ => padding) = .ok acmeMembers := by
  have read : [aliceId].mapM normalise = .ok [aliceId] := by
    rw [List.mapM_cons, normalise_word alice_word, alice_lower]
    rfl
  rw [buildMemberSet, read, ok_bind, if_neg (List.cons_ne_nil _ _), if_neg (not_not.mpr (List.nodup_singleton _))]
  rfl

theorem padding_random : RandomBytes (fun _ => padding) := by
  have bytes : padding.length = 32 ∧ ∀ byte ∈ padding, byte < 256 := by decide
  exact fun _ => bytes

theorem acme_top {node : String} (inner : acmeMembers.Inner node) : node = acmeCharter.membershipRoot := by
  obtain ⟨couple, member, made⟩ := inner
  rw [acme_pairs] at member
  obtain rfl := List.mem_singleton.mp member
  exact Except.ok.inj (made.symm.trans acme_pair)

theorem root_not_leaf : acmeCharter.membershipRoot ∉ acmeMembers.leaves := by
  have apart {hash : List Nat} (small : ∀ byte ∈ hash, byte < 256) (other : rootHash ≠ hash) :
      "0x" ++ toHex rootHash ≠ "0x" ++ toHex hash := by
    intro same
    have bytes := congrArg wordBytes same
    rw [wordBytes_hex (by decide), wordBytes_hex small] at bytes
    exact other bytes
  intro member
  obtain alice | pad : acmeCharter.membershipRoot = aliceId ∨ acmeCharter.membershipRoot = padId := by
    simpa [MemberSet.leaves, acmeMembers] using member
  · exact apart (by decide) (by decide) alice
  · exact apart (by decide) (by decide) pad

theorem acme_ideal : acmeMembers.Ideal (acmeMembers.pairs.map hashed) := by
  have digest_root : digest (hashed (aliceId, padId)) = acmeCharter.membershipRoot :=
    Except.ok.inj ((pair_words alice_word pad_word).symm.trans acme_pair)
  rw [acme_pairs]
  constructor
  · intro data input data' input' _
    rw [List.mem_singleton.mp input, List.mem_singleton.mp input']
  · intro data input
    rw [List.mem_singleton.mp input, digest_root]
    exact root_not_leaf

theorem alice_only_leaf : acmeMembers.OnlyLeaf acmeCharter.membershipRoot aliceId := by
  refine (only_leaves_iff (asciiHost_lowersAscii []) access_sized padding_random acme_built acme_root acme_ideal
    alice_word.hexWord).1 ?_
  intro inner
  rw [alice_lower] at inner
  apply root_not_leaf
  rw [← acme_top inner]
  exact List.mem_cons_self ..

/-- The root is a member that no leaf is. -/
theorem root_is_member :
    buildMemberSet "acme" [aliceId] (fun _ => padding) = .ok acmeMembers ∧
      acmeMembers.root = .ok acmeCharter.membershipRoot ∧
      verifyMembershipProof acmeCharter.membershipRoot [] acmeCharter.membershipRoot = .ok true ∧
      ¬ acmeMembers.OnlyLeaf acmeCharter.membershipRoot acmeCharter.membershipRoot := by
  have word : Word acmeCharter.membershipRoot := ⟨rootHash, by decide, by decide, rfl⟩
  have lowered := lower_word (asciiHost_lowersAscii []) word
  have verified : verifyMembershipProof acmeCharter.membershipRoot [] acmeCharter.membershipRoot = .ok true := by
    rw [verifyMembershipProof, normalise_word word, ok_bind, climb, ok_bind]
    simp [pure_eq_ok]
  refine ⟨acme_built, acme_root, verified, ?_⟩
  intro only
  have ideal : acmeMembers.Ideal (acmeMembers.inputs acmeCharter.membershipRoot []) := by
    rw [MemberSet.inputs, List.map_nil, MerkleTree.path, List.map_nil, List.append_nil]
    exact acme_ideal
  have leaf := only [] (by simp) ideal verified
  rw [lowered] at leaf
  exact root_not_leaf leaf

end Acme

end Xcp.Cluster
