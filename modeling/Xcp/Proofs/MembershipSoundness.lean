import Xcp.Proofs.Charters

/-! Claims are proofs of membership, whatever their elements are. Texts of the right form
that are read as fewer bytes go nowhere in a tree of words. -/

namespace Xcp.Cluster
open Checked Python Eth

section Soundness
variable [Host]

/-- No other letters than ASCII have small letters that are read as hex. -/
def HexIsAscii : Prop :=
  ∀ text bytes, startsWith text "0x" = true → idBytes (lower text) = .ok bytes → isAscii text = true

theorem formed_lower (ascii : LowersAscii) {text : String} (plain : isAscii text = true) (start : startsWith text "0x" = true)
    (length : text.length = 66) : startsWith (lower text) "0x" = true ∧ (lower text).length = 66 := by
  obtain ⟨rest, whole⟩ := List.isPrefixOf_iff_prefix.mp start
  have small : (lower text).toList = text.toList.map lowerLetter := by
    rw [ascii text plain, lowerAscii, String.toList_ofList]
  constructor
  · rw [startsWith, small, ← whole]
    rfl
  · rw [← String.length_toList, small, List.length_map, String.length_toList, length]

/-- What a proof may show besides words. -/
def Short (text : String) : Prop := Word text ∨ (wordBytes text).length < 32

/-- An element of a claim's proof that is read at all. -/
theorem sibling_short (ascii : LowersAscii) (hex : HexIsAscii) {sibling normal : String} {bytes : List Nat}
    (read : normalise sibling = .ok normal) (decoded : idBytes normal = .ok bytes) : Short normal := by
  obtain rfl := normalise_ok read
  obtain ⟨start, length⟩ := normalise_form read
  obtain ⟨start', length'⟩ := formed_lower ascii (hex sibling bytes start decoded) start length
  exact word_or_short ascii start' length' (Host.lower_lower sibling)

variable [Packages]

omit [Host] in
theorem pair_reads {first second node : String} (made : pair first second = .ok node) :
    (∃ bytes, idBytes first = .ok bytes) ∧ ∃ bytes, idBytes second = .ok bytes := by
  unfold pair at made
  simp only [bind_eq_ok] at made
  obtain ⟨low, readLow, high, readHigh, _⟩ := made
  split at readLow
  next order =>
    simp only [order, if_true] at readHigh
    exact ⟨⟨high, readHigh⟩, low, readLow⟩
  next order =>
    simp only [order, if_false] at readHigh
    exact ⟨⟨low, readLow⟩, high, readHigh⟩

theorem climb_short (ascii : LowersAscii) (hex : HexIsAscii) {node found : String} {proof : List String}
    (climbs : climb node proof = .ok found) : ∀ sibling ∈ proof.map lower, Short sibling := by
  induction proof generalizing node with
  | nil => simp
  | cons sibling rest ih =>
    simp only [climb, bind_eq_ok] at climbs
    obtain ⟨normal, read, parent, made, later⟩ := climbs
    obtain ⟨_, bytes, decoded⟩ := pair_reads made
    rw [List.map_cons, List.forall_mem_cons]
    exact ⟨normalise_ok read ▸ sibling_short ascii hex read decoded, ih later⟩

theorem verifyMember_climbs {charter : Charter} {claim : MembershipClaim} {expected : Json}
    (none : verifyMember charter claim expected = .ok []) :
    climb (lower claim.nodeId) claim.proof = .ok (lower charter.membershipRoot) := by
  simp only [verifyMember, bind_eq_ok, pure_eq_ok, List.append_eq_nil_iff] at none
  obtain ⟨_, _, problems, proof, _, rfl⟩ := none
  unfold proofProblems at proof
  split at proof
  next verifies verified =>
    simp only [Except.ok.injEq, problemIf_eq_nil, Bool.not_eq_false'] at proof
    simp only [verifyMembershipProof, bind_eq_ok, pure_eq_ok] at verified
    obtain ⟨leaf, read, found, climbs, same⟩ := verified
    obtain rfl := normalise_ok read
    have reached : found = lower charter.membershipRoot := by simpa [proof] using same
    rw [climbs, reached]
  next exception _ =>
    split at proof
    · cases proof
    · cases proof

/-! ### An ideal hash -/

/-- The pairs that are hashed on the way up that a claim shows. -/
def MembershipClaim.steps (claim : MembershipClaim) : List (String × String) :=
  MerkleTree.path pair (lower claim.nodeId) (claim.proof.map lower)

/-- What is hashed where a claim is about the hash of some data. -/
def MemberSet.claimInputs (members : MemberSet) (addresses : List (List Nat)) (data : List Nat) (claim : MembershipClaim) :
    List (List Nat) :=
  data :: (addresses ++ members.pairs.map hashed ++ claim.steps.map hashed)

/-- The members are named by addresses, and on these inputs the hash is an ideal one: no
two of them have the same hash, and no hash of them stands among the letters of an address. -/
structure MemberSet.Guards (members : MemberSet) (addresses inputs : List (List Nat)) : Prop where
  enrols : members.Enrols addresses inputs
  free : CollisionFree inputs
  apart : ∀ data ∈ inputs, ∀ address ∈ addresses, ¬ Packages.keccak data <:+: address

theorem mem_claimInputs {members : MemberSet} {addresses : List (List Nat)} {data input : List Nat} {claim : MembershipClaim} :
    input ∈ members.claimInputs addresses data claim ↔
      input = data ∨ input ∈ addresses ∨ (∃ couple ∈ members.pairs, hashed couple = input) ∨
        ∃ step ∈ claim.steps, hashed step = input := by
  simp only [MemberSet.claimInputs, List.mem_cons, List.mem_append, List.mem_map, or_assoc]

section Ideal
variable {members : MemberSet} {addresses : List (List Nat)} {data : List Nat} {claim : MembershipClaim} {root node : String}
  {couple step : String × String} (sized : SizedHash)
  (guards : members.Guards addresses (members.claimInputs addresses data claim))
  (named : lower claim.nodeId = digest data)
include sized named

omit sized in
/-- What a step begins with is the hash of an input. -/
theorem step_begins (inside : step ∈ claim.steps) :
    ∃ input, (input = data ∨ ∃ before ∈ claim.steps, hashed before = input) ∧ step.1 = digest input := by
  rcases MerkleTree.path_begins step inside with start | ⟨before, earlier, made⟩
  · exact ⟨data, .inl rfl, start.trans named⟩
  · exact ⟨hashed before, .inr ⟨before, earlier, rfl⟩, pair_hashed made⟩

include guards

/-- Where a step meets the tree it goes up from a node of it. -/
theorem step_joins (member : couple ∈ members.pairs) (inside : step ∈ claim.steps) (sibling : Short step.2)
    (joined : pair couple.1 couple.2 = .ok node) (stepped : pair step.1 step.2 = .ok node) :
    step.1 = couple.1 ∨ step.1 = couple.2 := by
  obtain ⟨left, right⟩ :=
    MerkleTree.joins_all (hash_pair sized) (level_words sized guards.enrols) couple member
  obtain ⟨input, _, begins⟩ := step_begins named inside
  have start : Word step.1 := begins ▸ word_digest sized input
  have same := guards.free (hashed couple) (mem_claimInputs.mpr (.inr (.inr (.inl ⟨couple, member, rfl⟩)))) (hashed step)
    (mem_claimInputs.mpr (.inr (.inr (.inr ⟨step, inside, rfl⟩)))) ((pair_hashed joined).symm.trans (pair_hashed stepped))
  -- A pair of the tree has 64 bytes, and shorter elements leave less.
  have size := congrArg List.length same
  rw [hashed_length left right, hashed_size, start.length] at size
  rcases sibling with word | less
  · exact hashed_inj left right start word same
  · omega

/-- No step ends at a leaf. -/
theorem step_above (inside : step ∈ claim.steps) (stepped : pair step.1 step.2 = .ok node) : node ∉ members.level := by
  intro member
  have input : hashed step ∈ members.claimInputs addresses data claim :=
    mem_claimInputs.mpr (.inr (.inr (.inr ⟨step, inside, rfl⟩)))
  obtain rfl := pair_hashed stepped
  rcases MemberSet.mem_level.mp member with own | ⟨pad, padded, same⟩
  · rw [guards.enrols.named] at own
    obtain ⟨address, enrolled, same⟩ := List.mem_map.mp own
    have equal := guards.free address (mem_claimInputs.mpr (.inr (.inl enrolled))) (hashed step) input same
    obtain ⟨first, source, begins⟩ := step_begins named inside
    have known : first ∈ members.claimInputs addresses data claim :=
      mem_claimInputs.mpr (source.imp_right fun before => .inr (.inr before))
    apply guards.apart first known address enrolled
    -- The letters of the address would be those of the step.
    have bytes : wordBytes step.1 = Packages.keccak first := by
      rw [begins, digest, wordBytes_hex (sized.bytes first)]
    rw [equal, hashed, ← bytes]
    split
    · exact (List.suffix_append _ _).isInfix
    · exact (List.prefix_append _ _).isInfix
  · exact guards.enrols.random pad padded (hashed step) input same.symm

/-- A claim that is proved is about a member, unless it is about a pair. -/
theorem proved_member (ascii : LowersAscii) (hex : HexIsAscii) {charter : Charter} {expected : Json}
    (rooted : members.root = .ok charter.membershipRoot) (other : data.length ≠ 64)
    (none : verifyMember charter claim expected = .ok []) : digest data ∈ members.nodeIds.map lower := by
  have climbs := verifyMember_climbs none
  have short : ∀ step ∈ claim.steps, Short step.2 := MerkleTree.path_siblings (climb_short ascii hex climbs)
  rw [lower_root ascii sized guards.enrols rooted] at climbs
  have leaf : lower claim.nodeId ∈ members.level := by
    apply MerkleTree.mem_leaves_of_climb (MemberSet.root_ok rooted) _ _ _ (climb_ok climbs)
    · intro couple member step inside node joined stepped
      exact step_joins sized guards named member inside (short step inside) joined stepped
    · intro step inside node stepped
      exact step_above sized guards named inside stepped
    · intro couple member joined
      obtain ⟨left, right⟩ :=
        MerkleTree.joins_all (hash_pair sized) (level_words sized guards.enrols) couple member
      have same := guards.free data (mem_claimInputs.mpr (.inl rfl)) (hashed couple)
        (mem_claimInputs.mpr (.inr (.inr (.inl ⟨couple, member, rfl⟩)))) (named.symm.trans (pair_hashed joined))
      exact other (same ▸ hashed_length left right)
  rw [named] at leaf
  rcases MemberSet.mem_level.mp leaf with own | ⟨pad, padded, same⟩
  · exact own
  · exact absurd same.symm (guards.enrols.random pad padded data (mem_claimInputs.mpr (.inl rfl)))

end Ideal

end Soundness

/-! ### Two members -/

section Joint

attribute [local instance] accessHost jointPackages

theorem lowerLetter_ascii {letter : Char} (small : (lowerLetter letter).toNat < 128) : letter.toNat < 128 := by
  unfold lowerLetter at small
  split at small
  · omega
  · exact small

theorem accessHost_hexIsAscii : HexIsAscii := by
  intro text bytes start read
  obtain ⟨rest, whole⟩ := List.isPrefixOf_iff_prefix.mp start
  have behind : (dropStart (lower text) 2).toList = rest.map lowerLetter := by
    change (dropStart (lowerAscii text) 2).toList = _
    rw [dropStart, lowerAscii, String.toList_ofList, String.toList_ofList, ← whole]
    rfl
  rw [idBytes, fromHex, behind] at read
  cases found : fromHexLetters (rest.map lowerLetter) with
  | none =>
    rw [found] at read
    cases read
  | some bytes =>
    rw [isAscii, ← whole, List.all_eq_true]
    intro letter member
    rw [decide_eq_true_eq]
    rcases List.mem_append.mp member with known | later
    · have zeroX : ∀ letter ∈ ['0', 'x'], letter.toNat < 128 := by simp
      exact zeroX letter known
    · exact lowerLetter_ascii (fromHexLetters_ascii found _ (List.mem_map_of_mem later))

theorem joint_level : jointMembers.level = [aliceId, bobId] := by
  simp [MemberSet.level, MemberSet.leaves, jointMembers, alice_lower, bob_lower, not_lt.mp bob_second]

theorem joint_bytes : hashed (aliceId, bobId) = aliceHash ++ bobHash := by
  rw [hashed, if_neg bob_second, aliceId, bobId, wordBytes_hex (by decide), wordBytes_hex (by decide)]

theorem joint_pairs : jointMembers.pairs = [(aliceId, bobId)] := by
  rw [MemberSet.pairs, joint_level, show jointMembers.leaves.length = 2 from rfl, MerkleTree.joins, MerkleTree.parents, joint_pair]
  rfl

/-- On what the claims of the two have hashed the real hash is an ideal one. -/
theorem joint_guards {claim : MembershipClaim} (either : claim = aliceJoint ∨ claim = bobJoint) {data : List Nat}
    (one : data ∈ [aliceAddress, bobAddress, [48, 3, 2, 1, 13]]) :
    jointMembers.Guards [aliceAddress, bobAddress] (jointMembers.claimInputs [aliceAddress, bobAddress] data claim) := by
  have steps : ∀ step ∈ claim.steps, hashed step = aliceHash ++ bobHash := by
    rcases either with rfl | rfl
    · have path : aliceJoint.steps = [(aliceId, bobId)] := by
        simp only [MembershipClaim.steps, aliceJoint, alice_lower, bob_lower, List.map_cons, List.map_nil, MerkleTree.path, joint_pair]
      rw [path]
      simp [joint_bytes]
    · have paired : pair bobId aliceId = .ok jointRoot := (Transport.pair_comm bobId aliceId).trans joint_pair
      have path : bobJoint.steps = [(bobId, aliceId)] := by
        simp only [MembershipClaim.steps, bobJoint, alice_lower, bob_lower, List.map_cons, List.map_nil, MerkleTree.path, paired]
      have bytes : hashed (bobId, aliceId) = aliceHash ++ bobHash := by
        rw [← joint_bytes, hashed, hashed, if_pos alice_before_bob, if_neg bob_second]
      rw [path]
      simp [bytes]
  have inputs : ∀ input ∈ jointMembers.claimInputs [aliceAddress, bobAddress] data claim,
      input ∈ [aliceAddress, bobAddress, [48, 3, 2, 1, 13], aliceHash ++ bobHash] := by
    intro input member
    rcases mem_claimInputs.mp member with rfl | address | ⟨couple, inside, rfl⟩ | ⟨step, inside, rfl⟩
    · exact List.mem_append_left [aliceHash ++ bobHash] one
    · exact List.mem_append_left [[48, 3, 2, 1, 13], aliceHash ++ bobHash] address
    · rw [joint_pairs, List.mem_singleton] at inside
      rw [inside, joint_bytes]
      simp
    · rw [steps step inside]
      simp
  have hashes : ∀ input ∈ [aliceAddress, bobAddress, [48, 3, 2, 1, 13], aliceHash ++ bobHash],
      ∀ other ∈ [aliceAddress, bobAddress, [48, 3, 2, 1, 13], aliceHash ++ bobHash],
        Packages.keccak input = Packages.keccak other → input = other := by
    decide
  have apart : ∀ input ∈ [aliceAddress, bobAddress, [48, 3, 2, 1, 13], aliceHash ++ bobHash],
      ∀ address ∈ [aliceAddress, bobAddress], ¬ Packages.keccak input <:+: address := by
    decide
  constructor
  · constructor
    · change [lower aliceId, lower bobId] = _
      rw [alice_lower, bob_lower]
      rfl
    · decide
    · intro pad member
      cases member
    · intro pad member
      cases member
  · intro input member other member' same
    apply hashes input (inputs input member) other (inputs other member')
    have bytes := congrArg wordBytes same
    rwa [digest, digest, wordBytes_hex (joint_sound.sizedHash.bytes input),
      wordBytes_hex (joint_sound.sizedHash.bytes other)] at bytes
  · intro input member
    exact apart input (inputs input member)

end Joint

end Xcp.Cluster
