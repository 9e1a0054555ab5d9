import Xcp.Contracts.NodeRegistry

/-! What one transaction does to the nodes and to the claims. Every law about
exits and windows rests on these two case distinctions. -/

namespace Xcp.NodeRegistry
open Checked Evm Transition

/-- One node is written, or none. -/
inductive NodesMove (msg : Msg) (before after : State) : Prop
  | same (kept : after.nodes = before.nodes)
  | registered (nodeId : Bytes32) (node : Node) (written : after.nodes = Function.update before.nodes nodeId node)
      (fresh : (before.nodes nodeId).exists_ = false) (exists_ : node.exists_ = true) (staying : node.unbondAt = 0)
  | changed (nodeId : Bytes32) (node : Node) (written : after.nodes = Function.update before.nodes nodeId node)
      (exists_ : node.exists_ = (before.nodes nodeId).exists_) (exit : node.unbondAt = (before.nodes nodeId).unbondAt)
      (revoked : node.revokedAt = (before.nodes nodeId).revokedAt ∨ node.revokedAt = uint64 msg.timestamp)
  | exits (nodeId : Bytes32) (node : Node) (written : after.nodes = Function.update before.nodes nodeId node)
      (exists_ : node.exists_ = (before.nodes nodeId).exists_)
      (exit : node.unbondAt = uint64 msg.timestamp + UNBOND_DELAY) (revoked : node.revokedAt = uint64 msg.timestamp)

/-- One claim is written, or none. -/
inductive ClaimsMove (tx : Tx) (before after : State) : Prop
  | same (kept : after.claims = before.claims)
  | posted (nodeId : Bytes32) (epoch : Nat) (claim : Claim) (live : (before.nodes nodeId).revokedAt = 0)
      (exists_ : (before.nodes nodeId).exists_ = true) (fresh : (before.claims nodeId epoch).postedAt = 0)
      (date : claim.postedAt = uint64 tx.msg.timestamp) (unchallenged : claim.challenged = false)
      (written : after.claims = (before.setClaim nodeId epoch claim).claims)
  | settled (nodeId : Bytes32) (epoch : Nat) (call : tx.call = .settleClaim nodeId epoch)
      (written : after.claims =
        (before.setClaim nodeId epoch { before.claims nodeId epoch with settled := true }).claims)
  | challenged (nodeId : Bytes32) (epoch : Nat) (posted : (before.claims nodeId epoch).postedAt ≠ 0)
      (open_ : (before.claims nodeId epoch).settled = false)
      (written : after.claims =
        (before.setClaim nodeId epoch { before.claims nodeId epoch with challenged := true }).claims)

variable (keccak256 : Preimage → Bytes32)

/-- The transaction goes through in the state. -/
def Succeeds (state : State) (tx : Tx) : Prop := ∃ after, execute keccak256 state tx = .ok after

section Functions
variable {state after : State} {msg : Msg} {nodeId : Bytes32}

theorem pay_keeps {amount : Nat} {reason : String} (paid : pay state msg amount reason = .ok after) :
    after.nodes = state.nodes ∧ after.claims = state.claims := by
  simp only [pay, bind_eq_ok, require_eq_ok, pure_eq_ok] at paid
  obtain ⟨_, _, rfl⟩ := paid
  exact ⟨rfl, rfl⟩

theorem registerNode_moves {domainHash : Bytes32} (done : registerNode state msg nodeId domainHash = .ok after) :
    NodesMove msg state after ∧ after.claims = state.claims := by
  simp only [registerNode, bind_eq_ok, require_eq_ok, pure_eq_ok] at done
  obtain ⟨_, fresh, _, _, rfl⟩ := done
  exact ⟨.registered nodeId _ rfl fresh rfl rfl, rfl⟩

theorem increaseBond_moves (done : increaseBond state msg nodeId = .ok after) :
    NodesMove msg state after ∧ after.claims = state.claims := by
  simp only [increaseBond, bind_eq_ok, require_eq_ok, pure_eq_ok] at done
  obtain ⟨_, _, _, _, rfl⟩ := done
  exact ⟨.changed nodeId _ rfl rfl rfl (.inl rfl), rfl⟩

theorem revokeNode_moves {reason : String} (done : revokeNode state msg nodeId reason = .ok after) :
    NodesMove msg state after ∧ after.claims = state.claims := by
  simp only [revokeNode, bind_eq_ok, require_eq_ok, pure_eq_ok] at done
  obtain ⟨_, _, _, _, _, _, rfl⟩ := done
  exact ⟨.changed nodeId _ rfl rfl rfl (.inr rfl), rfl⟩

theorem requestUnbond_moves (done : requestUnbond state msg nodeId = .ok after) :
    NodesMove msg state after ∧ after.claims = state.claims := by
  simp only [requestUnbond, bind_eq_ok, require_eq_ok, pure_eq_ok, add_eq_ok] at done
  obtain ⟨_, _, _, _, _, _, _, _, unbondAt, ⟨_, rfl⟩, rfl⟩ := done
  exact ⟨.exits nodeId _ rfl rfl rfl rfl, rfl⟩

theorem withdrawBond_moves (done : withdrawBond state msg nodeId = .ok after) :
    NodesMove msg state after ∧ after.claims = state.claims := by
  simp only [withdrawBond, bind_eq_ok, require_eq_ok] at done
  obtain ⟨_, _, _, _, _, _, _, _, _, _, _, _, paid⟩ := done
  obtain ⟨nodes, claims⟩ := pay_keeps paid
  exact ⟨.changed nodeId _ nodes rfl rfl (.inl rfl), claims⟩

theorem upsertCluster_moves {clusterId membershipRoot policyHash : Bytes32} {open_ : Bool}
    (done : upsertCluster state msg clusterId membershipRoot policyHash open_ = .ok after) :
    NodesMove msg state after ∧ after.claims = state.claims := by
  simp only [upsertCluster, bind_eq_ok, require_eq_ok, pure_eq_ok] at done
  obtain ⟨_, _, _, _, _, _, rfl⟩ := done
  exact ⟨.same rfl, rfl⟩

theorem postClaim_moves {epoch routeCount totalMinor : Nat} {root : Bytes32}
    (done : postClaim state msg nodeId epoch root routeCount totalMinor = .ok after) :
    after.nodes = state.nodes ∧ ClaimsMove ⟨msg, .postClaim nodeId epoch root routeCount totalMinor⟩ state after := by
  simp only [postClaim, bind_eq_ok, require_eq_ok, pure_eq_ok] at done
  obtain ⟨_, _, _, exists_, _, _, _, live, _, fresh, rfl⟩ := done
  exact ⟨rfl, .posted nodeId epoch _ live exists_ fresh rfl rfl rfl⟩

theorem settleClaim_moves {epoch : Nat} (done : settleClaim state msg nodeId epoch = .ok after) :
    after.nodes = state.nodes ∧ ClaimsMove ⟨msg, .settleClaim nodeId epoch⟩ state after := by
  simp only [settleClaim, bind_eq_ok, require_eq_ok, pure_eq_ok] at done
  obtain ⟨_, _, _, _, _, _, _, _, _, _, rfl⟩ := done
  exact ⟨rfl, .settled nodeId epoch rfl rfl⟩

theorem slash_moves {challenger : Address} {kind : Nat} (done : slash state msg nodeId challenger kind = .ok after) :
    NodesMove msg state after ∧ after.claims = state.claims := by
  simp only [slash, bind_eq_ok] at done
  obtain ⟨_, _, _, _, paid⟩ := done
  obtain ⟨nodes, claims⟩ := pay_keeps paid
  exact ⟨.changed nodeId _ nodes rfl rfl (.inr rfl), claims⟩

theorem challengeDoubleClaim_moves {epoch : Nat} {routeIdHash leaf : Bytes32} {proof : List Bytes32}
    (done : challengeDoubleClaim keccak256 state msg nodeId epoch routeIdHash leaf proof = .ok after) :
    NodesMove msg state after ∧
      ClaimsMove ⟨msg, .challengeDoubleClaim nodeId epoch routeIdHash leaf proof⟩ state after := by
  simp only [challengeDoubleClaim, bind_eq_ok, require_eq_ok] at done
  obtain ⟨_, _, _, posted, _, open_, _, _, done⟩ := done
  split at done
  · simp only [pure_eq_ok] at done
    subst done
    exact ⟨.same rfl, .same rfl⟩
  · obtain ⟨nodes, claims⟩ := slash_moves done
    refine ⟨?_, .challenged nodeId epoch posted open_ claims⟩
    cases nodes with
    | same kept => exact .same kept
    | registered other node written fresh exists_ staying => exact .registered other node written fresh exists_ staying
    | changed other node written exists_ exit revoked => exact .changed other node written exists_ exit revoked
    | exits other node written exists_ exit revoked => exact .exits other node written exists_ exit revoked

end Functions

theorem execute_moves {state after : State} {tx : Tx} (done : execute keccak256 state tx = .ok after) :
    NodesMove tx.msg state after ∧ ClaimsMove tx state after := by
  have routine : NodesMove tx.msg state after ∧ after.claims = state.claims →
      NodesMove tx.msg state after ∧ ClaimsMove tx state after :=
    fun ⟨nodes, claims⟩ => ⟨nodes, .same claims⟩
  obtain ⟨msg, call⟩ := tx
  cases call with
  | registerNode => exact routine (registerNode_moves done)
  | increaseBond => exact routine (increaseBond_moves done)
  | revokeNode => exact routine (revokeNode_moves done)
  | requestUnbond => exact routine (requestUnbond_moves done)
  | withdrawBond => exact routine (withdrawBond_moves done)
  | upsertCluster => exact routine (upsertCluster_moves done)
  | postClaim =>
    obtain ⟨nodes, claims⟩ := postClaim_moves done
    exact ⟨.same nodes, claims⟩
  | settleClaim =>
    obtain ⟨nodes, claims⟩ := settleClaim_moves done
    exact ⟨.same nodes, claims⟩
  | challengeDoubleClaim => exact challengeDoubleClaim_moves keccak256 done

/-- A node that exists stays. -/
theorem NodesMove.exists_ {msg : Msg} {before after : State} (move : NodesMove msg before after) {nodeId : Bytes32}
    (there : (before.nodes nodeId).exists_ = true) : (after.nodes nodeId).exists_ = true := by
  have written : ∀ other node, after.nodes = Function.update before.nodes other node →
      (nodeId = other → node.exists_ = true) → (after.nodes nodeId).exists_ = true := by
    intro other node written still
    rw [written]
    by_cases same : nodeId = other
    · subst same
      rw [Function.update_self]
      exact still rfl
    · rwa [Function.update_of_ne same]
  cases move with
  | same kept => rwa [kept]
  | registered other node update _ exists_ _ => exact written other node update fun _ => exists_
  | changed other node update exists_ _ _ => exact written other node update fun same => by rw [exists_, ← same, there]
  | exits other node update exists_ _ _ => exact written other node update fun same => by rw [exists_, ← same, there]

theorem State.setClaim_self (state : State) (nodeId : Bytes32) (epoch : Nat) (claim : Claim) :
    (state.setClaim nodeId epoch claim).claims nodeId epoch = claim := by
  simp [State.setClaim]

theorem State.setClaim_other (state : State) {nodeId other : Bytes32} {epoch time : Nat} (claim : Claim)
    (different : ¬ (other = nodeId ∧ time = epoch)) :
    (state.setClaim nodeId epoch claim).claims other time = state.claims other time := by
  by_cases node : other = nodeId
  · have time : time ≠ epoch := fun same => different ⟨node, same⟩
    subst node
    simp [State.setClaim, time]
  · simp [State.setClaim, node]

end Xcp.NodeRegistry
