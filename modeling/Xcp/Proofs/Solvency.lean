import Xcp.Contracts.NodeRegistry
import Xcp.Library.Evm

/-! What the contract holds and what it owes. A bond is paid in by one party and
leaves to its operator, to a challenger or into the forfeited stake; nothing else
moves ether. -/

namespace Xcp.NodeRegistry
open Checked Evm Transition Reentry

variable (keccak256 : Preimage → Bytes32)

noncomputable def nodeBonds (state : State) : Nat := Holdings.total Node.bond state.nodes

noncomputable def clusterBonds (state : State) : Nat := Holdings.total Cluster.bond state.clusters

/-- All stake in the contract: the bonds, and what was forfeited. -/
noncomputable def stake (state : State) : Nat := nodeBonds state + clusterBonds state + state.totalForfeited

/-- The sums over bonds are finite, only what exists has a bond, and the ether
in the contract is its stake. -/
structure Backed (state : State) : Prop where
  nodes : Holdings.Sparse Node.bond state.nodes
  clusters : Holdings.Sparse Cluster.bond state.clusters
  newNode : ∀ nodeId, (state.nodes nodeId).exists_ = false → (state.nodes nodeId).bond = 0
  newCluster : ∀ clusterId, (state.clusters clusterId).exists_ = false → (state.clusters clusterId).bond = 0
  balance : state.balance = stake state

/-- A function keeps the stake backed, and balances what it took and sent. -/
structure Settles (before after : State) (value sent : Nat) : Prop where
  backed : Backed after
  flow : after.balance + sent = before.balance + value

theorem initial_backed : Backed {} := by
  have node : ∀ nodeId, ((({} : State).nodes nodeId)).bond = 0 := fun _ => rfl
  have cluster : ∀ clusterId, ((({} : State).clusters clusterId)).bond = 0 := fun _ => rfl
  refine ⟨Holdings.sparse_of_zero node, Holdings.sparse_of_zero cluster, fun _ _ => rfl, fun _ _ => rfl, ?_⟩
  unfold stake nodeBonds clusterBonds
  rw [Holdings.total_of_zero node, Holdings.total_of_zero cluster]
  rfl

/-- Rewriting one node moves its bond: what it loses is sent or forfeited, what
it gains was received. -/
theorem Backed.of_setNode {before after : State} {nodeId : Bytes32} {node : Node} {value sent : Nat}
    (backed : Backed before) (nodes : after.nodes = Function.update before.nodes nodeId node)
    (clusters : after.clusters = before.clusters) (bonded : node.exists_ = true ∨ node.bond = 0)
    (flow : after.balance + sent = before.balance + value)
    (moved : node.bond + after.totalForfeited + sent =
      (before.nodes nodeId).bond + before.totalForfeited + value) :
    Settles before after value sent := by
  refine ⟨⟨?_, ?_, ?_, ?_, ?_⟩, flow⟩
  · rw [nodes]
    exact backed.nodes.update nodeId node
  · rw [clusters]
    exact backed.clusters
  · intro other fresh
    rw [nodes] at fresh ⊢
    by_cases same : other = nodeId
    · subst same
      rw [Function.update_self] at fresh ⊢
      rcases bonded with exists_ | unbonded
      · simp [exists_] at fresh
      · exact unbonded
    · rw [Function.update_of_ne same] at fresh ⊢
      exact backed.newNode other fresh
  · rw [clusters]
    exact backed.newCluster
  · have written := Holdings.total_update backed.nodes nodeId node
    have balance := backed.balance
    unfold stake nodeBonds clusterBonds at balance ⊢
    rw [nodes, clusters]
    omega

/-- Rewriting one cluster moves its bond. -/
theorem Backed.of_setCluster {before after : State} {clusterId : Bytes32} {cluster : Cluster} {value : Nat}
    (backed : Backed before) (clusters : after.clusters = Function.update before.clusters clusterId cluster)
    (nodes : after.nodes = before.nodes) (forfeited : after.totalForfeited = before.totalForfeited)
    (exists_ : cluster.exists_ = true) (flow : after.balance = before.balance + value)
    (moved : cluster.bond = (before.clusters clusterId).bond + value) : Settles before after value 0 := by
  refine ⟨⟨?_, ?_, ?_, ?_, ?_⟩, flow⟩
  · rw [nodes]
    exact backed.nodes
  · rw [clusters]
    exact backed.clusters.update clusterId cluster
  · rw [nodes]
    exact backed.newNode
  · intro other fresh
    rw [clusters] at fresh ⊢
    by_cases same : other = clusterId
    · subst same
      simp [exists_] at fresh
    · rw [Function.update_of_ne same] at fresh ⊢
      exact backed.newCluster other fresh
  · have written := Holdings.total_update backed.clusters clusterId cluster
    have balance := backed.balance
    unfold stake nodeBonds clusterBonds at balance ⊢
    rw [nodes, clusters, forfeited]
    omega

/-- What touches neither a bond nor ether. -/
theorem Backed.of_still {before after : State} (backed : Backed before) (nodes : after.nodes = before.nodes)
    (clusters : after.clusters = before.clusters) (forfeited : after.totalForfeited = before.totalForfeited)
    (balance : after.balance = before.balance) : Settles before after 0 0 := by
  obtain ⟨sparse, sparse', newNode, newCluster, holds⟩ := backed
  refine ⟨⟨?_, ?_, ?_, ?_, ?_⟩, by rw [balance]⟩
  · rwa [nodes]
  · rwa [clusters]
  · rwa [nodes]
  · rwa [clusters]
  · unfold stake nodeBonds clusterBonds at holds ⊢
    rw [nodes, clusters, forfeited, balance, holds]

section Functions
variable {state after : State} {msg : Msg} {nodeId : Bytes32}

theorem pay_settles {amount : Nat} {reason : String} (paid : pay state msg amount reason = .ok after) :
    after.balance + amount = state.balance ∧ after = { state with balance := after.balance } := by
  simp only [pay, bind_eq_ok, require_eq_ok, pure_eq_ok] at paid
  obtain ⟨_, ⟨_, enough⟩, rfl⟩ := paid
  exact ⟨Nat.sub_add_cancel enough, rfl⟩

theorem registerNode_settles {domainHash : Bytes32} (backed : Backed state)
    (done : registerNode state msg nodeId domainHash = .ok after) : Settles state after msg.value 0 := by
  simp only [registerNode, bind_eq_ok, require_eq_ok, pure_eq_ok] at done
  obtain ⟨_, fresh, _, _, rfl⟩ := done
  have unbonded : (state.nodes nodeId).bond = 0 := backed.newNode nodeId fresh
  refine backed.of_setNode rfl rfl (.inl rfl) rfl ?_
  show msg.value + state.totalForfeited + 0 = _
  omega

theorem increaseBond_settles (backed : Backed state) (done : increaseBond state msg nodeId = .ok after) :
    Settles state after msg.value 0 := by
  simp only [increaseBond, bind_eq_ok, require_eq_ok, pure_eq_ok, add_eq_ok] at done
  obtain ⟨_, exists_, bond, ⟨_, rfl⟩, rfl⟩ := done
  refine backed.of_setNode rfl rfl (.inl exists_) rfl ?_
  show (state.nodes nodeId).bond + msg.value + state.totalForfeited + 0 = _
  omega

theorem revokeNode_settles {reason : String} (backed : Backed state)
    (done : revokeNode state msg nodeId reason = .ok after) : Settles state after msg.value 0 := by
  simp only [revokeNode, nonPayable, bind_eq_ok, require_eq_ok, pure_eq_ok] at done
  obtain ⟨_, free, _, exists_, _, _, rfl⟩ := done
  rw [free]
  exact backed.of_setNode rfl rfl (.inl exists_) rfl rfl

theorem requestUnbond_settles (backed : Backed state) (done : requestUnbond state msg nodeId = .ok after) :
    Settles state after msg.value 0 := by
  simp only [requestUnbond, nonPayable, bind_eq_ok, require_eq_ok, pure_eq_ok] at done
  obtain ⟨_, free, _, exists_, _, _, _, _, unbondAt, _, rfl⟩ := done
  rw [free]
  exact backed.of_setNode rfl rfl (.inl exists_) rfl rfl

theorem withdrawBond_settles (backed : Backed state) (done : withdrawBond state msg nodeId = .ok after) :
    Settles state after msg.value (state.nodes nodeId).bond := by
  simp only [withdrawBond, nonPayable, bind_eq_ok, require_eq_ok] at done
  obtain ⟨_, free, _, exists_, _, _, _, _, _, _, _, _, paid⟩ := done
  obtain ⟨balance, rest⟩ := pay_settles paid
  have balance : after.balance + (state.nodes nodeId).bond = state.balance := balance
  rw [free, rest]
  refine backed.of_setNode rfl rfl (.inl exists_) balance ?_
  show 0 + state.totalForfeited + _ = _
  omega

theorem upsertCluster_settles {clusterId membershipRoot policyHash : Bytes32} {open_ : Bool} (backed : Backed state)
    (done : upsertCluster state msg clusterId membershipRoot policyHash open_ = .ok after) :
    Settles state after msg.value 0 := by
  simp only [upsertCluster, bind_eq_ok, require_eq_ok, pure_eq_ok] at done
  obtain ⟨_, _, _, _, bond, read, rfl⟩ := done
  have grown : bond = (state.clusters clusterId).bond + msg.value := by
    have read : (if (state.clusters clusterId).exists_ then
        add 256 Revert.overflow (state.clusters clusterId).bond msg.value else .ok msg.value) = .ok bond := read
    split at read
    · simp only [add_eq_ok] at read
      exact read.2.symm
    next fresh =>
      have unbonded := backed.newCluster clusterId (by simpa using fresh)
      obtain rfl : msg.value = bond := by simpa using read
      omega
  exact backed.of_setCluster rfl rfl rfl rfl rfl grown

theorem postClaim_settles {epoch routeCount totalMinor : Nat} {root : Bytes32} (backed : Backed state)
    (done : postClaim state msg nodeId epoch root routeCount totalMinor = .ok after) :
    Settles state after msg.value 0 := by
  simp only [postClaim, nonPayable, bind_eq_ok, require_eq_ok, pure_eq_ok] at done
  obtain ⟨_, free, _, _, _, _, _, _, _, _, rfl⟩ := done
  rw [free]
  exact backed.of_still rfl rfl rfl rfl

theorem settleClaim_settles {epoch : Nat} (backed : Backed state)
    (done : settleClaim state msg nodeId epoch = .ok after) : Settles state after msg.value 0 := by
  simp only [settleClaim, nonPayable, bind_eq_ok, require_eq_ok, pure_eq_ok] at done
  obtain ⟨_, free, _, _, _, _, _, _, _, _, rfl⟩ := done
  rw [free]
  exact backed.of_still rfl rfl rfl rfl

/-- A slashed bond is split in two: the reward is sent, the rest is forfeited. -/
theorem slash_settles {challenger : Address} {kind : Nat} (backed : Backed state)
    (done : slash state msg nodeId challenger kind = .ok after) :
    Settles state after 0 ((state.nodes nodeId).bond * CHALLENGER_SHARE_BPS / 10000) := by
  simp only [slash, bind_eq_ok, mul_eq_ok, add_eq_ok] at done
  obtain ⟨_, ⟨_, rfl⟩, totalForfeited, ⟨_, rfl⟩, paid⟩ := done
  obtain ⟨balance, rest⟩ := pay_settles paid
  have share : (state.nodes nodeId).bond * CHALLENGER_SHARE_BPS / 10000 ≤ (state.nodes nodeId).bond := by
    unfold CHALLENGER_SHARE_BPS
    omega
  rw [rest]
  refine backed.of_setNode rfl rfl (.inr rfl) balance ?_
  show 0 + (state.totalForfeited + ((state.nodes nodeId).bond - _)) + _ = _
  omega

theorem challengeDoubleClaim_settles {epoch : Nat} {routeIdHash leaf : Bytes32} {proof : List Bytes32}
    (backed : Backed state)
    (done : challengeDoubleClaim keccak256 state msg nodeId epoch routeIdHash leaf proof = .ok after) :
    Settles state after msg.value
      (if state.spentRoute routeIdHash then (state.nodes nodeId).bond * CHALLENGER_SHARE_BPS / 10000 else 0) := by
  simp only [challengeDoubleClaim, nonPayable, bind_eq_ok, require_eq_ok] at done
  obtain ⟨_, free, _, _, _, _, _, _, done⟩ := done
  rw [free]
  split at done
  next unseen =>
    simp only [pure_eq_ok] at done
    subst done
    rw [if_neg (by simp [unseen])]
    exact backed.of_still rfl rfl rfl rfl
  next seen =>
    rw [if_pos (by simpa using seen)]
    have marked : Settles state ((state.setClaim nodeId epoch { state.claims nodeId epoch with challenged := true }).emit
        (.claimChallenged nodeId epoch msg.sender 0)) 0 0 := backed.of_still rfl rfl rfl rfl
    have slashed := slash_settles marked.backed done
    exact ⟨slashed.backed, slashed.flow⟩

end Functions

theorem execute_settles {state after : State} {tx : Tx} (backed : Backed state)
    (done : execute keccak256 state tx = .ok after) :
    Settles state after tx.msg.value ((payout state tx).getD 0) := by
  obtain ⟨msg, call⟩ := tx
  cases call with
  | registerNode => exact registerNode_settles backed done
  | increaseBond => exact increaseBond_settles backed done
  | revokeNode => exact revokeNode_settles backed done
  | requestUnbond => exact requestUnbond_settles backed done
  | withdrawBond => exact withdrawBond_settles backed done
  | upsertCluster => exact upsertCluster_settles backed done
  | postClaim => exact postClaim_settles backed done
  | settleClaim => exact settleClaim_settles backed done
  | challengeDoubleClaim nodeId epoch routeIdHash leaf proof =>
    have settles := challengeDoubleClaim_settles keccak256 backed done
    unfold payout
    dsimp only
    split at settles
    next seen =>
      rw [if_pos seen]
      exact settles
    next unseen =>
      rw [if_neg unseen]
      exact settles

/-! ### Accounts -/

/-- The account's ether is its stake: what it received less what it sent. -/
structure Solvent (account : Account) : Prop where
  backed : Backed account.contract
  flow : account.contract.balance + account.sent = account.received

theorem transact_solvent {account after : Account} {tx : Tx} (solvent : Solvent account)
    (done : transact keccak256 account tx = .ok after) : Solvent after := by
  simp only [transact, bind_eq_ok, pure_eq_ok] at done
  obtain ⟨contract, done, rfl⟩ := done
  obtain ⟨backed, flow⟩ := execute_settles keccak256 solvent.backed done
  have same : payout account.contract tx.accepted = payout account.contract tx := rfl
  have value : tx.accepted.msg.value = tx.msg.value := rfl
  have before := solvent.flow
  rw [same, value] at flow
  refine ⟨backed, ?_⟩
  show contract.balance + (account.sent + (payout account.contract tx).getD 0) = account.received + tx.msg.value
  omega

/-- A payment out of one node's bond: no other node and no cluster is touched. -/
def PaidByOne (before after : State) (amount : Nat) : Prop :=
  ∃ nodeId, amount ≤ (before.nodes nodeId).bond ∧ (∀ other ≠ nodeId, after.nodes other = before.nodes other) ∧
    after.clusters = before.clusters

theorem withdrawBond_paidByOne {state after : State} {msg : Msg} {nodeId : Bytes32}
    (done : withdrawBond state msg nodeId = .ok after) : PaidByOne state after (state.nodes nodeId).bond := by
  simp only [withdrawBond, bind_eq_ok, require_eq_ok] at done
  obtain ⟨_, _, _, _, _, _, _, _, _, _, _, _, paid⟩ := done
  obtain ⟨_, rest⟩ := pay_settles paid
  refine ⟨nodeId, le_rfl, ?_, by rw [rest]; rfl⟩
  intro other different
  rw [rest]
  exact Function.update_of_ne different _ _

theorem slash_paidByOne {state after : State} {msg : Msg} {nodeId : Bytes32} {challenger : Address} {kind : Nat}
    (done : slash state msg nodeId challenger kind = .ok after) :
    PaidByOne state after ((state.nodes nodeId).bond * CHALLENGER_SHARE_BPS / 10000) := by
  simp only [slash, bind_eq_ok] at done
  obtain ⟨_, _, _, _, paid⟩ := done
  obtain ⟨_, rest⟩ := pay_settles paid
  refine ⟨nodeId, ?_, ?_, by rw [rest]; rfl⟩
  · unfold CHALLENGER_SHARE_BPS
    omega
  · intro other different
    rw [rest]
    exact Function.update_of_ne different _ _

theorem execute_paidByOne {state after : State} {tx : Tx} {amount : Nat}
    (done : execute keccak256 state tx = .ok after) (pays : payout state tx = some amount) :
    PaidByOne state after amount := by
  obtain ⟨msg, call⟩ := tx
  cases call with
  | withdrawBond nodeId =>
    obtain rfl : (state.nodes nodeId).bond = amount := by simpa [payout] using pays
    exact withdrawBond_paidByOne done
  | challengeDoubleClaim nodeId epoch routeIdHash leaf proof =>
    obtain ⟨seen, rfl⟩ : state.spentRoute routeIdHash = true ∧
        (state.nodes nodeId).bond * CHALLENGER_SHARE_BPS / 10000 = amount := by simpa [payout] using pays
    have done : challengeDoubleClaim keccak256 state msg nodeId epoch routeIdHash leaf proof = .ok after := done
    simp only [challengeDoubleClaim, bind_eq_ok, require_eq_ok] at done
    obtain ⟨_, _, _, _, _, _, _, _, done⟩ := done
    rw [if_neg (by simp [seen])] at done
    obtain ⟨payer, own, others, clusters⟩ := slash_paidByOne done
    exact ⟨payer, own, others, clusters⟩
  | _ => simp [payout] at pays

/-- In every state that the contract passes through, inside a transfer or after
one, the ether received less the ether sent is the sum of all bonds and of the
forfeited stake, and the next payment comes out of one node's bond. -/
theorem received_less_sent_eq_stake (calls : List (Attempt Tx)) :
    ∀ account ∈ visited (transfers keccak256) {} calls,
      Holdings.Sparse Node.bond account.contract.nodes ∧ Holdings.Sparse Cluster.bond account.contract.clusters ∧
      account.sent ≤ account.received ∧
      account.received - account.sent =
        nodeBonds account.contract + clusterBonds account.contract + account.contract.totalForfeited ∧
      ∀ tx after amount, transact keccak256 account tx = .ok after → payout account.contract tx = some amount →
        PaidByOne account.contract after.contract amount := by
  intro account member
  have start : Solvent {} := ⟨initial_backed, rfl⟩
  obtain ⟨backed, flow⟩ : Solvent account :=
    visited_invariant (fun _ _ _ => transact_solvent keccak256) start member
  have balance := backed.balance
  unfold stake at balance
  refine ⟨backed.nodes, backed.clusters, by omega, by omega, ?_⟩
  intro tx after amount done pays
  simp only [transact, bind_eq_ok, pure_eq_ok] at done
  obtain ⟨contract, done, rfl⟩ := done
  exact execute_paidByOne keccak256 done pays

/-- Two nodes are bonded; the operator of the first leaves and, while it is
being paid, calls for its bond again. -/
def withdrawTwice : List (Attempt Tx) :=
  [.call ⟨⟨1, MIN_BOND, 1, true, Nat.one_ne_zero⟩, .registerNode 7 70⟩ [],
   .call ⟨⟨2, MIN_BOND, 1, true, Evm.two_ne_zero⟩, .registerNode 8 80⟩ [],
   .call ⟨⟨1, 0, 2, true, Nat.one_ne_zero⟩, .requestUnbond 7⟩ [],
   .call ⟨⟨1, 0, 2 + UNBOND_DELAY, true, Nat.one_ne_zero⟩, .withdrawBond 7⟩
     [.call ⟨⟨1, 0, 2 + UNBOND_DELAY, true, Nat.one_ne_zero⟩, .withdrawBond 7⟩ []]]

theorem visited_withdrawTwice : (visited (transfers Preimage.numbered) {} withdrawTwice).length = 5 := by
  decide +kernel

/-- Before the bond is paid, and inside its payment. -/
theorem received_less_sent_eq_stake_withdrawTwice :
    let states := visited (transfers Preimage.numbered) {} withdrawTwice
    let before := states.get ⟨3, by rw [visited_withdrawTwice]; decide⟩
    let inside := states.get ⟨4, by rw [visited_withdrawTwice]; decide⟩
    inside.received - inside.sent =
      nodeBonds inside.contract + clusterBonds inside.contract + inside.contract.totalForfeited ∧
    ∃ after, PaidByOne before.contract after MIN_BOND := by
  intro states before inside
  have paying := received_less_sent_eq_stake Preimage.numbered withdrawTwice inside (List.get_mem ..)
  have now := received_less_sent_eq_stake Preimage.numbered withdrawTwice before (List.get_mem ..)
  refine ⟨paying.2.2.2.1, ?_⟩
  have done : (transact Preimage.numbered before
      ⟨⟨1, 0, 2 + UNBOND_DELAY, true, Nat.one_ne_zero⟩, .withdrawBond 7⟩).toOption.isSome = true := by decide +kernel
  obtain ⟨after, done⟩ := ok_of_isSome done
  exact ⟨after.contract, now.2.2.2.2 _ _ _ done (by decide +kernel)⟩

/-- The second call from inside the payment gets nothing. -/
example : (attempts (transfers Preimage.numbered) {} withdrawTwice).2.sent = MIN_BOND := by
  decide +kernel

/-! ### Payees that call back and plain runs -/

def PlainlyReached (account : Account) : Prop := ∃ txs, account.contract = run keccak256 txs

theorem transact_plainlyReached {account after : Account} {tx : Tx} (reached : PlainlyReached keccak256 account)
    (done : transact keccak256 account tx = .ok after) : PlainlyReached keccak256 after := by
  obtain ⟨txs, same⟩ := reached
  simp only [transact, bind_eq_ok, pure_eq_ok] at done
  obtain ⟨contract, done, rfl⟩ := done
  refine ⟨txs ++ [tx.accepted], ?_⟩
  rw [run, run_append, ← run, ← same]
  simp only [run_cons, run_nil, step, done, settle_ok]

/-- Payees that call back reach no state of the contract that plain transactions
do not reach. -/
theorem visited_plainlyReached (calls : List (Attempt Tx)) :
    ∀ account ∈ visited (transfers keccak256) {} calls, PlainlyReached keccak256 account := by
  intro account member
  have start : PlainlyReached keccak256 {} := ⟨[], rfl⟩
  exact visited_invariant (fun _ _ _ => transact_plainlyReached keccak256) start member

end Xcp.NodeRegistry
