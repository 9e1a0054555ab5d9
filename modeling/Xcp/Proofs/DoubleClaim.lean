import Xcp.Contracts.NodeRegistry

/-! What a challenge for double billing can do to a bond. The contract remembers
that a route id was sighted, but neither on which claim nor on which leaf. -/

namespace Xcp.NodeRegistry
open Checked Evm Transition Transport

variable (keccak256 : Preimage → Bytes32)

def Slashed (state : State) (nodeId : Bytes32) : Prop :=
  ∃ amount challenger kind, Event.slashed nodeId amount challenger kind ∈ state.events

def Posted (state : State) (nodeId : Bytes32) (epoch : Nat) : Prop := (state.claims nodeId epoch).postedAt ≠ 0

structure Proven (state : State) (nodeId : Bytes32) (epoch : Nat) (leaf : Bytes32) (proof : List Bytes32) : Prop where
  posted : Posted state nodeId epoch
  open_ : (state.claims nodeId epoch).settled = false
  climbs : Merkle.climb (hashPair keccak256) leaf proof = (state.claims nodeId epoch).root

/-- A posted claim is never overwritten: its root and its date are final. -/
def ClaimsKept (before after : State) : Prop :=
  ∀ nodeId epoch, Posted before nodeId epoch →
    (after.claims nodeId epoch).postedAt = (before.claims nodeId epoch).postedAt ∧
    (after.claims nodeId epoch).root = (before.claims nodeId epoch).root

structure Peaceful (before after : State) : Prop where
  spent : after.spentRoute = before.spentRoute
  slashed : ∀ nodeId, Slashed after nodeId → Slashed before nodeId

theorem ClaimsKept.refl (state : State) : ClaimsKept state state := fun _ _ _ => ⟨rfl, rfl⟩

theorem ClaimsKept.of_eq {before after : State} (same : after.claims = before.claims) : ClaimsKept before after := by
  intro nodeId epoch _
  rw [same]
  exact ⟨rfl, rfl⟩

/-- Rewriting one claim keeps all others, and keeps that one if its date and
root survive or it was not posted. -/
theorem ClaimsKept.of_setClaim {before after : State} {nodeId : Bytes32} {epoch : Nat} {claim : Claim}
    (written : after.claims = (before.setClaim nodeId epoch claim).claims)
    (same : Posted before nodeId epoch →
      claim.postedAt = (before.claims nodeId epoch).postedAt ∧ claim.root = (before.claims nodeId epoch).root) :
    ClaimsKept before after := by
  intro otherId otherEpoch posted
  rw [written]
  by_cases node : otherId = nodeId
  · subst node
    by_cases time : otherEpoch = epoch
    · subst time
      simpa [State.setClaim] using same posted
    · simp [State.setClaim, time]
  · simp [State.setClaim, node]

private theorem pay_ok {state after : State} {msg : Msg} {amount : Nat} {reason : String}
    (paid : pay state msg amount reason = .ok after) :
    msg.accepts = true ∧
    after.claims = state.claims ∧ after.spentRoute = state.spentRoute ∧ after.events = state.events := by
  simp only [pay, bind_eq_ok, require_eq_ok, pure_eq_ok] at paid
  obtain ⟨_, ⟨accepts, _⟩, rfl⟩ := paid
  exact ⟨accepts, rfl, rfl, rfl⟩

private theorem Peaceful.of_events {before after : State} {events : List Event}
    (spent : after.spentRoute = before.spentRoute) (grown : after.events = before.events ++ events)
    (harmless : ∀ nodeId amount challenger kind, Event.slashed nodeId amount challenger kind ∉ events) :
    Peaceful before after := by
  refine ⟨spent, ?_⟩
  intro nodeId ⟨amount, challenger, kind, member⟩
  rw [grown, List.mem_append] at member
  rcases member with old | new
  · exact ⟨amount, challenger, kind, old⟩
  · exact absurd new (harmless _ _ _ _)

/-- What every function but the challenge leaves alone. -/
structure Routine (before after : State) : Prop where
  claims : ClaimsKept before after
  peaceful : Peaceful before after

section Functions
variable {state after : State} {msg : Msg} {nodeId : Bytes32}

theorem registerNode_routine {domainHash : Bytes32}
    (done : registerNode state msg nodeId domainHash = .ok after) : Routine state after := by
  simp only [registerNode, bind_eq_ok, require_eq_ok, pure_eq_ok] at done
  obtain ⟨_, _, _, _, rfl⟩ := done
  exact ⟨.of_eq rfl, .of_events rfl rfl (by simp)⟩

theorem increaseBond_routine (done : increaseBond state msg nodeId = .ok after) : Routine state after := by
  simp only [increaseBond, bind_eq_ok, require_eq_ok, pure_eq_ok] at done
  obtain ⟨_, _, _, _, rfl⟩ := done
  exact ⟨.of_eq rfl, .of_events rfl rfl (by simp)⟩

theorem revokeNode_routine {reason : String}
    (done : revokeNode state msg nodeId reason = .ok after) : Routine state after := by
  simp only [revokeNode, bind_eq_ok, require_eq_ok, pure_eq_ok] at done
  obtain ⟨_, _, _, _, _, _, rfl⟩ := done
  exact ⟨.of_eq rfl, .of_events rfl rfl (by simp)⟩

theorem requestUnbond_routine (done : requestUnbond state msg nodeId = .ok after) : Routine state after := by
  simp only [requestUnbond, bind_eq_ok, require_eq_ok, pure_eq_ok] at done
  obtain ⟨_, _, _, _, _, _, _, _, unbondAt, _, rfl⟩ := done
  exact ⟨.of_eq rfl, .of_events rfl (List.append_assoc _ _ _) (by simp)⟩

theorem withdrawBond_routine (done : withdrawBond state msg nodeId = .ok after) : Routine state after := by
  simp only [withdrawBond, bind_eq_ok, require_eq_ok] at done
  obtain ⟨_, _, _, _, _, _, _, _, _, _, _, _, paid⟩ := done
  obtain ⟨_, claims, spent, events⟩ := pay_ok paid
  exact ⟨.of_eq claims, .of_events spent events (by simp)⟩

theorem upsertCluster_routine {clusterId membershipRoot policyHash : Bytes32} {open_ : Bool}
    (done : upsertCluster state msg clusterId membershipRoot policyHash open_ = .ok after) :
    Routine state after := by
  simp only [upsertCluster, bind_eq_ok, require_eq_ok, pure_eq_ok] at done
  obtain ⟨_, _, _, _, _, _, rfl⟩ := done
  exact ⟨.of_eq rfl, .of_events rfl rfl (by simp)⟩

theorem postClaim_routine {epoch routeCount totalMinor : Nat} {root : Bytes32}
    (done : postClaim state msg nodeId epoch root routeCount totalMinor = .ok after) : Routine state after := by
  simp only [postClaim, bind_eq_ok, require_eq_ok, pure_eq_ok] at done
  obtain ⟨_, _, _, _, _, _, _, _, _, fresh, rfl⟩ := done
  refine ⟨.of_setClaim rfl ?_, .of_events rfl rfl (by simp)⟩
  intro posted
  exact absurd fresh posted

theorem settleClaim_routine {epoch : Nat} (done : settleClaim state msg nodeId epoch = .ok after) :
    Routine state after := by
  simp only [settleClaim, bind_eq_ok, require_eq_ok, pure_eq_ok] at done
  obtain ⟨_, _, _, _, _, _, _, _, _, _, rfl⟩ := done
  exact ⟨.of_setClaim rfl (fun _ => ⟨rfl, rfl⟩), .of_events rfl rfl (by simp)⟩

theorem slash_ok {challenger : Address} {kind : Nat} (done : slash state msg nodeId challenger kind = .ok after) :
    msg.accepts = true ∧ after.claims = state.claims ∧ after.spentRoute = state.spentRoute ∧
    ∃ revokedAt, after.events = state.events ++
      [.slashed nodeId (state.nodes nodeId).bond challenger kind, .nodeRevoked nodeId revokedAt "slashed"] := by
  simp only [slash, bind_eq_ok] at done
  obtain ⟨_, _, _, _, paid⟩ := done
  obtain ⟨accepts, claims, spent, events⟩ := pay_ok paid
  refine ⟨accepts, claims, spent, uint64 msg.timestamp, ?_⟩
  rw [events]
  simp [State.emit, State.setNode]

/-- A challenge that passes its checks records the route id at the first proven
sighting of it, and slashes the node at every later one. -/
theorem challengeDoubleClaim_ok {epoch : Nat} {routeIdHash leaf : Bytes32} {proof : List Bytes32}
    (done : challengeDoubleClaim keccak256 state msg nodeId epoch routeIdHash leaf proof = .ok after) :
    msg.value = 0 ∧ Proven keccak256 state nodeId epoch leaf proof ∧ ClaimsKept state after ∧
    (∀ route, after.spentRoute route = true → state.spentRoute route = true ∨ route = routeIdHash) ∧
    (∀ other, Slashed after other →
      Slashed state other ∨ other = nodeId ∧ msg.accepts = true ∧ state.spentRoute routeIdHash = true) := by
  simp only [challengeDoubleClaim, nonPayable, bind_eq_ok, require_eq_ok] at done
  obtain ⟨_, free, _, posted, _, open_, _, climbs, done⟩ := done
  refine ⟨free, ⟨posted, open_, climbs⟩, ?_⟩
  split at done
  next unseen =>
    simp only [pure_eq_ok] at done
    subst done
    refine ⟨.of_eq rfl, ?_, fun _ => .inl⟩
    intro route spent
    by_cases same : route = routeIdHash
    · exact .inr same
    · exact .inl (by simpa [same] using spent)
  next seen =>
    obtain ⟨accepts, claims, spentRoute, revokedAt, events⟩ := slash_ok done
    refine ⟨.of_setClaim claims (fun _ => ⟨rfl, rfl⟩), ?_, ?_⟩
    · intro route spent
      rw [spentRoute] at spent
      exact .inl spent
    · intro other slashed
      obtain ⟨amount, challenger, kind, member⟩ := slashed
      rw [events] at member
      simp only [State.emit, State.setClaim, List.append_assoc, List.mem_append, List.mem_cons, List.not_mem_nil,
        or_false, reduceCtorEq, false_or, Event.slashed.injEq] at member
      rcases member with old | ⟨rfl, _⟩
      · exact .inl ⟨amount, challenger, kind, old⟩
      · exact .inr ⟨rfl, accepts, by simpa using seen⟩

end Functions

/-! ### Sightings -/

/-- A route id named in a challenge that sends no ether and whose proof led to
the root of an open claim. -/
structure Sighting where
  nodeId : Bytes32
  epoch : Nat
  routeIdHash : Bytes32
  leaf : Bytes32
deriving DecidableEq, Repr

instance (state : State) (nodeId : Bytes32) (epoch : Nat) (leaf : Bytes32) (proof : List Bytes32) :
    Decidable (Proven keccak256 state nodeId epoch leaf proof) :=
  decidable_of_iff ((state.claims nodeId epoch).postedAt ≠ 0 ∧ (state.claims nodeId epoch).settled = false ∧
      Merkle.climb (hashPair keccak256) leaf proof = (state.claims nodeId epoch).root)
    ⟨fun ⟨posted, open_, climbs⟩ => ⟨posted, open_, climbs⟩, fun proven => ⟨proven.posted, proven.open_, proven.climbs⟩⟩

def sightings (state : State) (tx : Tx) : List Sighting :=
  match tx.call with
  | .challengeDoubleClaim nodeId epoch routeIdHash leaf proof =>
    if tx.msg.value = 0 ∧ Proven keccak256 state nodeId epoch leaf proof then
      [⟨nodeId, epoch, routeIdHash, leaf⟩]
    else []
  | _ => []

/-- What one transaction does to claims, sightings and bonds. -/
structure Effect (state after : State) (tx : Tx) (seen : List Sighting) : Prop where
  claims : ClaimsKept state after
  spent : ∀ route, after.spentRoute route = true →
    state.spentRoute route = true ∨ ∃ new ∈ seen, new.routeIdHash = route
  slashed : ∀ nodeId, Slashed after nodeId → Slashed state nodeId ∨
    tx.msg.accepts = true ∧ ∃ new ∈ seen, new.nodeId = nodeId ∧ state.spentRoute new.routeIdHash = true

theorem Routine.effect {state after : State} (routine : Routine state after) (tx : Tx) (seen : List Sighting) :
    Effect state after tx seen :=
  ⟨routine.claims, fun route spent => .inl (by rwa [routine.peaceful.spent] at spent),
    fun nodeId slashed => .inl (routine.peaceful.slashed nodeId slashed)⟩

theorem execute_effect {state after : State} {tx : Tx} (done : execute keccak256 state tx = .ok after) :
    Effect state after tx (sightings keccak256 state tx) := by
  obtain ⟨msg, call⟩ := tx
  cases call with
  | registerNode => exact (registerNode_routine done).effect _ _
  | increaseBond => exact (increaseBond_routine done).effect _ _
  | revokeNode => exact (revokeNode_routine done).effect _ _
  | requestUnbond => exact (requestUnbond_routine done).effect _ _
  | withdrawBond => exact (withdrawBond_routine done).effect _ _
  | upsertCluster => exact (upsertCluster_routine done).effect _ _
  | postClaim => exact (postClaim_routine done).effect _ _
  | settleClaim => exact (settleClaim_routine done).effect _ _
  | challengeDoubleClaim nodeId epoch routeIdHash leaf proof =>
    obtain ⟨free, proven, claims, spent, slashed⟩ := challengeDoubleClaim_ok keccak256 done
    have free : msg.value = 0 := free
    have seen : sightings keccak256 state ⟨msg, .challengeDoubleClaim nodeId epoch routeIdHash leaf proof⟩ =
        [⟨nodeId, epoch, routeIdHash, leaf⟩] := by
      simp [sightings, free, proven]
    rw [seen]
    refine ⟨claims, fun route now => ?_, fun other now => ?_⟩
    · rcases spent route now with before | rfl
      · exact .inl before
      · exact .inr ⟨_, List.mem_singleton_self _, rfl⟩
    · rcases slashed other now with before | ⟨rfl, accepts, before⟩
      · exact .inl before
      · exact .inr ⟨accepts, _, List.mem_singleton_self _, rfl, before⟩

theorem step_effect (state : State) (tx : Tx) :
    Effect state (step keccak256 state tx) tx (sightings keccak256 state tx) := by
  unfold step
  rcases settle_cases state (execute keccak256 state tx) with ⟨after, done, same⟩ | same
  · rw [same]
    exact execute_effect keccak256 done
  · rw [same]
    exact ⟨.refl state, fun _ => .inl, fun _ => .inl⟩

/-- The claim of a sighting is posted, and the sighted leaf is under its root. -/
def Sighting.Stands (state : State) (sighting : Sighting) : Prop :=
  Posted state sighting.nodeId sighting.epoch ∧
    ∃ proof, Merkle.climb (hashPair keccak256) sighting.leaf proof = (state.claims sighting.nodeId sighting.epoch).root

variable {keccak256}

theorem sightings_stand {state : State} {tx : Tx} {new : Sighting} (member : new ∈ sightings keccak256 state tx) :
    new.Stands keccak256 state := by
  unfold sightings at member
  split at member
  next nodeId epoch routeIdHash leaf proof _ =>
    split at member
    next proven =>
      obtain rfl := List.mem_singleton.mp member
      exact ⟨proven.2.posted, proof, proven.2.climbs⟩
    next => cases member
  next => cases member

theorem ClaimsKept.stands {before after : State} (kept : ClaimsKept before after) {sighting : Sighting}
    (stands : sighting.Stands keccak256 before) : sighting.Stands keccak256 after := by
  obtain ⟨posted, proof, climbs⟩ := stands
  obtain ⟨date, root⟩ := kept _ _ posted
  exact ⟨by unfold Posted; rwa [date], proof, by rwa [root]⟩

variable (keccak256)

/-! ### Receipts under a root -/

section Receipts

variable [Python.Host]

def receiptLeaf (receipt : TransportReceipt) : Bytes32 := keccak256 (.text receipt.billablePayload.canonical)

/-- The leaf is that of a receipt for the route whose hash is named. -/
def CommitsTo (leaf routeIdHash : Bytes32) : Prop :=
  ∃ receipt, receiptLeaf keccak256 receipt = leaf ∧ keccak256 (.text receipt.routeId) = routeIdHash

/-- The node's claim for the epoch has the receipt under its root. -/
def Bills (state : State) (nodeId : Bytes32) (epoch : Nat) (receipt : TransportReceipt) : Prop :=
  Posted state nodeId epoch ∧
    ∃ proof, Merkle.climb (hashPair keccak256) (receiptLeaf keccak256 receipt) proof = (state.claims nodeId epoch).root

/-- No two receipt leaves, in one claim of the node or in two, are for one route. -/
def BillsOnce (state : State) (nodeId : Bytes32) : Prop :=
  ∀ epoch epoch' receipt receipt', Bills keccak256 state nodeId epoch receipt →
    Bills keccak256 state nodeId epoch' receipt' → receipt.routeId = receipt'.routeId →
    epoch = epoch' ∧ receiptLeaf keccak256 receipt = receiptLeaf keccak256 receipt'

/-- Two sightings of one route id are a double billing by the node: both claims
are its own, both leaves are of receipts for that route, and they differ. -/
structure DoubleBilling (nodeId : Bytes32) (old new : Sighting) : Prop where
  own : old.nodeId = nodeId
  old_commits : CommitsTo keccak256 old.leaf old.routeIdHash
  new_commits : CommitsTo keccak256 new.leaf new.routeIdHash
  distinct : (old.epoch, old.leaf) ≠ (new.epoch, new.leaf)

/-- A transaction is fair to a node if it sights a route id on one of the node's
claims only for the first time, or as the second half of a double billing. Where
the challenger refuses the reward the challenge reverts, so nothing is asked. -/
def FairTo (nodeId : Bytes32) : State × List Sighting → Tx → Prop
  | (state, past), tx => tx.msg.accepts = true →
    ∀ new ∈ sightings keccak256 state tx, new.nodeId = nodeId →
      ∀ old ∈ past, old.routeIdHash = new.routeIdHash → DoubleBilling keccak256 nodeId old new

/-- The contract beside the sightings it has seen. -/
def recorded : State × List Sighting → Tx → State × List Sighting :=
  remember (step keccak256) (sightings keccak256)

/-- Every spent route id was sighted, every sighting was proven on a claim that
still stands, and a node that bills each route once has kept its bond. -/
structure Innocent (nodeId : Bytes32) (recorded : State × List Sighting) : Prop where
  spent : ∀ route, recorded.1.spentRoute route = true → ∃ old ∈ recorded.2, old.routeIdHash = route
  evidence : ∀ old ∈ recorded.2, old.Stands keccak256 recorded.1
  kept : BillsOnce keccak256 recorded.1 nodeId → ¬ Slashed recorded.1 nodeId

variable {keccak256}

theorem BillsOnce.before {before after : State} {nodeId : Bytes32} (kept : ClaimsKept before after)
    (honest : BillsOnce keccak256 after nodeId) : BillsOnce keccak256 before nodeId := by
  have still : ∀ epoch receipt, Bills keccak256 before nodeId epoch receipt →
      Bills keccak256 after nodeId epoch receipt := by
    intro epoch receipt ⟨posted, proof, climbs⟩
    obtain ⟨date, root⟩ := kept _ _ posted
    exact ⟨by unfold Posted; rwa [date], proof, by rwa [root]⟩
  exact fun epoch epoch' receipt receipt' bills bills' =>
    honest epoch epoch' receipt receipt' (still _ _ bills) (still _ _ bills')

/-- A double billing is what a node that bills each route once does not do. -/
theorem DoubleBilling.not_billsOnce (ideal : Function.Injective keccak256) {state : State} {nodeId : Bytes32}
    {old new : Sighting} (double : DoubleBilling keccak256 nodeId old new)
    (same : old.routeIdHash = new.routeIdHash) (target : new.nodeId = nodeId)
    (oldStands : old.Stands keccak256 state) (newStands : new.Stands keccak256 state) :
    ¬ BillsOnce keccak256 state nodeId := by
  intro honest
  obtain ⟨receipt, leaf, route⟩ := double.old_commits
  obtain ⟨receipt', leaf', route'⟩ := double.new_commits
  have sameRoute : receipt.routeId = receipt'.routeId := by
    have hashes : keccak256 (.text receipt.routeId) = keccak256 (.text receipt'.routeId) := by
      rw [route, route', same]
    simpa using ideal hashes
  unfold Sighting.Stands at oldStands newStands
  rw [double.own, ← leaf] at oldStands
  rw [target, ← leaf'] at newStands
  obtain ⟨epochs, leaves⟩ := honest _ _ receipt receipt' oldStands newStands sameRoute
  apply double.distinct
  rw [← leaf, ← leaf', epochs, leaves]

theorem innocent_step (ideal : Function.Injective keccak256) {nodeId : Bytes32}
    {before : State × List Sighting} {tx : Tx} (innocent : Innocent keccak256 nodeId before)
    (fair : FairTo keccak256 nodeId before tx) : Innocent keccak256 nodeId (recorded keccak256 before tx) := by
  obtain ⟨state, past⟩ := before
  have effect := step_effect keccak256 state tx
  refine ⟨?_, ?_, ?_⟩
  · intro route spent
    rcases effect.spent route spent with before | ⟨new, member, names⟩
    · obtain ⟨old, member, names⟩ := innocent.spent route before
      exact ⟨old, List.mem_append_left _ member, names⟩
    · exact ⟨new, List.mem_append_right _ member, names⟩
  · intro sighting member
    apply effect.claims.stands
    rcases List.mem_append.mp member with old | new
    · exact innocent.evidence sighting old
    · exact sightings_stand new
  · intro honest slashed
    have honestBefore := honest.before effect.claims
    rcases effect.slashed nodeId slashed with before | ⟨accepts, new, member, target, spent⟩
    · exact innocent.kept honestBefore before
    · -- the slash rests on an earlier sighting, which would be a double billing
      obtain ⟨old, earlier, same⟩ := innocent.spent _ spent
      exact (fair accepts new member target old earlier same).not_billsOnce ideal same target
        (innocent.evidence old earlier) (sightings_stand member) honestBefore

/-- In every run that is fair to a node, the node keeps its bond as long as it
bills each route once. -/
theorem billsOnce_never_slashed (ideal : Function.Injective keccak256) (txs : List Tx) (nodeId : Bytes32)
    (fair : Meets (recorded keccak256) (FairTo keccak256 nodeId) ({}, []) txs) :
    Always (step keccak256) (fun state => BillsOnce keccak256 state nodeId → ¬ Slashed state nodeId) {} txs := by
  have start : Innocent keccak256 nodeId ({}, []) := by
    refine ⟨by simp, by simp, ?_⟩
    rintro - ⟨_, _, _, member⟩
    cases member
  apply always_remember.mp
  exact fair.always (fun _ _ => innocent_step ideal) (fun _ innocent => innocent.kept) start

/-! ### One receipt, shown twice -/

/-- A node whose only claim has a single receipt leaf for its root bills once. -/
theorem billsOnce_of_single (ideal : Function.Injective keccak256) {state : State} {nodeId : Bytes32} {epoch : Nat}
    {only : TransportReceipt} (single : ∀ epoch', Posted state nodeId epoch' → epoch' = epoch)
    (root : (state.claims nodeId epoch).root = receiptLeaf keccak256 only) : BillsOnce keccak256 state nodeId := by
  have leaf : ∀ epoch' receipt, Bills keccak256 state nodeId epoch' receipt →
      epoch' = epoch ∧ receiptLeaf keccak256 receipt = receiptLeaf keccak256 only := by
    intro epoch' receipt ⟨posted, proof, climbs⟩
    obtain rfl := single epoch' posted
    rw [root] at climbs
    refine ⟨rfl, Merkle.climb_eq_of_not_pair _ ?_ climbs⟩
    intro a b same
    cases ideal same
  intro first second receipt receipt' bills bills' _
  obtain ⟨rfl, same⟩ := leaf first receipt bills
  obtain ⟨rfl, same'⟩ := leaf second receipt' bills'
  exact ⟨rfl, same.trans same'.symm⟩

variable (keccak256)

def oneRoute : TransportReceipt :=
  { routeId := "r-1", nodeId := "0x07", payerAgent := 1, routeClass := .a2t, priceMinor := 5, epoch := 1 }

/-- Node 7 posts one claim with one receipt; anyone shows that receipt. -/
def openingMoves : List Tx :=
  [⟨⟨1, MIN_BOND, 1000, true, Nat.one_ne_zero⟩, .registerNode 7 70⟩,
   ⟨⟨1, 0, 2000, true, Nat.one_ne_zero⟩, .postClaim 7 1 (receiptLeaf keccak256 oneRoute) 1 5⟩]

def showReceipt : Tx :=
  ⟨⟨2, 0, 3000, true, Evm.two_ne_zero⟩,
    .challengeDoubleClaim 7 1 (keccak256 (.text oneRoute.routeId)) (receiptLeaf keccak256 oneRoute) []⟩

def billed (root : Bytes32) : State where
  nodes := Function.update (fun _ => {}) 7
    { operator := 1, domainHash := 70, nodeId := 7, bond := MIN_BOND, registeredAt := 1000, exists_ := true }
  operatorNode := Function.update (fun _ => 0) 1 7
  claims := Function.update (fun _ _ => {}) 7 (Function.update (fun _ => {}) 1
    { root, epoch := 1, routeCount := 1, totalMinor := 5, postedAt := 2000 })
  balance := MIN_BOND
  events := [.nodeRegistered 7 1 MIN_BOND, .claimPosted 7 1 root 5]

theorem run_openingMoves : run keccak256 (openingMoves keccak256) = billed (receiptLeaf keccak256 oneRoute) := by
  simp [run, openingMoves, step, execute, registerNode, postClaim, nonPayable, State.receive, State.setNode,
    State.setClaim, State.emit, billed, require_true, ok_bind, uint64, MIN_BOND]

def shownTwice (routeIdHash root : Bytes32) : State where
  nodes := Function.update (fun _ => {}) 7
    { operator := 1, domainHash := 70, nodeId := 7, bond := 0, registeredAt := 1000, revokedAt := 3000,
      exists_ := true }
  operatorNode := Function.update (fun _ => 0) 1 7
  claims := Function.update (fun _ _ => {}) 7 (Function.update (fun _ => {}) 1
    { root, epoch := 1, routeCount := 1, totalMinor := 5, postedAt := 2000, challenged := true })
  spentRoute := Function.update (fun _ => false) routeIdHash true
  totalForfeited := MIN_BOND - MIN_BOND / 5
  balance := MIN_BOND - MIN_BOND / 5
  events := [.nodeRegistered 7 1 MIN_BOND, .claimPosted 7 1 root 5, .claimChallenged 7 1 2 0,
    .slashed 7 MIN_BOND 2 0, .nodeRevoked 7 3000 "slashed"]

theorem run_shownTwice :
    run keccak256 (openingMoves keccak256 ++ [showReceipt keccak256, showReceipt keccak256]) =
      shownTwice (keccak256 (.text oneRoute.routeId)) (receiptLeaf keccak256 oneRoute) := by
  have opened := run_openingMoves keccak256
  unfold run at opened ⊢
  rw [run_append, opened]
  simp [step, execute, showReceipt, challengeDoubleClaim, slash, pay, nonPayable, billed, shownTwice,
    State.setClaim, State.setNode, State.emit, Evm.mul, Evm.add, require_true, ok_bind, uint64, MIN_BOND,
    CHALLENGER_SHARE_BPS]

end Receipts

/-! The interpreter and the hash of the two runs below. -/

section Shown

local instance : Python.Host := Python.asciiHost []

/-- One receipt shown twice takes the bond of a node that bills each route once. -/
theorem oneReceipt_slashed :
    Function.Injective Preimage.numbered ∧
    let state := run Preimage.numbered (openingMoves Preimage.numbered ++
      [showReceipt Preimage.numbered, showReceipt Preimage.numbered])
    (state.nodes 7).exists_ = true ∧ BillsOnce Preimage.numbered state 7 ∧ Slashed state 7 := by
  refine ⟨Preimage.numbered_injective, ?_⟩
  rw [run_shownTwice]
  have single : ∀ epoch, Posted (shownTwice (Preimage.numbered (.text oneRoute.routeId))
      (receiptLeaf Preimage.numbered oneRoute)) 7 epoch → epoch = 1 := by
    intro epoch posted
    by_contra other
    simp [Posted, shownTwice, other] at posted
  refine ⟨rfl, billsOnce_of_single Preimage.numbered_injective single rfl, MIN_BOND, 2, 0, ?_⟩
  simp [shownTwice]

/-- One receipt shown once leaves the bond alone. -/
theorem billsOnce_never_slashed_shown :
    Always (step Preimage.numbered)
      (fun state => BillsOnce Preimage.numbered state 7 → ¬ Slashed state 7) {}
      (openingMoves Preimage.numbered ++ [showReceipt Preimage.numbered]) := by
  apply billsOnce_never_slashed Preimage.numbered_injective _ 7
  simp [openingMoves, showReceipt, Meets, FairTo, recorded, remember, sightings]

end Shown

end Xcp.NodeRegistry
