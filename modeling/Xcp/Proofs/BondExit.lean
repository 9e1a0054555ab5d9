import Xcp.Proofs.NodeTransitions

/-! When a bond may leave. An operator that asks for its bond revokes its node in
the same transaction, a revoked node posts no claim, and the delay before the
bond is paid is longer than the window in which a claim can be challenged. -/

namespace Xcp.NodeRegistry
open Checked Evm Transition

variable (keccak256 : Preimage → Bytes32)

/-- Block times are positive, below `2 ^ 63`, and never go back. -/
structure Timely (txs : List Tx) : Prop where
  positive : ∀ tx ∈ txs, 0 < tx.msg.timestamp
  bounded : ∀ tx ∈ txs, tx.msg.timestamp < 2 ^ 63
  ordered : txs.Pairwise fun earlier later => earlier.msg.timestamp ≤ later.msg.timestamp

def Tx.Posts (tx : Tx) (nodeId : Bytes32) : Prop :=
  ∃ epoch root routeCount totalMinor, tx.call = .postClaim nodeId epoch root routeCount totalMinor

/-- A transaction of the run posted a claim for the node at that time. -/
def PostedAt (past : List Tx) (nodeId : Bytes32) (date : Nat) : Prop :=
  ∃ earlier posting later, past = earlier ++ posting :: later ∧ posting.Posts nodeId ∧
    Succeeds keccak256 (run keccak256 earlier) posting ∧ posting.msg.timestamp = date

/-- An exit has revoked the node, and its date is the whole delay after each of
the node's claims. -/
structure Leaving (past : List Tx) (nodeId : Bytes32) (node : Node) : Prop where
  revoked : node.revokedAt ≠ 0
  delayed : ∀ date, PostedAt keccak256 past nodeId date → date + UNBOND_DELAY ≤ node.unbondAt

def ExitsLate (nodeId : Bytes32) (past : List Tx) (state : State) : Prop :=
  Timely past → (state.nodes nodeId).unbondAt ≠ 0 → Leaving keccak256 past nodeId (state.nodes nodeId)

theorem Timely.before {past later : List Tx} (timely : Timely (past ++ later)) : Timely past := by
  obtain ⟨positive, bounded, ordered⟩ := timely
  refine ⟨?_, ?_, (List.pairwise_append.mp ordered).1⟩
  · exact fun tx member => positive tx (List.mem_append_left _ member)
  · exact fun tx member => bounded tx (List.mem_append_left _ member)

theorem Timely.uint64_last {past : List Tx} {tx : Tx} (timely : Timely (past ++ [tx])) :
    uint64 tx.msg.timestamp = tx.msg.timestamp ∧ tx.msg.timestamp ≠ 0 := by
  have member : tx ∈ past ++ [tx] := List.mem_append_right _ (List.mem_singleton_self tx)
  have bounded := timely.bounded tx member
  have positive := timely.positive tx member
  exact ⟨Nat.mod_eq_of_lt (by omega), by omega⟩

variable {keccak256}

theorem PostedAt.last {past : List Tx} {tx : Tx} {nodeId : Bytes32} {date : Nat}
    (posted : PostedAt keccak256 (past ++ [tx]) nodeId date) :
    PostedAt keccak256 past nodeId date ∨
      tx.Posts nodeId ∧ Succeeds keccak256 (run keccak256 past) tx ∧ tx.msg.timestamp = date := by
  obtain ⟨earlier, posting, later, split, posts, succeeds, dated⟩ := posted
  cases later using List.reverseRecOn with
  | nil =>
    obtain ⟨rfl, same⟩ := List.append_inj' split rfl
    obtain rfl : tx = posting := by simpa using same
    exact .inr ⟨posts, succeeds, dated⟩
  | append_singleton later last =>
    rw [← List.cons_append, ← List.append_assoc] at split
    obtain ⟨rfl, -⟩ := List.append_inj' split rfl
    exact .inl ⟨earlier, posting, later, rfl, posts, succeeds, dated⟩

theorem PostedAt.le_last {past : List Tx} {tx : Tx} {nodeId : Bytes32} {date : Nat} (timely : Timely (past ++ [tx]))
    (posted : PostedAt keccak256 (past ++ [tx]) nodeId date) : date ≤ tx.msg.timestamp := by
  rcases posted.last with ⟨earlier, posting, later, rfl, -, -, rfl⟩ | ⟨-, -, rfl⟩
  · have before := (List.pairwise_append.mp timely.ordered).2.2
    exact before posting (by simp) tx (List.mem_singleton_self tx)
  · exact le_rfl

/-- Only a node that is not revoked posts, and posting writes no node. -/
theorem posts_live {state after : State} {tx : Tx} {nodeId : Bytes32} (posts : tx.Posts nodeId)
    (done : execute keccak256 state tx = .ok after) :
    (state.nodes nodeId).revokedAt = 0 ∧ after.nodes = state.nodes := by
  obtain ⟨msg, call⟩ := tx
  obtain ⟨epoch, root, routeCount, totalMinor, rfl⟩ := posts
  have done : postClaim state msg nodeId epoch root routeCount totalMinor = .ok after := done
  refine ⟨?_, (postClaim_moves done).1⟩
  simp only [postClaim, bind_eq_ok, require_eq_ok, pure_eq_ok] at done
  obtain ⟨_, _, _, _, _, _, _, live, _⟩ := done
  exact live

/-- A node is not leaving, has kept its exit date, or leaves now. -/
theorem NodesMove.exit {msg : Msg} {before after : State} (move : NodesMove msg before after) (nodeId : Bytes32) :
    (after.nodes nodeId).unbondAt = 0 ∨
    (after.nodes nodeId).unbondAt = (before.nodes nodeId).unbondAt ∧
      ((after.nodes nodeId).revokedAt = (before.nodes nodeId).revokedAt ∨
        (after.nodes nodeId).revokedAt = uint64 msg.timestamp) ∨
    (after.nodes nodeId).unbondAt = uint64 msg.timestamp + UNBOND_DELAY ∧
      (after.nodes nodeId).revokedAt = uint64 msg.timestamp := by
  cases move with
  | same kept =>
    rw [kept]
    exact .inr (.inl ⟨rfl, .inl rfl⟩)
  | registered other node written fresh exists_ staying =>
    rw [written]
    by_cases same : nodeId = other
    · subst same
      exact .inl (by rw [Function.update_self]; exact staying)
    · rw [Function.update_of_ne same]
      exact .inr (.inl ⟨rfl, .inl rfl⟩)
  | changed other node written exists_ exit revoked =>
    rw [written]
    by_cases same : nodeId = other
    · subst same
      rw [Function.update_self]
      exact .inr (.inl ⟨exit, revoked⟩)
    · rw [Function.update_of_ne same]
      exact .inr (.inl ⟨rfl, .inl rfl⟩)
  | exits other node written exists_ exit revoked =>
    rw [written]
    by_cases same : nodeId = other
    · subst same
      rw [Function.update_self]
      exact .inr (.inr ⟨exit, revoked⟩)
    · rw [Function.update_of_ne same]
      exact .inr (.inl ⟨rfl, .inl rfl⟩)

theorem execute_exitsLate {past : List Tx} {tx : Tx} {nodeId : Bytes32} {after : State}
    (held : ExitsLate keccak256 nodeId past (run keccak256 past))
    (done : execute keccak256 (run keccak256 past) tx = .ok after) :
    ExitsLate keccak256 nodeId (past ++ [tx]) after := by
  intro timely exiting
  obtain ⟨now, positive⟩ := timely.uint64_last
  obtain ⟨nodes, -⟩ := execute_moves keccak256 done
  rcases nodes.exit nodeId with staying | ⟨kept, revoked⟩ | ⟨exit, revoked⟩
  · exact absurd staying exiting
  · rw [kept] at exiting
    have leaving := held timely.before exiting
    refine ⟨?_, ?_⟩
    · rcases revoked with same | again
      · rw [same]
        exact leaving.revoked
      · rw [again, now]
        exact positive
    · intro date posted
      rw [kept]
      rcases posted.last with before | ⟨posts, -, -⟩
      · exact leaving.delayed date before
      · exact absurd (posts_live posts done).1 leaving.revoked
  · refine ⟨by rw [revoked, now]; exact positive, ?_⟩
    intro date posted
    have earlier := posted.le_last timely
    rw [exit, now]
    omega

theorem step_exitsLate (nodeId : Bytes32) (past : List Tx) (tx : Tx)
    (held : ExitsLate keccak256 nodeId past (run keccak256 past)) :
    ExitsLate keccak256 nodeId (past ++ [tx]) (step keccak256 (run keccak256 past) tx) := by
  unfold step
  cases result : execute keccak256 (run keccak256 past) tx with
  | error error =>
    intro timely exiting
    have leaving := held timely.before exiting
    refine ⟨leaving.revoked, ?_⟩
    intro date posted
    rcases posted.last with before | ⟨-, ⟨after, done⟩, -⟩
    · exact leaving.delayed date before
    · rw [result] at done
      cases done
  | ok after => exact execute_exitsLate held result

theorem run_exitsLate (txs : List Tx) (nodeId : Bytes32) : ExitsLate keccak256 nodeId txs (run keccak256 txs) := by
  have initial : ExitsLate keccak256 nodeId [] {} := fun _ exiting => absurd rfl exiting
  exact run_history initial (step_exitsLate nodeId) txs

theorem withdrawBond_due {state after : State} {tx : Tx} {nodeId : Bytes32} (call : tx.call = .withdrawBond nodeId)
    (done : execute keccak256 state tx = .ok after) :
    (state.nodes nodeId).unbondAt ≠ 0 ∧ (state.nodes nodeId).unbondAt ≤ tx.msg.timestamp := by
  obtain ⟨msg, _⟩ := tx
  obtain rfl := call
  have done : withdrawBond state msg nodeId = .ok after := done
  simp only [withdrawBond, bind_eq_ok, require_eq_ok] at done
  obtain ⟨_, _, _, _, _, _, _, leaving, _, due, _⟩ := done
  exact ⟨leaving, due⟩

variable (keccak256)

/-- Whenever a bond is withdrawn, the challenge window of every claim that the
node ever posted is over. -/
theorem withdrawn_after_windows (txs : List Tx) (withdrawal : Tx) (nodeId : Bytes32)
    (timely : Timely (txs ++ [withdrawal])) (call : withdrawal.call = .withdrawBond nodeId)
    (withdrawn : Succeeds keccak256 (run keccak256 txs) withdrawal) :
    ∀ date, PostedAt keccak256 txs nodeId date → date + CHALLENGE_WINDOW ≤ withdrawal.msg.timestamp := by
  intro date posted
  obtain ⟨after, done⟩ := withdrawn
  obtain ⟨exiting, due⟩ := withdrawBond_due call done
  have delayed := (run_exitsLate txs nodeId timely.before exiting).delayed date posted
  have longer : CHALLENGE_WINDOW ≤ UNBOND_DELAY := by decide
  omega

def register : Tx := ⟨⟨1, MIN_BOND, 1000, true, Nat.one_ne_zero⟩, .registerNode 7 70⟩

def posting : Tx := ⟨⟨1, 0, 2000, true, Nat.one_ne_zero⟩, .postClaim 7 1 5 1 5⟩

def exitRequest : Tx := ⟨⟨1, 0, 3000, true, Nat.one_ne_zero⟩, .requestUnbond 7⟩

def exitPayment : Tx := ⟨⟨1, 0, 3000 + UNBOND_DELAY, true, Nat.one_ne_zero⟩, .withdrawBond 7⟩

/-- A node that posts one claim and leaves. -/
theorem withdrawn_after_windows_once :
    let txs := [register, posting, exitRequest]
    Succeeds Preimage.numbered (run Preimage.numbered txs) exitPayment ∧
    PostedAt Preimage.numbered txs 7 2000 ∧ 2000 + CHALLENGE_WINDOW ≤ exitPayment.msg.timestamp := by
  intro txs
  have goes : Succeeds Preimage.numbered (run Preimage.numbered txs) exitPayment :=
    ok_of_isSome (by decide +kernel)
  have posted : PostedAt Preimage.numbered txs 7 2000 :=
    ⟨[register], posting, [exitRequest], rfl, ⟨1, 5, 1, 5, rfl⟩, ok_of_isSome (by decide +kernel), rfl⟩
  have timely : Timely (txs ++ [exitPayment]) := ⟨by decide +kernel, by decide +kernel, by decide +kernel⟩
  exact ⟨goes, posted, withdrawn_after_windows Preimage.numbered txs exitPayment 7 timely rfl goes 2000 posted⟩

end Xcp.NodeRegistry

/-! What becomes of a challenged claim. The flag that a challenge leaves on it is
read by no function, so the claim settles like any other. -/

namespace Xcp.NodeRegistry
open Checked Evm Transition

variable (keccak256 : Preimage → Bytes32)

/-- Claims belong to nodes that exist, and only posted claims are challenged. -/
structure Filed (state : State) : Prop where
  exists_ : ∀ nodeId epoch, (state.claims nodeId epoch).postedAt ≠ 0 → (state.nodes nodeId).exists_ = true
  posted : ∀ nodeId epoch, (state.claims nodeId epoch).challenged = true → (state.claims nodeId epoch).postedAt ≠ 0

/-- A posted claim that is not settled yet. -/
structure Pending (nodeId : Bytes32) (epoch date : Nat) (state : State) : Prop where
  exists_ : (state.nodes nodeId).exists_ = true
  dated : (state.claims nodeId epoch).postedAt = date
  posted : date ≠ 0
  open_ : (state.claims nodeId epoch).settled = false

/-- A posted claim that is settled. -/
structure Closed (nodeId : Bytes32) (epoch : Nat) (state : State) : Prop where
  posted : (state.claims nodeId epoch).postedAt ≠ 0
  settled : (state.claims nodeId epoch).settled = true

/-- A settlement, sent without ether, after the window of a claim of that date. -/
structure Overdue (nodeId : Bytes32) (epoch date : Nat) (tx : Tx) : Prop where
  call : tx.call = .settleClaim nodeId epoch
  free : tx.msg.value = 0
  counted : date + CHALLENGE_WINDOW < 2 ^ 64
  due : date + CHALLENGE_WINDOW ≤ tx.msg.timestamp

/-- `settleClaim` succeeds on the claim nowhere in the run. -/
def NeverSettles (nodeId : Bytes32) (epoch : Nat) (state : State) (txs : List Tx) : Prop :=
  Meets (step keccak256)
    (fun before tx => tx.call = .settleClaim nodeId epoch → ¬ Succeeds keccak256 before tx) state txs

theorem ClaimsMove.filed {tx : Tx} {before after : State} (claims : ClaimsMove tx before after)
    (nodes : NodesMove tx.msg before after) (filed : Filed before) : Filed after := by
  -- what is written is looked up by the two keys, all else is as before
  have written : ∀ nodeId epoch claim, after.claims = (before.setClaim nodeId epoch claim).claims →
      (claim.postedAt ≠ 0 → (before.nodes nodeId).exists_ = true) →
      (claim.challenged = true → claim.postedAt ≠ 0) → Filed after := by
    intro nodeId epoch claim update exists_ posted
    refine ⟨?_, ?_⟩
    all_goals
      intro other time
      rw [update]
      by_cases same : other = nodeId ∧ time = epoch
    · obtain ⟨rfl, rfl⟩ := same
      rw [State.setClaim_self]
      exact fun dated => nodes.exists_ (exists_ dated)
    · rw [State.setClaim_other _ _ same]
      exact fun dated => nodes.exists_ (filed.exists_ other time dated)
    · obtain ⟨rfl, rfl⟩ := same
      rw [State.setClaim_self]
      exact posted
    · rw [State.setClaim_other _ _ same]
      exact filed.posted other time
  cases claims with
  | same kept =>
    refine ⟨?_, ?_⟩
    · intro nodeId epoch dated
      rw [kept] at dated
      exact nodes.exists_ (filed.exists_ nodeId epoch dated)
    · rw [kept]
      exact filed.posted
  | posted nodeId epoch claim live exists_ fresh date unchallenged update =>
    apply written nodeId epoch claim update (fun _ => exists_)
    simp [unchallenged]
  | settled nodeId epoch call update =>
    exact written nodeId epoch _ update (filed.exists_ nodeId epoch) (filed.posted nodeId epoch)
  | challenged nodeId epoch posted open_ update =>
    exact written nodeId epoch _ update (filed.exists_ nodeId epoch) (fun _ => posted)

theorem step_filed (state : State) (tx : Tx) (filed : Filed state) : Filed (step keccak256 state tx) := by
  unfold step
  rcases settle_cases state (execute keccak256 state tx) with ⟨after, done, same⟩ | same
  · rw [same]
    obtain ⟨nodes, claims⟩ := execute_moves keccak256 done
    exact claims.filed nodes filed
  · rw [same]
    exact filed

theorem run_filed (txs : List Tx) : Filed (run keccak256 txs) := by
  have initial : Filed {} := ⟨fun _ _ dated => absurd rfl dated, fun _ _ challenged => by cases challenged⟩
  exact run_invariant (step_filed keccak256) initial txs

/-! ### One settlement -/

variable {keccak256}

/-- On a pending claim, exactly the overdue settlements succeed. -/
theorem Pending.settles_iff {nodeId : Bytes32} {epoch date : Nat} {state : State} {tx : Tx}
    (pending : Pending nodeId epoch date state) (call : tx.call = .settleClaim nodeId epoch) :
    Succeeds keccak256 state tx ↔ Overdue nodeId epoch date tx := by
  obtain ⟨msg, _⟩ := tx
  obtain rfl := call
  have there : (state.nodes nodeId).exists_ = true ∧ (state.claims nodeId epoch).postedAt ≠ 0 :=
    ⟨pending.exists_, by rw [pending.dated]; exact pending.posted⟩
  refine ⟨?_, ?_⟩
  · intro ⟨after, done⟩
    have done : settleClaim state msg nodeId epoch = .ok after := done
    simp only [settleClaim, nonPayable, bind_eq_ok, require_eq_ok, add_eq_ok] at done
    obtain ⟨_, free, _, _, _, _, closes, ⟨counted, rfl⟩, _, due, _⟩ := done
    rw [pending.dated] at counted due
    exact ⟨rfl, free, counted, due⟩
  · intro overdue
    have added : add 64 Revert.overflow (state.claims nodeId epoch).postedAt CHALLENGE_WINDOW =
        .ok (date + CHALLENGE_WINDOW) := by
      rw [pending.dated, add_eq_ok]
      exact ⟨overdue.counted, rfl⟩
    show ∃ after, settleClaim state msg nodeId epoch = .ok after
    simp only [settleClaim, nonPayable, bind_eq_ok, require_eq_ok, pure_eq_ok]
    exact ⟨_, (), overdue.free, (), there, (), pending.open_, _, added, (), overdue.due, rfl⟩

theorem Closed.refuses {nodeId : Bytes32} {epoch : Nat} {state : State} {tx : Tx} (closed : Closed nodeId epoch state)
    (call : tx.call = .settleClaim nodeId epoch) : ¬ Succeeds keccak256 state tx := by
  obtain ⟨msg, _⟩ := tx
  obtain rfl := call
  intro ⟨after, done⟩
  have done : settleClaim state msg nodeId epoch = .ok after := done
  simp only [settleClaim, bind_eq_ok, require_eq_ok] at done
  obtain ⟨_, _, _, _, _, open_, _⟩ := done
  rw [closed.settled] at open_
  cases open_

/-- A posted claim is written by settlements and challenges only: it keeps its
date, and becomes settled by nothing but a settlement. -/
theorem ClaimsMove.posted_kept {tx : Tx} {before after : State} (claims : ClaimsMove tx before after)
    {nodeId : Bytes32} {epoch : Nat} (posted : (before.claims nodeId epoch).postedAt ≠ 0) :
    (after.claims nodeId epoch).postedAt = (before.claims nodeId epoch).postedAt ∧
    ((after.claims nodeId epoch).settled = (before.claims nodeId epoch).settled ∨
      (after.claims nodeId epoch).settled = true ∧ tx.call = .settleClaim nodeId epoch) := by
  cases claims with
  | same kept =>
    rw [kept]
    exact ⟨rfl, .inl rfl⟩
  | posted other time claim live exists_ fresh date unchallenged update =>
    rw [update]
    by_cases same : nodeId = other ∧ epoch = time
    · obtain ⟨rfl, rfl⟩ := same
      exact absurd fresh posted
    · rw [State.setClaim_other _ _ same]
      exact ⟨rfl, .inl rfl⟩
  | settled other time call update =>
    rw [update]
    by_cases same : nodeId = other ∧ epoch = time
    · obtain ⟨rfl, rfl⟩ := same
      rw [State.setClaim_self]
      exact ⟨rfl, .inr ⟨rfl, call⟩⟩
    · rw [State.setClaim_other _ _ same]
      exact ⟨rfl, .inl rfl⟩
  | challenged other time _ open_ update =>
    rw [update]
    by_cases same : nodeId = other ∧ epoch = time
    · obtain ⟨rfl, rfl⟩ := same
      rw [State.setClaim_self]
      exact ⟨rfl, .inl rfl⟩
    · rw [State.setClaim_other _ _ same]
      exact ⟨rfl, .inl rfl⟩

theorem Pending.step {nodeId : Bytes32} {epoch date : Nat} {state : State} {tx : Tx}
    (pending : Pending nodeId epoch date state) (early : ¬ Overdue nodeId epoch date tx) :
    Pending nodeId epoch date (step keccak256 state tx) := by
  unfold NodeRegistry.step
  rcases settle_cases state (execute keccak256 state tx) with ⟨after, done, same⟩ | same
  · rw [same]
    obtain ⟨nodes, claims⟩ := execute_moves keccak256 done
    have posted : (state.claims nodeId epoch).postedAt ≠ 0 := by
      rw [pending.dated]
      exact pending.posted
    obtain ⟨date, settled⟩ := claims.posted_kept posted
    refine ⟨nodes.exists_ pending.exists_, date.trans pending.dated, pending.posted, ?_⟩
    rcases settled with kept | ⟨_, call⟩
    · rw [kept, pending.open_]
    · exact absurd ((pending.settles_iff call).mp ⟨after, done⟩) early
  · rw [same]
    exact pending

theorem Closed.step {nodeId : Bytes32} {epoch : Nat} {state : State} (closed : Closed nodeId epoch state) (tx : Tx) :
    Closed nodeId epoch (step keccak256 state tx) := by
  unfold NodeRegistry.step
  rcases settle_cases state (execute keccak256 state tx) with ⟨after, done, same⟩ | same
  · rw [same]
    obtain ⟨-, claims⟩ := execute_moves keccak256 done
    obtain ⟨date, settled⟩ := claims.posted_kept closed.posted
    refine ⟨by rw [date]; exact closed.posted, ?_⟩
    rcases settled with kept | ⟨now, _⟩
    · rw [kept, closed.settled]
    · exact now
  · rw [same]
    exact closed

/-! ### Runs after a challenge -/

theorem Pending.neverSettles_iff {nodeId : Bytes32} {epoch date : Nat} {state : State} {txs : List Tx}
    (pending : Pending nodeId epoch date state) :
    NeverSettles keccak256 nodeId epoch state txs ↔ ∀ tx ∈ txs, ¬ Overdue nodeId epoch date tx := by
  induction txs generalizing state with
  | nil => simp [NeverSettles, Meets]
  | cons tx rest ih =>
    rw [List.forall_mem_cons]
    refine ⟨?_, ?_⟩
    · intro refuses
      obtain ⟨refused, later⟩ := refuses
      have early : ¬ Overdue nodeId epoch date tx := fun overdue =>
        refused overdue.call ((pending.settles_iff overdue.call).mpr overdue)
      exact ⟨early, (ih (pending.step early)).mp later⟩
    · intro timely
      obtain ⟨early, later⟩ := timely
      refine ⟨?_, (ih (pending.step early)).mpr later⟩
      intro call succeeds
      exact early ((pending.settles_iff call).mp succeeds)

theorem Closed.neverSettles {nodeId : Bytes32} {epoch : Nat} {state : State} (closed : Closed nodeId epoch state)
    (txs : List Tx) : NeverSettles keccak256 nodeId epoch state txs :=
  Meets.of_invariant (fun _ tx closed => ⟨closed.step tx, closed.refuses⟩) closed txs

variable (keccak256)

/-- A challenged claim that is not settled yet is settled never exactly if nobody
sends a settlement of it after its window. -/
theorem challenged_neverSettles_iff (txs later : List Tx) (nodeId : Bytes32) (epoch : Nat)
    (challenged : ((run keccak256 txs).claims nodeId epoch).challenged = true) :
    NeverSettles keccak256 nodeId epoch (run keccak256 txs) later ↔
      ((run keccak256 txs).claims nodeId epoch).settled = true ∨
        ∀ tx ∈ later, ¬ Overdue nodeId epoch ((run keccak256 txs).claims nodeId epoch).postedAt tx := by
  have filed := run_filed keccak256 txs
  have posted := filed.posted nodeId epoch challenged
  cases settled : ((run keccak256 txs).claims nodeId epoch).settled with
  | true =>
    have closed : Closed nodeId epoch (run keccak256 txs) := ⟨posted, settled⟩
    simp [closed.neverSettles later]
  | false =>
    have pending : Pending nodeId epoch ((run keccak256 txs).claims nodeId epoch).postedAt (run keccak256 txs) :=
      ⟨filed.exists_ nodeId epoch posted, rfl, posted, settled⟩
    simp [pending.neverSettles_iff]

/-- Node 7 posts a claim, and two showings of one leaf challenge it. -/
def challengedRun : List Tx :=
  [⟨⟨1, MIN_BOND, 1000, true, Nat.one_ne_zero⟩, .registerNode 7 70⟩,
   ⟨⟨1, 0, 2000, true, Nat.one_ne_zero⟩, .postClaim 7 1 5 1 5⟩,
   ⟨⟨2, 0, 3000, true, Evm.two_ne_zero⟩, .challengeDoubleClaim 7 1 9 5 []⟩,
   ⟨⟨2, 0, 3000, true, Evm.two_ne_zero⟩, .challengeDoubleClaim 7 1 9 5 []⟩]

def settlement (date : Nat) : Tx := ⟨⟨3, 0, date, true, by decide⟩, .settleClaim 7 1⟩

/-- The claim is challenged, its node is slashed, and it settles all the same. -/
theorem challengedRun_settles :
    ((run Preimage.numbered challengedRun).claims 7 1).challenged = true ∧
    ¬ NeverSettles Preimage.numbered 7 1 (run Preimage.numbered challengedRun) [settlement (2000 + CHALLENGE_WINDOW)] := by
  refine ⟨by decide +kernel, ?_⟩
  intro ⟨refused, _⟩
  exact refused rfl (ok_of_isSome (by decide +kernel))

/-- Before the window is over no settlement goes through. -/
theorem challenged_neverSettles_iff_early :
    NeverSettles Preimage.numbered 7 1 (run Preimage.numbered challengedRun) [settlement 4000] := by
  apply (challenged_neverSettles_iff Preimage.numbered challengedRun _ 7 1 (by decide +kernel)).mpr
  right
  intro tx member overdue
  obtain rfl := List.mem_singleton.mp member
  have late : ¬ ((run Preimage.numbered challengedRun).claims 7 1).postedAt + CHALLENGE_WINDOW ≤ 4000 := by
    decide +kernel
  exact late overdue.due

end Xcp.NodeRegistry
