import Xcp.Contracts.SessionRegistry
import Xcp.Library.Transition

/-! Who may change a session binding. A session id keeps the power over its
footprint for as long as the footprint stays with the agent it was bound for. -/

namespace Xcp.SessionRegistry
open Checked Evm Transition

/-- The agent's controller, or a guardian the controller added. -/
def Authorized (state : State) (agentId : Nat) (caller : Address) : Prop :=
  caller = state.agentController agentId ∨ state.isGuardian agentId caller = true

instance (state : State) (agentId : Nat) (caller : Address) : Decidable (Authorized state agentId caller) :=
  inferInstanceAs (Decidable (_ ∨ _))

structure MayBind (state : State) (msg : Msg) (agentId : Nat) (certFootprint : Bytes32) (notAfter : Nat) : Prop where
  free : msg.value = 0
  footprint : certFootprint ≠ 0
  unexpired : msg.timestamp < notAfter
  ttl : notAfter ≤ msg.timestamp + MAX_TTL
  caller : state.agentController agentId ≠ 0 → Authorized state agentId msg.sender

/-! ### What each function writes -/

structure Bound (state : State) (msg : Msg) (agentId : Nat) (certFootprint : Bytes32) (notAfter : Nat)
    (after : State) : Prop where
  may : MayBind state msg agentId certFootprint notAfter
  binding : ∃ mandateRoot railsBitmap, after.byFootprint = Function.update state.byFootprint certFootprint
    { agentId, certFootprint, notBefore := uint64 msg.timestamp, notAfter, mandateRoot, railsBitmap, revoked := false }
  session : ∃ sessionId, after.footprintOf = Function.update state.footprintOf sessionId certFootprint ∧
    after.controllerOf = Function.update state.controllerOf sessionId msg.sender
  agent : after.agentController = Function.update state.agentController agentId
    (if state.agentController agentId = 0 then msg.sender else state.agentController agentId)
  guardians : after.isGuardian = state.isGuardian

/-- Who may edit is decided by the session id, what is edited by the footprint. -/
structure Edited (state : State) (msg : Msg) (sessionId : Bytes32) (edit : SessionBinding → SessionBinding)
    (after : State) : Prop where
  known : state.footprintOf sessionId ≠ 0
  caller : msg.sender = state.controllerOf sessionId ∨
    state.isGuardian (state.byFootprint (state.footprintOf sessionId)).agentId msg.sender = true
  binding : after.byFootprint = Function.update state.byFootprint (state.footprintOf sessionId)
    (edit (state.byFootprint (state.footprintOf sessionId)))
  footprints : after.footprintOf = state.footprintOf
  controllers : after.controllerOf = state.controllerOf
  agents : after.agentController = state.agentController
  guardians : after.isGuardian = state.isGuardian

structure Granted (state after : State) : Prop where
  bindings : after.byFootprint = state.byFootprint
  footprints : after.footprintOf = state.footprintOf
  controllers : after.controllerOf = state.controllerOf
  agents : after.agentController = state.agentController
  guardians : ∀ agentId caller, state.isGuardian agentId caller = true → after.isGuardian agentId caller = true

section Functions
variable {keccak256 : Preimage → Bytes32} {state after : State} {msg : Msg}

theorem bindSession_ok {agentId notAfter : Nat} {certFootprint mandateRoot railsBitmap : Bytes32}
    (done : bindSession keccak256 state msg agentId certFootprint notAfter mandateRoot railsBitmap = .ok after) :
    Bound state msg agentId certFootprint notAfter after := by
  simp only [bindSession, nonPayable, bind_eq_ok, require_eq_ok, pure_eq_ok] at done
  obtain ⟨_, free, _, footprint, _, unexpired, _, ttl, _, caller, rfl⟩ := done
  have may : MayBind state msg agentId certFootprint notAfter := ⟨free, footprint, unexpired, ttl, caller⟩
  exact ⟨may, ⟨_, _, rfl⟩, ⟨_, rfl, rfl⟩, rfl, rfl⟩

theorem bindSession_of_may {agentId notAfter : Nat} {certFootprint : Bytes32} (mandateRoot railsBitmap : Bytes32)
    (may : MayBind state msg agentId certFootprint notAfter) :
    ∃ after, bindSession keccak256 state msg agentId certFootprint notAfter mandateRoot railsBitmap = .ok after := by
  have caller := may.caller
  unfold Authorized at caller
  simp [bindSession, nonPayable, ok_bind, require_true _ may.free, require_true _ may.footprint,
    require_true _ may.unexpired, require_true _ may.ttl, require_true _ caller, pure, Except.pure]

theorem authorize_ok {sessionId footprint : Bytes32} (done : authorize state msg sessionId = .ok footprint) :
    footprint = state.footprintOf sessionId ∧ state.footprintOf sessionId ≠ 0 ∧
    (msg.sender = state.controllerOf sessionId ∨
      state.isGuardian (state.byFootprint (state.footprintOf sessionId)).agentId msg.sender = true) := by
  simp only [authorize, nonPayable, bind_eq_ok, require_eq_ok, pure_eq_ok] at done
  obtain ⟨_, _, _, known, _, caller, rfl⟩ := done
  exact ⟨rfl, known, caller⟩

theorem revokeSession_ok {sessionId : Bytes32} (done : revokeSession state msg sessionId = .ok after) :
    Edited state msg sessionId (fun binding => { binding with revoked := true }) after := by
  simp only [revokeSession, bind_eq_ok, pure_eq_ok] at done
  obtain ⟨footprint, authorized, rfl⟩ := done
  obtain ⟨rfl, known, caller⟩ := authorize_ok authorized
  exact ⟨known, caller, rfl, rfl, rfl, rfl, rfl⟩

theorem updateMandateRoot_ok {sessionId newRoot : Bytes32}
    (done : updateMandateRoot state msg sessionId newRoot = .ok after) :
    Edited state msg sessionId (fun binding => { binding with mandateRoot := newRoot }) after := by
  simp only [updateMandateRoot, bind_eq_ok, pure_eq_ok] at done
  obtain ⟨footprint, authorized, rfl⟩ := done
  obtain ⟨rfl, known, caller⟩ := authorize_ok authorized
  exact ⟨known, caller, rfl, rfl, rfl, rfl, rfl⟩

theorem addGuardian_ok {agentId : Nat} {guardian : Address}
    (done : addGuardian state msg agentId guardian = .ok after) : Granted state after := by
  simp only [addGuardian, nonPayable, bind_eq_ok, require_eq_ok, pure_eq_ok] at done
  obtain ⟨_, _, _, _, rfl⟩ := done
  refine ⟨rfl, rfl, rfl, rfl, ?_⟩
  intro other caller holds
  by_cases same : other = agentId
  · subst same
    by_cases new : caller = guardian
    · simp [new]
    · simpa [new] using holds
  · simpa [same] using holds

end Functions

variable (keccak256 : Preimage → Bytes32)

/-- What a transaction that did not revert was. -/
inductive Executed (state : State) : Tx → State → Prop where
  | bind {msg agentId certFootprint notAfter mandateRoot railsBitmap after}
      (bound : Bound state msg agentId certFootprint notAfter after) :
      Executed state ⟨msg, .bindSession agentId certFootprint notAfter mandateRoot railsBitmap⟩ after
  | revoke {msg sessionId after}
      (edited : Edited state msg sessionId (fun binding => { binding with revoked := true }) after) :
      Executed state ⟨msg, .revokeSession sessionId⟩ after
  | update {msg sessionId newRoot after}
      (edited : Edited state msg sessionId (fun binding => { binding with mandateRoot := newRoot }) after) :
      Executed state ⟨msg, .updateMandateRoot sessionId newRoot⟩ after
  | grant {msg agentId guardian after} (granted : Granted state after) :
      Executed state ⟨msg, .addGuardian agentId guardian⟩ after

theorem execute_executed {state after : State} {tx : Tx} (done : execute keccak256 state tx = .ok after) :
    Executed state tx after := by
  obtain ⟨msg, call⟩ := tx
  cases call with
  | bindSession => exact .bind (bindSession_ok done)
  | revokeSession => exact .revoke (revokeSession_ok done)
  | updateMandateRoot => exact .update (updateMandateRoot_ok done)
  | addGuardian => exact .grant (addGuardian_ok done)

theorem step_executed (state : State) (tx : Tx) :
    Executed state tx (step keccak256 state tx) ∨ step keccak256 state tx = state := by
  unfold step
  rcases settle_cases state (execute keccak256 state tx) with ⟨after, done, same⟩ | same
  · rw [same]
    exact .inl (execute_executed keccak256 done)
  · exact .inr same

/-! ### Ownership -/

def BoundFor (state : State) (footprint : Bytes32) (agentId : Nat) : Prop :=
  (state.byFootprint footprint).certFootprint ≠ 0 ∧ (state.byFootprint footprint).agentId = agentId

instance (state : State) (footprint : Bytes32) (agentId : Nat) : Decidable (BoundFor state footprint agentId) :=
  inferInstanceAs (Decidable (_ ∧ _))

/-- A bind that passes its checks names no footprint of a different agent. -/
def NoTakeover (state : State) (tx : Tx) : Prop :=
  match tx.call with
  | .bindSession agentId footprint notAfter _ _ =>
    MayBind state tx.msg agentId footprint notAfter → ∀ owner, BoundFor state footprint owner → owner = agentId
  | _ => True

/-- The agent of a bound footprint has a controller, and every session id of a
footprint is in the hands of someone that agent has authorized. -/
structure Lawful (state : State) : Prop where
  controlled : ∀ footprint agentId, BoundFor state footprint agentId → state.agentController agentId ≠ 0
  sessions : ∀ sessionId, state.footprintOf sessionId ≠ 0 →
    ∃ agentId, BoundFor state (state.footprintOf sessionId) agentId ∧
      Authorized state agentId (state.controllerOf sessionId)

/-- Controllers are never replaced and guardians never removed. -/
structure Grows (state after : State) : Prop where
  controllers : ∀ agentId, state.agentController agentId ≠ 0 →
    after.agentController agentId = state.agentController agentId
  guardians : ∀ agentId caller, state.isGuardian agentId caller = true → after.isGuardian agentId caller = true

theorem Grows.authorized {state after : State} (grows : Grows state after) {agentId : Nat} {caller : Address}
    (controlled : state.agentController agentId ≠ 0) (authorized : Authorized state agentId caller) :
    Authorized after agentId caller := by
  rcases authorized with controller | guardian
  · left
    rw [grows.controllers agentId controlled]
    exact controller
  · right
    exact grows.guardians agentId caller guardian

theorem Executed.grows {state after : State} {tx : Tx} (executed : Executed state tx after) : Grows state after := by
  cases executed with
  | bind bound =>
    refine ⟨?_, fun _ _ guardian => by rwa [bound.guardians]⟩
    intro agentId controlled
    rw [bound.agent, Function.update_apply]
    split
    next same =>
      subst same
      exact if_neg controlled
    next => rfl
  | revoke edited => exact ⟨fun _ _ => by rw [edited.agents], fun _ _ guardian => by rwa [edited.guardians]⟩
  | update edited => exact ⟨fun _ _ => by rw [edited.agents], fun _ _ guardian => by rwa [edited.guardians]⟩
  | grant granted => exact ⟨fun _ _ => by rw [granted.agents], granted.guardians⟩

theorem Edited.boundFor {state after : State} {msg : Msg} {sessionId : Bytes32} {edit : SessionBinding → SessionBinding}
    (edited : Edited state msg sessionId edit after)
    (keeps : ∀ binding, (edit binding).certFootprint = binding.certFootprint ∧ (edit binding).agentId = binding.agentId)
    {footprint : Bytes32} {agentId : Nat} : BoundFor after footprint agentId ↔ BoundFor state footprint agentId := by
  unfold BoundFor
  rw [edited.binding]
  by_cases same : footprint = state.footprintOf sessionId
  · rw [same, Function.update_self, (keeps _).1, (keeps _).2]
  · rw [Function.update_of_ne same]

theorem Bound.boundFor_of_ne {state after : State} {msg : Msg} {agentId notAfter : Nat} {certFootprint : Bytes32}
    (bound : Bound state msg agentId certFootprint notAfter after) {footprint : Bytes32} {owner : Nat}
    (other : footprint ≠ certFootprint) : BoundFor after footprint owner ↔ BoundFor state footprint owner := by
  obtain ⟨_, _, bindings⟩ := bound.binding
  unfold BoundFor
  rw [bindings, Function.update_of_ne other]

theorem Bound.boundFor {state after : State} {msg : Msg} {agentId notAfter : Nat} {certFootprint : Bytes32}
    (bound : Bound state msg agentId certFootprint notAfter after) : BoundFor after certFootprint agentId := by
  obtain ⟨_, _, bindings⟩ := bound.binding
  unfold BoundFor
  rw [bindings, Function.update_self]
  exact ⟨bound.may.footprint, rfl⟩

theorem Executed.boundFor {state after : State} {tx : Tx} (executed : Executed state tx after)
    (allowed : NoTakeover state tx) {footprint : Bytes32} {owner : Nat} (owned : BoundFor state footprint owner) :
    BoundFor after footprint owner := by
  cases executed with
  | @bind msg agentId certFootprint notAfter _ _ _ bound =>
    by_cases same : footprint = certFootprint
    · subst same
      obtain rfl := allowed bound.may owner owned
      exact bound.boundFor
    · exact (bound.boundFor_of_ne same).mpr owned
  | revoke edited => exact (edited.boundFor (fun _ => ⟨rfl, rfl⟩)).mpr owned
  | update edited => exact (edited.boundFor (fun _ => ⟨rfl, rfl⟩)).mpr owned
  | grant granted =>
    unfold BoundFor
    rw [granted.bindings]
    exact owned

theorem Edited.lawful {state after : State} {msg : Msg} {sessionId : Bytes32} {edit : SessionBinding → SessionBinding}
    (edited : Edited state msg sessionId edit after)
    (keeps : ∀ binding, (edit binding).certFootprint = binding.certFootprint ∧ (edit binding).agentId = binding.agentId)
    (lawful : Lawful state) : Lawful after := by
  refine ⟨?_, ?_⟩
  · intro footprint agentId owned
    rw [edited.agents]
    exact lawful.controlled footprint agentId ((edited.boundFor keeps).mp owned)
  · intro session known
    rw [edited.footprints] at known ⊢
    obtain ⟨agentId, owned, authorized⟩ := lawful.sessions session known
    refine ⟨agentId, (edited.boundFor keeps).mpr owned, ?_⟩
    unfold Authorized
    rw [edited.controllers, edited.agents, edited.guardians]
    exact authorized

theorem Bound.authorized {state after : State} {msg : Msg} {agentId notAfter : Nat} {certFootprint : Bytes32}
    (bound : Bound state msg agentId certFootprint notAfter after) : Authorized after agentId msg.sender := by
  unfold Authorized
  rw [bound.agent, bound.guardians, Function.update_self]
  split
  next => exact .inl rfl
  next taken => exact bound.may.caller taken

theorem Bound.lawful {state after : State} {msg : Msg} {agentId notAfter : Nat} {certFootprint : Bytes32}
    (bound : Bound state msg agentId certFootprint notAfter after) (grows : Grows state after)
    (stays : ∀ footprint owner, BoundFor state footprint owner → BoundFor after footprint owner)
    (lawful : Lawful state) : Lawful after := by
  refine ⟨?_, ?_⟩
  · intro footprint owner owned
    by_cases same : footprint = certFootprint
    · subst same
      have agent : owner = agentId := owned.2.symm.trans bound.boundFor.2
      rw [agent, bound.agent, Function.update_self]
      split
      next => exact msg.nonzero
      next taken => exact taken
    · have before := lawful.controlled footprint owner ((bound.boundFor_of_ne same).mp owned)
      rw [grows.controllers owner before]
      exact before
  · obtain ⟨sessionId, footprints, controllers⟩ := bound.session
    intro session known
    rw [footprints] at known ⊢
    rw [controllers]
    by_cases same : session = sessionId
    · subst same
      rw [Function.update_self, Function.update_self]
      exact ⟨agentId, bound.boundFor, bound.authorized⟩
    · rw [Function.update_of_ne same] at known ⊢
      rw [Function.update_of_ne same]
      obtain ⟨owner, owned, authorized⟩ := lawful.sessions session known
      exact ⟨owner, stays _ _ owned, grows.authorized (lawful.controlled _ _ owned) authorized⟩

theorem Executed.lawful {state after : State} {tx : Tx} (executed : Executed state tx after)
    (allowed : NoTakeover state tx) (lawful : Lawful state) : Lawful after := by
  have grows := executed.grows
  have stays : ∀ footprint owner, BoundFor state footprint owner → BoundFor after footprint owner :=
    fun _ _ => executed.boundFor allowed
  cases executed with
  | bind bound => exact bound.lawful grows stays lawful
  | revoke edited => exact edited.lawful (fun _ => ⟨rfl, rfl⟩) lawful
  | update edited => exact edited.lawful (fun _ => ⟨rfl, rfl⟩) lawful
  | grant granted =>
    refine ⟨?_, ?_⟩
    · intro footprint agentId owned
      unfold BoundFor at owned
      rw [granted.bindings] at owned
      rw [granted.agents]
      exact lawful.controlled footprint agentId owned
    · intro session known
      rw [granted.footprints] at known ⊢
      rw [granted.controllers]
      obtain ⟨agentId, owned, authorized⟩ := lawful.sessions session known
      exact ⟨agentId, stays _ _ owned, grows.authorized (lawful.controlled _ _ owned) authorized⟩

theorem Executed.changed {state after : State} {tx : Tx} (executed : Executed state tx after)
    (allowed : NoTakeover state tx) (lawful : Lawful state) {footprint : Bytes32} {owner : Nat}
    (owned : BoundFor state footprint owner) (changed : after.byFootprint footprint ≠ state.byFootprint footprint) :
    Authorized state owner tx.msg.sender := by
  have edit : ∀ {msg sessionId edit}, Edited state msg sessionId edit after → Authorized state owner msg.sender := by
    intro msg sessionId edit edited
    have same : footprint = state.footprintOf sessionId := by
      by_contra other
      rw [edited.binding, Function.update_of_ne other] at changed
      exact changed rfl
    subst same
    rcases edited.caller with binder | guardian
    · obtain ⟨agentId, bound, authorized⟩ := lawful.sessions sessionId edited.known
      have agent : agentId = owner := bound.2.symm.trans owned.2
      rw [binder, ← agent]
      exact authorized
    · rw [owned.2] at guardian
      exact .inr guardian
  cases executed with
  | @bind msg agentId certFootprint _ _ _ _ bound =>
    have same : footprint = certFootprint := by
      by_contra other
      obtain ⟨_, _, bindings⟩ := bound.binding
      rw [bindings, Function.update_of_ne other] at changed
      exact changed rfl
    subst same
    obtain rfl := allowed bound.may owner owned
    exact bound.may.caller (lawful.controlled _ _ owned)
  | revoke edited => exact edit edited
  | update edited => exact edit edited
  | grant granted =>
    rw [granted.bindings] at changed
    exact absurd rfl changed

/-! ### Whole runs -/

/-- Once a footprint is bound for an agent, every later change to its binding
is made by that agent's controller or one of its guardians. -/
def OwnerChangesOnly (txs : List Tx) : Prop :=
  ∀ first middle tx rest, txs = first ++ (middle ++ tx :: rest) →
    ∀ footprint owner, BoundFor (run keccak256 first) footprint owner →
      (step keccak256 (run keccak256 (first ++ middle)) tx).byFootprint footprint ≠
        (run keccak256 (first ++ middle)).byFootprint footprint →
      Authorized (run keccak256 (first ++ middle)) owner tx.msg.sender

variable {keccak256}

theorem lawful_step {state : State} {tx : Tx} (lawful : Lawful state) (allowed : NoTakeover state tx) :
    Lawful (step keccak256 state tx) := by
  rcases step_executed keccak256 state tx with executed | same
  · exact executed.lawful allowed lawful
  · rwa [same]

theorem boundFor_step {footprint : Bytes32} {owner : Nat} {state : State} {tx : Tx}
    (owned : BoundFor state footprint owner) (allowed : NoTakeover state tx) :
    BoundFor (step keccak256 state tx) footprint owner := by
  rcases step_executed keccak256 state tx with executed | same
  · exact executed.boundFor allowed owned
  · rwa [same]

/-- In a run without takeovers only its agent changes a footprint's binding. -/
theorem ownerChangesOnly_of_noTakeover {txs : List Tx} (allowed : Meets (step keccak256) NoTakeover {} txs) :
    OwnerChangesOnly keccak256 txs := by
  rintro first middle tx rest rfl footprint owner owned changed
  obtain ⟨early, late⟩ := Meets.append.mp allowed
  obtain ⟨between, now, _⟩ := Meets.append.mp late
  have start : Lawful {} := ⟨fun _ _ owned => absurd rfl owned.1, fun _ known => absurd rfl known⟩
  have lawful : Lawful (run keccak256 first) := early.invariant (fun _ _ => lawful_step) start
  have lawful' := between.invariant (fun _ _ => lawful_step) lawful
  have keeps : ∀ state tx, BoundFor state footprint owner → NoTakeover state tx →
      BoundFor (step keccak256 state tx) footprint owner := fun _ _ => boundFor_step
  have owned' := between.invariant keeps owned
  rw [run, run_append] at changed ⊢
  rcases step_executed keccak256 (Transition.run (step keccak256) (run keccak256 first) middle) tx with executed | same
  · exact executed.changed now lawful' owned' changed
  · exact absurd (congrArg (State.byFootprint · footprint) same) changed

def aliceBinds : Tx := ⟨⟨1, 0, 1000, true, Nat.one_ne_zero⟩, .bindSession 1 5 2000 10 1⟩

def malloryBinds : Tx := ⟨⟨2, 0, 1500, true, Evm.two_ne_zero⟩, .bindSession 2 5 3000 20 1⟩

def aliceUpdates : Tx :=
  ⟨⟨1, 0, 1500, true, Nat.one_ne_zero⟩, .updateMandateRoot (Preimage.numbered (.packed [1, 5, 2000])) 11⟩

theorem ownerChangesOnly_of_noTakeover_alice : OwnerChangesOnly Preimage.numbered [aliceBinds, aliceUpdates] := by
  apply ownerChangesOnly_of_noTakeover
  refine ⟨?_, trivial, trivial⟩
  intro _ owner owned
  exact absurd rfl owned.1

/-- Mallory, whom agent 1 never authorized, takes its footprint for agent 2. -/
theorem mallory_takes_over : ¬ OwnerChangesOnly Preimage.numbered [aliceBinds, malloryBinds] := by
  intro law
  have authorized := law [aliceBinds] [] malloryBinds [] rfl 5 1 (by decide) (by decide)
  revert authorized
  decide

end Xcp.SessionRegistry

/-! The kill switch of the SessionRegistry. A revoked footprint is refused until
it is bound again, and every bind of it that passes its checks puts it back. -/

namespace Xcp.SessionRegistry
open Checked Evm Transition

/-- A bind of the footprint that passes its checks. -/
def Rebinds (footprint : Bytes32) (state : State) (tx : Tx) : Prop :=
  match tx.call with
  | .bindSession agentId certFootprint notAfter _ _ =>
    certFootprint = footprint ∧ MayBind state tx.msg agentId certFootprint notAfter
  | _ => False

def Valid (footprint : Bytes32) (state : State) : Prop :=
  ∃ timestamp, (verifySession state timestamp footprint).valid = true

def Revoked (footprint : Bytes32) (state : State) : Prop := (state.byFootprint footprint).revoked = true

theorem Revoked.not_valid {footprint : Bytes32} {state : State} (revoked : Revoked footprint state) :
    ¬ Valid footprint state := by
  intro ⟨timestamp, valid⟩
  unfold Revoked at revoked
  simp [verifySession, revoked] at valid

theorem Edited.revoked {footprint : Bytes32} {state after : State} {msg : Msg} {sessionId : Bytes32}
    {edit : SessionBinding → SessionBinding} (edited : Edited state msg sessionId edit after)
    (keeps : ∀ binding, binding.revoked = true → (edit binding).revoked = true)
    (revoked : Revoked footprint state) : Revoked footprint after := by
  unfold Revoked at revoked ⊢
  rw [edited.binding, Function.update_apply]
  split
  next same =>
    subst same
    exact keeps _ revoked
  next => exact revoked

theorem Executed.revoked {footprint : Bytes32} {state after : State} {tx : Tx} (executed : Executed state tx after)
    (closed : ¬ Rebinds footprint state tx) (revoked : Revoked footprint state) : Revoked footprint after := by
  cases executed with
  | @bind msg agentId certFootprint _ _ _ _ bound =>
    have other : footprint ≠ certFootprint := by
      rintro rfl
      exact closed ⟨rfl, bound.may⟩
    obtain ⟨_, _, bindings⟩ := bound.binding
    unfold Revoked at revoked ⊢
    rwa [bindings, Function.update_of_ne other]
  | revoke edited => exact edited.revoked (fun _ _ => rfl) revoked
  | update edited => exact edited.revoked (fun _ => id) revoked
  | grant granted =>
    unfold Revoked
    rwa [granted.bindings]

theorem Bound.valid {state after : State} {msg : Msg} {agentId notAfter : Nat} {certFootprint : Bytes32}
    (bound : Bound state msg agentId certFootprint notAfter after) : Valid certFootprint after := by
  obtain ⟨_, _, bindings⟩ := bound.binding
  refine ⟨msg.timestamp, ?_⟩
  have started : uint64 msg.timestamp ≤ msg.timestamp := Nat.mod_le _ _
  simp [verifySession, bindings, bound.may.footprint, bound.may.unexpired, started]

variable (keccak256 : Preimage → Bytes32)

theorem rebinds_valid {footprint : Bytes32} {state : State} {tx : Tx} (rebinds : Rebinds footprint state tx) :
    Valid footprint (step keccak256 state tx) := by
  obtain ⟨msg, call⟩ := tx
  cases call with
  | bindSession agentId certFootprint notAfter mandateRoot railsBitmap =>
    obtain ⟨rfl, may⟩ := rebinds
    obtain ⟨after, done⟩ :
        ∃ after, bindSession keccak256 state msg agentId certFootprint notAfter mandateRoot railsBitmap = .ok after :=
      bindSession_of_may mandateRoot railsBitmap may
    simp only [step, execute, done, settle_ok]
    exact (bindSession_ok done).valid
  | revokeSession => exact rebinds.elim
  | updateMandateRoot => exact rebinds.elim
  | addGuardian => exact rebinds.elim

def killSwitch (footprint : Bytes32) : KillSwitch State Tx where
  step := step keccak256
  killed := Revoked footprint
  served := Valid footprint
  reopens := Rebinds footprint
  refuses := fun _ => Revoked.not_valid
  sticks := by
    intro state tx revoked closed
    rcases step_executed keccak256 state tx with executed | same
    · exact executed.revoked closed revoked
    · rwa [same]

theorem revokeSession_kills {state after : State} {msg : Msg} {sessionId : Bytes32}
    (done : revokeSession state msg sessionId = .ok after) : Revoked (state.footprintOf sessionId) after := by
  unfold Revoked
  rw [(revokeSession_ok done).binding, Function.update_self]

/-- After a revocation the footprint is invalid throughout a run, at any time
it is asked for, exactly when nothing in the run binds it again. -/
theorem revoked_never_valid_iff {state after : State} {msg : Msg} {sessionId : Bytes32}
    (done : revokeSession state msg sessionId = .ok after) (txs : List Tx) :
    Always (step keccak256) (fun later => ¬ Valid (state.footprintOf sessionId) later) after txs ↔
      Meets (step keccak256) (fun later tx => ¬ Rebinds (state.footprintOf sessionId) later tx) after txs :=
  (killSwitch keccak256 (state.footprintOf sessionId)).never_served_iff
    (fun _ _ _ rebinds => rebinds_valid keccak256 rebinds) (revokeSession_kills done)

def aliceBindsAgain : Tx := ⟨⟨1, 0, 1700, true, Nat.one_ne_zero⟩, .bindSession 1 5 3000 10 1⟩

def aliceRevokes (state : State) : Except Revert State :=
  revokeSession state ⟨1, 0, 1600, true, Nat.one_ne_zero⟩ (Preimage.numbered (.packed [1, 5, 2000]))

theorem revoked_never_valid_alice :
    ∃ after, aliceRevokes (run Preimage.numbered [aliceBinds]) = .ok after ∧
      Always (step Preimage.numbered) (fun later => ¬ Valid 5 later) after [aliceUpdates] := by
  obtain ⟨after, done⟩ : ∃ after, aliceRevokes (run Preimage.numbered [aliceBinds]) = .ok after := ⟨_, rfl⟩
  have never := (revoked_never_valid_iff Preimage.numbered done [aliceUpdates]).mpr ⟨id, trivial⟩
  have footprint : (run Preimage.numbered [aliceBinds]).footprintOf (Preimage.numbered (.packed [1, 5, 2000])) = 5 := by
    decide
  rw [footprint] at never
  exact ⟨after, done, never⟩

/-- The revoked footprint is bound again and valid again. -/
theorem revoked_valid_again :
    ∃ after, aliceRevokes (run Preimage.numbered [aliceBinds]) = .ok after ∧
      ¬ Always (step Preimage.numbered) (fun later => ¬ Valid 5 later) after [aliceBindsAgain] := by
  refine ⟨_, rfl, ?_⟩
  intro ⟨_, never⟩
  exact never ⟨1700, by decide⟩

end Xcp.SessionRegistry
