import Xcp.Receipts.Escrow

/-! Why an escrow released its funds. What a call did is read off it once; the
history behind each state follows by induction on the calls made. -/

namespace Xcp.Receipts
open Checked Python Eth Transition

/-- Not after the deadline of the task, if it has one. -/
def InTime (task : TaskSpec) (time : Json) : Prop := andThen task.deadline.truthy (time.gt task.deadline) = .ok false

/-- The states that a call can move an escrow out of. -/
def State.Pending (state : State) : Prop := state = .open_ ∨ state = .delivered ∨ state = .disputed

theorem not_pending_of_terminal {state : State} (terminal : state.terminal = true) : ¬ state.Pending := by
  rintro (rfl | rfl | rfl) <;> cases terminal

theorem not_pending_expired : ¬ State.Pending .expired := by
  simp [State.Pending]

section Settlement
variable [Host] [Packages]

/-- The payee delivers in time, and its receipt verifies. -/
structure Delivers (escrow : Escrow) (made : Call) (receipt : Receipt) (chain : Option CallChain) : Prop where
  operation : made.operation = .deliver receipt chain
  state : escrow.state = .open_
  called : InTime escrow.task (.int made.time)
  verified : verifyReceipt receipt escrow.task chain "" made.time = .ok []

/-- A delivery is presented once the deadline has passed. -/
structure DeliversLate (escrow : Escrow) (made : Call) : Prop where
  operation : ∃ receipt chain, made.operation = .deliver receipt chain
  state : escrow.state = .open_
  expired : escrow.task.expired made.time = .ok true

structure Accepts (escrow : Escrow) (made : Call) : Prop where
  state : escrow.state = .delivered
  payer : ∃ payerAgent, made.operation = .accept payerAgent ∧ payerAgent.same escrow.task.payerAgent = true

structure Disputes (escrow : Escrow) (made : Call) : Prop where
  state : escrow.state = .delivered
  payer : ∃ payerAgent reason, made.operation = .dispute payerAgent reason ∧
    payerAgent.same escrow.task.payerAgent = true ∧ strip reason ≠ ""

structure Rules (escrow : Escrow) (made : Call) (release : Bool) : Prop where
  state : escrow.state = .disputed
  arbiter : ∃ arbiterAgent text, made.operation = .resolve arbiterAgent release text ∧
    (escrow.arbiterAgent.truthy = true → arbiterAgent.same escrow.arbiterAgent = true)

/-- Auto-accept is on, and the receipt is older than its timeout. -/
structure Elapses (escrow : Escrow) (made : Call) (receipt : Receipt) : Prop where
  operation : made.operation = .tick
  state : escrow.state = .delivered
  enabled : escrow.autoAcceptAfter.truthy = true
  held : escrow.receipt = some receipt
  due : ∃ due, receipt.deliveredAt.add escrow.autoAcceptAfter = .ok due ∧ (Json.int made.time).ge due = .ok true

structure Expires (escrow : Escrow) (made : Call) : Prop where
  operation : made.operation = .tick
  state : escrow.state = .open_
  expired : escrow.task.expired made.time = .ok true

/-- What a call did, by the escrow that it left. -/
inductive Moved (escrow : Escrow) (made : Call) : Escrow → Prop where
  | kept (history : List Event) : Moved escrow made { escrow with history }
  | delivered {receipt chain} (delivers : Delivers escrow made receipt chain) (history : List Event) :
    Moved escrow made { escrow with state := .delivered, receipt := some receipt, chain, history }
  | late (late : DeliversLate escrow made) (history : List Event) :
    Moved escrow made { escrow with state := .expired, history }
  | accepted (accepts : Accepts escrow made) (history : List Event) :
    Moved escrow made { escrow with state := .released, history }
  | elapsed {receipt} (elapses : Elapses escrow made receipt) (history : List Event) :
    Moved escrow made { escrow with state := .released, history }
  | disputed (disputes : Disputes escrow made) (history : List Event) :
    Moved escrow made { escrow with state := .disputed, history }
  | ruled {release} (rules : Rules escrow made release) (resolution : String) (history : List Event) :
    Moved escrow made { escrow with state := if release then .released else .refunded, resolution, history }
  | expired (expires : Expires escrow made) (history : List Event) :
    Moved escrow made { escrow with state := .refunded, history }

/-- A call either moved the escrow as its operation says or, where it raised,
left it as it was. -/
structure Answered (escrow : Escrow) (made : Call) (after : Escrow × Raises Unit) : Prop where
  moved : Moved escrow made after.1
  raised : ∀ exception, after.2 = .error exception → after.1 = escrow

namespace Answered

variable {escrow : Escrow} {made : Call}

theorem refused (exception : Exception) : Answered escrow made (escrow, .error exception) :=
  ⟨.kept escrow.history, fun _ _ => rfl⟩

theorem ok {after : Escrow} (moved : Moved escrow made after) : Answered escrow made (after, .ok ()) :=
  ⟨moved, fun _ raised => by cases raised⟩

end Answered

theorem deliver_answered (escrow : Escrow) (receipt : Receipt) (chain : Option CallChain) (now : Option Int)
    (clock : Int) :
    Answered escrow ⟨.deliver receipt chain, now, clock⟩ (call escrow ⟨.deliver receipt chain, now, clock⟩) := by
  simp only [call, Escrow.deliver]
  by_cases isOpen : escrow.state = .open_
  · simp only [isOpen, ne_eq, not_true_eq_false, if_false]
    cases expiry : escrow.task.expired (Call.time ⟨.deliver receipt chain, now, clock⟩) with
    | error exception => exact .refused exception
    | ok expired =>
      cases expired with
      | true => exact .ok (.late ⟨⟨receipt, chain, rfl⟩, isOpen, expiry⟩ _)
      | false =>
        simp only
        cases verdict : verifyReceipt receipt escrow.task chain "" (Call.time ⟨.deliver receipt chain, now, clock⟩) with
        | error exception => exact .refused exception
        | ok problems =>
          cases problems with
          | nil => exact .ok (.delivered ⟨rfl, isOpen, expiry, verdict⟩ _)
          | cons problem rest => exact .ok (.kept _)
  · simp only [isOpen, ne_eq, not_false_eq_true, if_true]
    exact .refused _

theorem accept_answered (escrow : Escrow) (payerAgent : Json) (now : Option Int) (clock : Int) :
    Answered escrow ⟨.accept payerAgent, now, clock⟩ (call escrow ⟨.accept payerAgent, now, clock⟩) := by
  simp only [call, Escrow.accept]
  split
  · exact .refused _
  next delivered =>
    split
    · exact .refused _
    next payer =>
      have accepts : Accepts escrow ⟨.accept payerAgent, now, clock⟩ :=
        ⟨not_not.mp delivered, payerAgent, rfl, by simpa using payer⟩
      exact .ok (.accepted accepts _)

theorem dispute_answered (escrow : Escrow) (payerAgent : Json) (reason : String) (now : Option Int) (clock : Int) :
    Answered escrow ⟨.dispute payerAgent reason, now, clock⟩ (call escrow ⟨.dispute payerAgent reason, now, clock⟩) := by
  simp only [call, Escrow.dispute]
  split
  · exact .refused _
  next delivered =>
    split
    · exact .refused _
    next payer =>
      split
      · exact .refused _
      next stated =>
        have disputes : Disputes escrow ⟨.dispute payerAgent reason, now, clock⟩ :=
          ⟨not_not.mp delivered, payerAgent, reason, rfl, by simpa using payer, stated⟩
        exact .ok (.disputed disputes _)

theorem resolve_answered (escrow : Escrow) (arbiterAgent : Json) (release : Bool) (text : String) (now : Option Int)
    (clock : Int) :
    Answered escrow ⟨.resolve arbiterAgent release text, now, clock⟩
      (call escrow ⟨.resolve arbiterAgent release text, now, clock⟩) := by
  simp only [call, Escrow.resolve]
  split
  · exact .refused _
  next disputed =>
    split
    · exact .refused _
    next arbiter =>
      have rules : Rules escrow ⟨.resolve arbiterAgent release text, now, clock⟩ release :=
        ⟨not_not.mp disputed, arbiterAgent, text, rfl, by simpa using arbiter⟩
      exact .ok (.ruled rules text _)

omit [Packages] in
theorem timedOut_true {escrow : Escrow} {now : Int} (timedOut : escrow.timedOut now = .ok true) :
    escrow.state = .delivered ∧ escrow.autoAcceptAfter.truthy = true ∧ ∃ receipt, escrow.receipt = some receipt ∧
      ∃ due, receipt.deliveredAt.add escrow.autoAcceptAfter = .ok due ∧ (Json.int now).ge due = .ok true := by
  obtain ⟨enabled, elapsed⟩ := (andThen_eq_true ..).mp timedOut
  simp only [Bool.and_eq_true, decide_eq_true_eq] at enabled
  cases held : escrow.receipt with
  | none => simp [held] at elapsed
  | some receipt =>
    simp only [held, bind_eq_ok] at elapsed
    exact ⟨enabled.1, enabled.2, receipt, rfl, elapsed⟩

theorem tick_answered (escrow : Escrow) (now : Option Int) (clock : Int) :
    Answered escrow ⟨.tick, now, clock⟩ (call escrow ⟨.tick, now, clock⟩) := by
  simp only [call, Escrow.tick]
  split
  · exact .ok (.kept escrow.history)
  · cases expiry : andThen (escrow.state = .open_) (escrow.task.expired (Call.time ⟨.tick, now, clock⟩)) with
    | error exception => exact .refused exception
    | ok expired =>
      cases expired with
      | true =>
        obtain ⟨isOpen, past⟩ := (andThen_eq_true ..).mp expiry
        exact .ok (.expired ⟨rfl, by simpa using isOpen, past⟩ _)
      | false =>
        simp only
        cases timeout : escrow.timedOut (Call.time ⟨.tick, now, clock⟩) with
        | error exception => exact .refused exception
        | ok timedOut =>
          cases timedOut with
          | true =>
            obtain ⟨delivered, enabled, receipt, held, due⟩ := timedOut_true timeout
            have elapses : Elapses escrow ⟨.tick, now, clock⟩ receipt := ⟨rfl, delivered, enabled, held, due⟩
            exact .ok (.elapsed elapses _)
          | false => exact .ok (.kept escrow.history)

theorem call_answered (escrow : Escrow) (made : Call) : Answered escrow made (call escrow made) := by
  obtain ⟨operation, now, clock⟩ := made
  cases operation with
  | deliver receipt chain => exact deliver_answered escrow receipt chain now clock
  | accept payerAgent => exact accept_answered escrow payerAgent now clock
  | dispute payerAgent reason => exact dispute_answered escrow payerAgent reason now clock
  | resolve arbiterAgent release text => exact resolve_answered escrow arbiterAgent release text now clock
  | tick => exact tick_answered escrow now clock

theorem step_moved (escrow : Escrow) (made : Call) : Moved escrow made (step escrow made) := (call_answered escrow made).moved

theorem step_raised {escrow : Escrow} {made : Call} {exception : Exception}
    (raised : (call escrow made).2 = .error exception) : step escrow made = escrow :=
  (call_answered escrow made).raised exception raised

theorem Delivers.step_eq {escrow : Escrow} {made : Call} {receipt : Receipt} {chain : Option CallChain}
    (delivers : Delivers escrow made receipt chain) :
    step escrow made = { escrow with receipt := some receipt, chain }.to_ .delivered escrow.task.payeeAgent
      "receipt verified" made.time := by
  obtain ⟨operation, now, clock⟩ := made
  obtain ⟨rfl, isOpen, called, verified⟩ := delivers
  have expiry : escrow.task.expired (Call.time ⟨.deliver receipt chain, now, clock⟩) = .ok false := called
  simp [step, call, Escrow.deliver, isOpen, expiry, verified]

/-! ### The history behind a state -/

section
variable (opened : Escrow)

/-- A receipt was delivered in time at one of the calls. -/
def DeliveredIn (calls : List Call) (receipt : Receipt) : Prop :=
  ∃ before delivery chain later, calls = before ++ delivery :: later ∧
    Delivers (run step opened before) delivery receipt chain

/-- The payer disputed a receipt that was delivered before. -/
def DisputedIn (calls : List Call) (receipt : Receipt) : Prop :=
  ∃ before dispute later, calls = before ++ dispute :: later ∧ DeliveredIn opened before receipt ∧
    Disputes (run step opened before) dispute

/-- Why a call releases the funds for a receipt. -/
inductive Settles (past : List Call) (made : Call) (receipt : Receipt) : Prop where
  | accepted (delivered : DeliveredIn opened past receipt) (accepts : Accepts (run step opened past) made)
  | elapsed (delivered : DeliveredIn opened past receipt) (elapses : Elapses (run step opened past) made receipt)
  | ruled (disputed : DisputedIn opened past receipt) (rules : Rules (run step opened past) made true)

def SettledIn (calls : List Call) (receipt : Receipt) : Prop :=
  ∃ past settling later, calls = past ++ settling :: later ∧ Settles opened past settling receipt

/-- What the state of an escrow says of the calls before it. -/
def History (calls : List Call) (escrow : Escrow) : Prop :=
  match escrow.state with
  | .delivered => ∃ receipt, escrow.receipt = some receipt ∧ DeliveredIn opened calls receipt
  | .disputed => ∃ receipt, DisputedIn opened calls receipt
  | .released => ∃ receipt, SettledIn opened calls receipt
  | _ => True

end

variable {opened : Escrow} {calls : List Call} {receipt : Receipt}

theorem DeliveredIn.concat (delivered : DeliveredIn opened calls receipt) (made : Call) :
    DeliveredIn opened (calls ++ [made]) receipt := by
  obtain ⟨before, delivery, chain, later, rfl, delivers⟩ := delivered
  exact ⟨before, delivery, chain, later ++ [made], by simp, delivers⟩

theorem DisputedIn.concat (disputed : DisputedIn opened calls receipt) (made : Call) :
    DisputedIn opened (calls ++ [made]) receipt := by
  obtain ⟨before, dispute, later, rfl, delivered, disputes⟩ := disputed
  exact ⟨before, dispute, later ++ [made], by simp, delivered, disputes⟩

theorem SettledIn.concat (settled : SettledIn opened calls receipt) (made : Call) :
    SettledIn opened (calls ++ [made]) receipt := by
  obtain ⟨past, settling, later, rfl, settles⟩ := settled
  exact ⟨past, settling, later ++ [made], by simp, settles⟩

theorem Settles.settledIn {made : Call} (settles : Settles opened calls made receipt) :
    SettledIn opened (calls ++ [made]) receipt :=
  ⟨calls, made, [], rfl, settles⟩

theorem DisputedIn.delivered (disputed : DisputedIn opened calls receipt) : DeliveredIn opened calls receipt := by
  obtain ⟨before, dispute, later, rfl, ⟨first, delivery, chain, between, rfl, delivers⟩, _⟩ := disputed
  exact ⟨first, delivery, chain, between ++ dispute :: later, by simp, delivers⟩

theorem SettledIn.delivered (settled : SettledIn opened calls receipt) : DeliveredIn opened calls receipt := by
  obtain ⟨past, settling, later, rfl, settles⟩ := settled
  have before : DeliveredIn opened past receipt := by
    cases settles with
    | accepted delivered => exact delivered
    | elapsed delivered => exact delivered
    | ruled disputed => exact disputed.delivered
  obtain ⟨first, delivery, chain, between, rfl, delivers⟩ := before
  exact ⟨first, delivery, chain, between ++ settling :: later, by simp, delivers⟩

theorem History.kept {escrow : Escrow} (history : History opened calls escrow) (made : Call) (events : List Event) :
    History opened (calls ++ [made]) { escrow with history := events } := by
  unfold History at history ⊢
  cases state : escrow.state with
  | delivered =>
    simp only [state] at history ⊢
    obtain ⟨receipt, held, delivered⟩ := history
    exact ⟨receipt, held, delivered.concat made⟩
  | disputed =>
    simp only [state] at history ⊢
    obtain ⟨receipt, disputed⟩ := history
    exact ⟨receipt, disputed.concat made⟩
  | released =>
    simp only [state] at history ⊢
    obtain ⟨receipt, settled⟩ := history
    exact ⟨receipt, settled.concat made⟩
  | open_ => trivial
  | accepted => trivial
  | refunded => trivial
  | expired => trivial

theorem Moved.history {made : Call} {after : Escrow} (moved : Moved (run step opened calls) made after)
    (history : History opened calls (run step opened calls)) : History opened (calls ++ [made]) after := by
  cases moved with
  | kept events => exact history.kept made events
  | @delivered receipt chain delivers =>
    exact ⟨receipt, rfl, calls, made, chain, [], rfl, delivers⟩
  | late => trivial
  | accepted accepts =>
    simp only [History, accepts.state] at history
    obtain ⟨receipt, _, delivered⟩ := history
    exact ⟨receipt, (Settles.accepted delivered accepts).settledIn⟩
  | @elapsed receipt elapses =>
    simp only [History, elapses.state] at history
    obtain ⟨other, held, delivered⟩ := history
    obtain rfl : receipt = other := Option.some.inj (elapses.held.symm.trans held)
    exact ⟨receipt, (Settles.elapsed delivered elapses).settledIn⟩
  | disputed disputes =>
    simp only [History, disputes.state] at history
    obtain ⟨receipt, _, delivered⟩ := history
    exact ⟨receipt, calls, made, [], rfl, delivered, disputes⟩
  | @ruled release rules =>
    simp only [History, rules.state] at history
    obtain ⟨receipt, disputed⟩ := history
    cases release with
    | true => exact ⟨receipt, (Settles.ruled disputed rules).settledIn⟩
    | false => trivial
  | expired => trivial

/-! ### What no call changes -/

structure Terms (opened escrow : Escrow) : Prop where
  task : escrow.task = opened.task
  autoAcceptAfter : escrow.autoAcceptAfter = opened.autoAcceptAfter
  arbiterAgent : escrow.arbiterAgent = opened.arbiterAgent

theorem Moved.terms {escrow after : Escrow} {made : Call} (moved : Moved escrow made after)
    (terms : Terms opened escrow) : Terms opened after := by
  cases moved <;> exact ⟨terms.task, terms.autoAcceptAfter, terms.arbiterAgent⟩

theorem Moved.stays {escrow after : Escrow} {made : Call} (moved : Moved escrow made after)
    (settled : ¬ escrow.state.Pending) : after.state = escrow.state := by
  cases moved with
  | kept => rfl
  | delivered delivers => exact absurd (.inl delivers.state) settled
  | late late => exact absurd (.inl late.state) settled
  | accepted accepts => exact absurd (.inr (.inl accepts.state)) settled
  | elapsed elapses => exact absurd (.inr (.inl elapses.state)) settled
  | disputed disputes => exact absurd (.inr (.inl disputes.state)) settled
  | ruled rules => exact absurd (.inr (.inr rules.state)) settled
  | expired expires => exact absurd (.inl expires.state) settled

theorem run_stays {escrow : Escrow} (settled : ¬ escrow.state.Pending) (calls : List Call) :
    (run step escrow calls).state = escrow.state := by
  have stays : ∀ later made, later.state = escrow.state → (step later made).state = escrow.state := by
    intro later made same
    rw [(step_moved later made).stays (by rwa [same]), same]
  exact run_invariant stays rfl calls

omit [Host] [Packages] in
theorem openEscrow_state {task : TaskSpec} {autoAcceptAfter arbiterAgent : Json} {now : Int} {opened : Escrow}
    (opening : openEscrow task autoAcceptAfter arbiterAgent now = .ok opened) :
    opened.state = .open_ ∧ opened.task = task ∧ opened.autoAcceptAfter = autoAcceptAfter ∧
      opened.arbiterAgent = arbiterAgent := by
  simp only [openEscrow, bind_eq_ok, require_eq_ok, pure_eq_ok] at opening
  obtain ⟨_, _, _, _, _, _, _, _, rfl⟩ := opening
  exact ⟨rfl, rfl, rfl, rfl⟩

theorem verifyReceipt_inTime {task : TaskSpec} {chain : Option CallChain} {now : Int}
    (verified : verifyReceipt receipt task chain "" now = .ok []) : InTime task receipt.deliveredAt := by
  obtain ⟨bound, _⟩ := verifyReceipt_nil.mp verified
  exact (Receipt.commitmentProblems_nil.mp bound).2.2.2.1

/-- Funds are released for a receipt that verified, was delivered in time and was
then settled by the payer, by the timeout that the escrow was opened with or by a
ruling on the payer's dispute. A settled escrow stays so, and a call that raises
changes nothing. -/
theorem release_safe {task : TaskSpec} {autoAcceptAfter arbiterAgent : Json} {now : Int} {opened : Escrow}
    (opening : openEscrow task autoAcceptAfter arbiterAgent now = .ok opened) (calls : List Call) :
    ((run step opened calls).state = .released →
      ∃ receipt, SettledIn opened calls receipt ∧ DeliveredIn opened calls receipt ∧
        InTime task receipt.deliveredAt) ∧
    ((run step opened calls).task = task ∧ (run step opened calls).autoAcceptAfter = autoAcceptAfter) ∧
    ((run step opened calls).state.terminal = true →
      ∀ later, (run step opened (calls ++ later)).state = (run step opened calls).state) ∧
    ∀ made exception, (call (run step opened calls) made).2 = .error exception →
      (run step opened (calls ++ [made])).state = (run step opened calls).state ∧
      (run step opened (calls ++ [made])).receipt = (run step opened calls).receipt ∧
      (run step opened (calls ++ [made])).chain = (run step opened calls).chain := by
  obtain ⟨isOpen, sameTask, sameTimeout, _⟩ := openEscrow_state opening
  have terms (some : List Call) : Terms opened (run step opened some) :=
    run_invariant (fun escrow made => (step_moved escrow made).terms) ⟨rfl, rfl, rfl⟩ some
  have history : History opened calls (run step opened calls) := by
    apply run_history
    · simp [History, isOpen]
    · intro past made
      exact (step_moved _ made).history
  refine ⟨?released, ?terms, ?terminal, ?raised⟩
  case released =>
    intro released
    simp only [History, released] at history
    obtain ⟨receipt, settled⟩ := history
    obtain ⟨before, delivery, chain, later, split, delivers⟩ := settled.delivered
    have inTime := verifyReceipt_inTime delivers.verified
    rw [(terms before).task, sameTask] at inTime
    exact ⟨receipt, settled, settled.delivered, inTime⟩
  case terms => exact ⟨(terms calls).task.trans sameTask, (terms calls).autoAcceptAfter.trans sameTimeout⟩
  case terminal =>
    intro terminal later
    rw [run_append]
    exact run_stays (not_pending_of_terminal terminal) later
  case raised =>
    intro made exception raised
    have same : run step opened (calls ++ [made]) = run step opened calls := by
      rw [run_append]
      exact step_raised raised
    rw [same]
    exact ⟨rfl, rfl, rfl⟩

end Settlement

/-! ### A delivery that its payer accepts -/

def logoTask : TaskSpec where
  taskId := .str "t1"
  payerAgent := .int 1
  payeeAgent := .int 2
  description := .str "logo"
  amountMinor := .int 5
  deadline := .int 100

def logoReceipt (taskDigest : String) : Receipt where
  taskDigest := .str taskDigest
  callChainRoot := .str genesis
  outputDigest := .str "0x"
  payeeAgent := .int 2
  amountMinor := .int 5
  deliveredAt := .int 90
  callCount := .int 0
  payeeAddress := .str "0xb0b"
  signature := .str "0x51"

section Logo

local instance logoHost : Host := asciiHost []

/-- Hashes are not looked at, and every signature is the payee's. -/
local instance logoPackages : Packages where
  keccak := fun _ => [7]
  encode := fun _ => .ok []
  recover := fun _ _ => .ok "0xB0B"
  sign := fun _ _ => .ok []

def logoCalls : List Call :=
  [⟨.deliver (logoReceipt "0x07") none, some 95, 0⟩, ⟨.dispute (.int 2) "late", some 96, 0⟩, ⟨.accept (.int 1), none, 99⟩]

def logoEscrow : Escrow :=
  Escrow.to_ { task := logoTask, autoAcceptAfter := .int 0, arbiterAgent := .int 0 } .open_ (.int 1) "funds committed" 50

theorem release_safe_logo :
    ∃ receipt, SettledIn logoEscrow logoCalls receipt ∧ InTime logoTask receipt.deliveredAt := by
  have opening : openEscrow logoTask (.int 0) (.int 0) 50 = .ok logoEscrow := rfl
  obtain ⟨receipt, settled, _, inTime⟩ := (release_safe opening logoCalls).1 (by decide)
  exact ⟨receipt, settled, inTime⟩

end Logo

end Xcp.Receipts
