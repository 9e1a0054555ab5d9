import Xcp.Library.Transition
import Xcp.Receipts.Receipt

/-! Settlement that is conditioned on evidence. An operation answers with the
escrow as it leaves it, also where it raises. -/

namespace Xcp.Receipts
open Checked Python Eth

inductive State where
  | open_ | delivered | accepted | disputed | released | refunded | expired
deriving DecidableEq, Repr

def State.value : State → String
  | .open_ => "open"
  | .delivered => "delivered"
  | .accepted => "accepted"
  | .disputed => "disputed"
  | .released => "released"
  | .refunded => "refunded"
  | .expired => "expired"

def State.terminal : State → Bool
  | .released | .refunded => true
  | _ => false

/-- Who caused a transition; zero is the system. -/
structure Event where
  at_ : Int
  state : State
  actor : Json
  note : String := ""

structure Escrow where
  task : TaskSpec
  state : State := .open_
  receipt : Option Receipt := none
  chain : Option CallChain := none
  history : List Event := []
  /-- Seconds; auto-accept is off when it is zero. -/
  autoAcceptAfter : Json := .int 0
  arbiterAgent : Json := .int 0
  resolution : String := ""

def escrowError {α : Type} (text : String) : Raises α := raise (.package "EscrowError") text

def orClock (now : Option Int) (clock : Int) : Int :=
  match now with
  | some now => if now = 0 then clock else now
  | none => clock

namespace Escrow

def note (escrow : Escrow) (event : Event) : Escrow := { escrow with history := escrow.history ++ [event] }

def to_ (escrow : Escrow) (state : State) (actor : Json) (text : String) (now : Int) : Escrow :=
  { escrow with state, history := escrow.history ++ [{ at_ := now, state, actor, note := text }] }

@[simp] theorem state_to (escrow : Escrow) (state : State) (actor : Json) (text : String) (now : Int) :
    (escrow.to_ state actor text now).state = state := rfl

section Deliver
variable [Host] [Packages]

/-- The payee presents delivery, and is answered with the problems of its receipt. -/
def deliver (escrow : Escrow) (receipt : Receipt) (chain : Option CallChain) (now : Int) :
    Escrow × Raises (List String) :=
  if escrow.state ≠ .open_ then (escrow, escrowError s!"cannot deliver from state {escrow.state.value}")
  else
    match escrow.task.expired now with
    | .error exception => (escrow, .error exception)
    | .ok true => (escrow.to_ .expired (.int 0) "deadline passed before delivery" now, .ok ["task deadline had already passed"])
    | .ok false =>
      match verifyReceipt receipt escrow.task chain "" now with
      | .error exception => (escrow, .error exception)
      | .ok [] =>
        ({ escrow with receipt := some receipt, chain }.to_ .delivered escrow.task.payeeAgent "receipt verified" now, .ok [])
      | .ok (problem :: rest) =>
        (escrow.note { at_ := now, state := .open_, actor := escrow.task.payeeAgent, note := s!"delivery rejected: {problem}" },
          .ok (problem :: rest))

end Deliver

def accept (escrow : Escrow) (payerAgent : Json) (now : Int) : Escrow × Raises Unit :=
  if escrow.state ≠ .delivered then (escrow, escrowError s!"cannot accept from state {escrow.state.value}")
  else if !payerAgent.same escrow.task.payerAgent then (escrow, escrowError "only the payer may accept")
  else ((escrow.to_ .accepted payerAgent "accepted by payer" now).to_ .released payerAgent "funds releasable" now, .ok ())

def dispute (escrow : Escrow) (payerAgent : Json) (reason : String) (now : Int) : Escrow × Raises Unit :=
  if escrow.state ≠ .delivered then (escrow, escrowError s!"cannot dispute from state {escrow.state.value}")
  else if !payerAgent.same escrow.task.payerAgent then (escrow, escrowError "only the payer may dispute")
  else if strip reason = "" then (escrow, escrowError "a dispute must state a reason")
  else (escrow.to_ .disputed payerAgent s!"disputed: {reason}" now, .ok ())

def resolve (escrow : Escrow) (arbiterAgent : Json) (release : Bool) (text : String) (now : Int) : Escrow × Raises Unit :=
  if escrow.state ≠ .disputed then (escrow, escrowError s!"cannot resolve from state {escrow.state.value}")
  else if escrow.arbiterAgent.truthy && !arbiterAgent.same escrow.arbiterAgent then
    (escrow, escrowError "not the designated arbiter for this escrow")
  else
    ({ escrow with resolution := text }.to_ (if release then .released else .refunded) arbiterAgent
      s!"arbiter ruling: {text}" now, .ok ())

/-- Whether a delivery is old enough to be accepted without its payer. -/
def timedOut [Host] (escrow : Escrow) (now : Int) : Raises Bool :=
  andThen (escrow.state = .delivered && escrow.autoAcceptAfter.truthy)
    (match escrow.receipt with
      | none => .ok false
      | some receipt => do
        let due ← receipt.deliveredAt.add escrow.autoAcceptAfter
        (Json.int now).ge due)

/-- Advance what depends on time alone. -/
def tick [Host] (escrow : Escrow) (now : Int) : Escrow × Raises State :=
  if escrow.state.terminal then (escrow, .ok escrow.state)
  else
    match andThen (escrow.state = .open_) (escrow.task.expired now) with
    | .error exception => (escrow, .error exception)
    | .ok true =>
      ((escrow.to_ .expired (.int 0) "deadline passed with no delivery" now).to_ .refunded (.int 0) "auto-refund on expiry" now,
        .ok .refunded)
    | .ok false =>
      match escrow.timedOut now with
      | .error exception => (escrow, .error exception)
      | .ok true =>
        ((escrow.to_ .accepted (.int 0) "auto-accepted after timeout" now).to_ .released (.int 0) "funds releasable" now,
          .ok .released)
      | .ok false => (escrow, .ok escrow.state)

/-- The evidence for an arbiter or an auditor. An empty chain is falsy. -/
def bundle (escrow : Escrow) (outputRef : Json) : Raises Json :=
  match escrow.receipt with
  | none => escrowError "no receipt yet — nothing to bundle"
  | some receipt =>
    let chain : CallChain :=
      match escrow.chain with
      | some chain => if chain.records.length = 0 then {} else chain
      | none => {}
    .ok (evidenceBundle escrow.task chain receipt outputRef)

end Escrow

/-- Commit funds against a task. -/
def openEscrow (task : TaskSpec) (autoAcceptAfter arbiterAgent : Json) (now : Int) : Raises Escrow := do
  let unpaid ← task.amountMinor.le (.int 0)
  let _ ← require (unpaid = false) (⟨.package "EscrowError", "escrow requires a positive amount"⟩ : Exception)
  let _ ← require (task.rail.truthy = true) (⟨.package "EscrowError", "escrow requires a settlement rail"⟩ : Exception)
  let _ ← require (task.payerAgent.same task.payeeAgent = false)
    (⟨.package "EscrowError", "payer and payee must differ"⟩ : Exception)
  return Escrow.to_ { task, autoAcceptAfter, arbiterAgent } .open_ task.payerAgent "funds committed" now

/-! ### Calls -/

/-- A call of an operation, with the time that its caller gives, if any. -/
inductive Operation where
  | deliver (receipt : Receipt) (chain : Option CallChain)
  | accept (payerAgent : Json)
  | dispute (payerAgent : Json) (reason : String)
  | resolve (arbiterAgent : Json) (release : Bool) (text : String)
  | tick

structure Call where
  operation : Operation
  now : Option Int
  clock : Int

def Call.time (call : Call) : Int := orClock call.now call.clock

section Calls
variable [Host] [Packages]

/-- The escrow after a call, and what the call raised, if anything. -/
def call (escrow : Escrow) (call : Call) : Escrow × Raises Unit :=
  match call.operation with
  | .deliver receipt chain =>
    let (after, answer) := escrow.deliver receipt chain call.time
    (after, answer.map fun _ => ())
  | .accept payerAgent => escrow.accept payerAgent call.time
  | .dispute payerAgent reason => escrow.dispute payerAgent reason call.time
  | .resolve arbiterAgent release text => escrow.resolve arbiterAgent release text call.time
  | .tick =>
    let (after, answer) := escrow.tick call.time
    (after, answer.map fun _ => ())

def step (escrow : Escrow) (made : Call) : Escrow := (call escrow made).1

end Calls

end Xcp.Receipts
