import Xcp.Proofs.EscrowRelease
import Xcp.Proofs.Evidence

/-! What a deadline does to funds that nobody earned. A tick refunds an open
escrow, but a delivery that comes late moves it to a state that nothing leaves. -/

namespace Xcp.Receipts
open Checked Python Eth Transition

section Deadline
variable [Host] [Packages]

/-- No delivery is accepted by this call. -/
def Undelivered (escrow : Escrow) (made : Call) : Prop := ∀ receipt chain, ¬ Delivers escrow made receipt chain

theorem deliversLate_step {escrow : Escrow} {made : Call} (late : DeliversLate escrow made) :
    (step escrow made).state = .expired := by
  obtain ⟨operation, now, clock⟩ := made
  obtain ⟨receipt, chain, rfl⟩ := late.operation
  have expired := late.expired
  simp [step, call, Escrow.deliver, late.state, expired]

theorem tick_refunds {escrow : Escrow} {made : Call} (isTick : made.operation = .tick) (isOpen : escrow.state = .open_)
    (expired : escrow.task.expired made.time = .ok true) : (step escrow made).state = .refunded := by
  obtain ⟨operation, now, clock⟩ := made
  obtain rfl := isTick
  simp [step, call, Escrow.tick, isOpen, State.terminal, andThen, expired]

theorem step_of_open {escrow : Escrow} {made : Call} (isOpen : escrow.state = .open_)
    (undelivered : Undelivered escrow made) :
    (step escrow made).state = .open_ ∧ (step escrow made).task = escrow.task ∧ ¬ DeliversLate escrow made ∨
      DeliversLate escrow made ∧ (step escrow made).state = .expired ∨
      ¬ DeliversLate escrow made ∧ (step escrow made).state = .refunded := by
  by_cases late : DeliversLate escrow made
  · exact .inr (.inl ⟨late, deliversLate_step late⟩)
  · have moved := step_moved escrow made
    revert moved
    generalize step escrow made = after
    intro moved
    cases moved with
    | kept => exact .inl ⟨isOpen, rfl, late⟩
    | @delivered receipt chain delivers => exact absurd delivers (undelivered receipt chain)
    | late comesLate => exact absurd comesLate late
    | accepted accepts => simp [accepts.state] at isOpen
    | elapsed elapses => simp [elapses.state] at isOpen
    | disputed disputes => simp [disputes.state] at isOpen
    | ruled rules => simp [rules.state] at isOpen
    | expired => exact .inr (.inr ⟨late, rfl⟩)

theorem settled_notLate {escrow : Escrow} (settled : ¬ escrow.state.Pending) (calls : List Call) :
    Meets step (fun later made => ¬ DeliversLate later made) escrow calls := by
  induction calls generalizing escrow with
  | nil => trivial
  | cons made rest ih =>
    refine ⟨?_, ih ?_⟩
    · intro late
      exact settled (.inl late.state)
    · rwa [(step_moved escrow made).stays settled]

theorem refunded_iff_notLate {escrow : Escrow} (isOpen : escrow.state = .open_) {tick : Call}
    (isTick : tick.operation = .tick) (expired : escrow.task.expired tick.time = .ok true) {calls : List Call}
    (undelivered : Meets step Undelivered escrow calls) :
    (step (run step escrow calls) tick).state = .refunded ↔
      Meets step (fun later made => ¬ DeliversLate later made) escrow calls := by
  induction calls generalizing escrow with
  | nil => exact iff_of_true (tick_refunds isTick isOpen expired) trivial
  | cons made rest ih =>
    rcases step_of_open isOpen undelivered.1 with ⟨stillOpen, sameTask, onTime⟩ | ⟨late, stuck⟩ | ⟨onTime, refunded⟩
    · have later := ih stillOpen (by rw [sameTask, expired]) undelivered.2
      exact later.trans ⟨fun meets => ⟨onTime, meets⟩, And.right⟩
    · -- Nothing leaves `EXPIRED`, although it is no terminal state.
      have settled : ¬ (step escrow made).state.Pending := by
        rw [stuck]
        exact not_pending_expired
      have after := run_stays settled (rest ++ [tick])
      rw [run_append, stuck] at after
      refine iff_of_false ?_ (fun meets => meets.1 late)
      rw [run_cons]
      intro refunded
      cases after.symm.trans refunded
    · have settled : ¬ (step escrow made).state.Pending := by
        rw [refunded]
        exact not_pending_of_terminal rfl
      have after := run_stays settled (rest ++ [tick])
      rw [run_append, refunded] at after
      exact iff_of_true after ⟨onTime, settled_notLate settled rest⟩

/-- Where no delivery was accepted, a tick after the deadline leaves the escrow
refunded exactly when nobody tried to deliver after the deadline before. -/
theorem deadline_refunds_iff {task : TaskSpec} {autoAcceptAfter arbiterAgent : Json} {now : Int} {opened : Escrow}
    (opening : openEscrow task autoAcceptAfter arbiterAgent now = .ok opened) (calls : List Call)
    (undelivered : Meets step Undelivered opened calls) (tick : Call) (isTick : tick.operation = .tick)
    (expired : task.expired tick.time = .ok true) :
    (step (run step opened calls) tick).state = .refunded ↔
      Meets step (fun escrow made => ¬ DeliversLate escrow made) opened calls := by
  obtain ⟨isOpen, sameTask, _⟩ := openEscrow_state opening
  exact refunded_iff_notLate isOpen isTick (by rw [sameTask, expired]) undelivered

end Deadline

section Logo

local instance lateHost : Host := asciiHost []

local instance latePackages : Packages where
  keccak := fun _ => [7]
  encode := fun _ => .ok []
  recover := fun _ _ => .ok "0xB0B"
  sign := fun _ _ => .ok []

def logoTick : Call := ⟨.tick, some 102, 0⟩

def logoEarly : List Call := [⟨.accept (.int 1), some 60, 0⟩, ⟨.tick, some 99, 0⟩]

theorem logoEarly_quiet :
    Meets step (fun _ made => ∀ receipt chain, made.operation ≠ .deliver receipt chain) logoEscrow logoEarly :=
  ⟨nofun, nofun, trivial⟩

theorem deadline_refunds_logo : (step (run step logoEscrow logoEarly) logoTick).state = .refunded := by
  have opening : openEscrow logoTask (.int 0) (.int 0) 50 = .ok logoEscrow := rfl
  have undelivered : Meets step Undelivered logoEscrow logoEarly := by
    apply logoEarly_quiet.mono
    intro _ made quiet receipt chain delivers
    exact quiet receipt chain delivers.operation
  apply (deadline_refunds_iff opening logoEarly undelivered logoTick rfl (by decide)).mpr
  apply logoEarly_quiet.mono
  intro _ made quiet late
  obtain ⟨receipt, chain, operation⟩ := late.operation
  exact quiet receipt chain operation

def logoLate : Call := ⟨.deliver (logoReceipt "0x07") none, some 101, 0⟩

/-- The payee delivers a second late, and no later tick refunds the payer. -/
theorem late_delivery_stuck :
    openEscrow logoTask (.int 0) (.int 0) 50 = .ok logoEscrow ∧ Meets step Undelivered logoEscrow [logoLate] ∧
      logoTask.expired logoTick.time = .ok true ∧ (step (run step logoEscrow [logoLate]) logoTick).state ≠ .refunded := by
  refine ⟨rfl, ⟨?_, trivial⟩, by decide, by decide⟩
  intro receipt chain delivers
  have inTime := delivers.called
  revert inTime
  unfold InTime
  decide

end Logo

end Xcp.Receipts

/-! What an escrow shows for a delivery. The auditor rebuilds the evidence from
the bundle and checks it again; it finds what the escrow found, except that the
escrow takes a delivery without calls and the auditor does not. -/

namespace Xcp.Receipts
open Checked Python Eth Transition

theorem TaskSpec.fromDict_toDict (task : TaskSpec) : TaskSpec.fromDict task.toDict = .ok task := rfl

theorem CallRecord.fromDict_toDict (record : CallRecord) : CallRecord.fromDict record.toDict = .ok record := rfl

theorem Receipt.fromDict_toDict (receipt : Receipt) : Receipt.fromDict receipt.toDict = .ok receipt := rfl

theorem mapM_fromDict_toDict (records : List CallRecord) :
    records.mapM (CallRecord.fromDict ∘ CallRecord.toDict) = .ok records := by
  rw [mapM_eq_ok, List.forall₂_same]
  exact fun record _ => CallRecord.fromDict_toDict record

section Bundles
variable [Host] [Packages]

/-- Records that lead to a head in order can be appended one after another. -/
theorem foldlM_append_of_recompute {records : List CallRecord} (chain : CallChain) {head : String}
    (leads : CallChain.recompute chain.head chain.records.length records = .ok (some head)) :
    records.foldlM CallChain.append chain = .ok { records := chain.records ++ records, head } := by
  induction records generalizing chain with
  | nil =>
    obtain rfl : chain.head = head := by simpa [CallChain.recompute] using leads
    simp [pure, Except.pure]
  | cons record rest ih =>
    simp only [CallChain.recompute] at leads
    split at leads
    next => simp at leads
    next inOrder =>
      simp only [bind_eq_ok] at leads
      obtain ⟨next, linked, leads⟩ := leads
      have appended : chain.append record = .ok { records := chain.records ++ [record], head := next } := by
        simp only [CallChain.append, inOrder, linked, ok_bind]
        rfl
      have rest := ih { records := chain.records ++ [record], head := next } (by simpa using leads)
      rw [List.foldlM_cons, appended, ok_bind, rest]
      simp

theorem CallChain.fromDict_toDict {chain : CallChain} (consistent : chain.verify = .ok true) :
    CallChain.fromDict chain.toDict = .ok chain := by
  simp only [CallChain.verify, bind_eq_ok, pure_eq_ok, decide_eq_true_eq] at consistent
  obtain ⟨_, leads, rfl⟩ := consistent
  have built : CallChain.fromRecords chain.records = .ok chain := foldlM_append_of_recompute {} leads
  simp [CallChain.fromDict, CallChain.toDict, Json.get, Json.find?, Json.toList, mapM_fromDict_toDict, built]

/-- Evidence with a consistent chain is rebuilt as it was. -/
theorem verifyBundle_evidenceBundle {task : TaskSpec} {chain : CallChain} {receipt : Receipt} {outputRef : Json}
    {now : Int} (consistent : chain.verify = .ok true) :
    verifyBundle (evidenceBundle task chain receipt outputRef) now =
      verifyReceipt receipt task (some chain) "" now := by
  have read : readBundle (evidenceBundle task chain receipt outputRef) = .ok { task, chain, receipt } := by
    simp [readBundle, evidenceBundle, Json.item, Json.find?, TaskSpec.fromDict_toDict,
      CallChain.fromDict_toDict consistent, Receipt.fromDict_toDict, ok_bind]
  rw [verifyBundle, read]

theorem empty_verify : ({} : CallChain).verify = .ok true := by
  simp [CallChain.verify, CallChain.recompute]

theorem chainProblems_empty (receipt : Receipt) : receipt.chainProblems (some {}) ≠ .ok [] := by
  simp [Receipt.chainProblems, empty_verify]

/-- A delivery with a chain is clean in its bundle, one without a chain is not. -/
theorem verifyBundle_delivered_iff {escrow : Escrow} {receipt : Receipt} {now : Int} (outputRef : Json)
    (held : escrow.receipt = some receipt)
    (verified : verifyReceipt receipt escrow.task escrow.chain "" now = .ok []) :
    ∃ bundle, escrow.bundle outputRef = .ok bundle ∧
      (verifyBundle bundle now = .ok [] ↔ escrow.chain.isSome = true) := by
  cases given : escrow.chain with
  | none =>
    have bundled : escrow.bundle outputRef = .ok (evidenceBundle escrow.task {} receipt outputRef) := by
      simp [Escrow.bundle, held, given]
    refine ⟨_, bundled, ?_⟩
    rw [verifyBundle_evidenceBundle empty_verify]
    refine ⟨?_, by simp⟩
    intro clean
    exact absurd (verifyReceipt_nil.mp clean).2.1 (chainProblems_empty receipt)
  | some chain =>
    rw [given] at verified
    obtain ⟨consistent, _, _, some⟩ := chainProblems_nil.mp (verifyReceipt_nil.mp verified).2.1
    have bundled : escrow.bundle outputRef = .ok (evidenceBundle escrow.task chain receipt outputRef) := by
      simp [Escrow.bundle, held, given, some]
    refine ⟨_, bundled, ?_⟩
    rw [verifyBundle_evidenceBundle consistent]
    simp [verified]

/-! ### Every run -/

/-- The escrow is past a delivery, whose evidence it keeps. -/
structure Holds (receipt : Receipt) (chain : Option CallChain) (task : TaskSpec) (escrow : Escrow) : Prop where
  closed : escrow.state ≠ .open_
  receipt : escrow.receipt = some receipt
  chain : escrow.chain = chain
  task : escrow.task = task

theorem Moved.holds {escrow after : Escrow} {made : Call} {receipt : Receipt} {chain : Option CallChain}
    {task : TaskSpec} (moved : Moved escrow made after) (holds : Holds receipt chain task escrow) :
    Holds receipt chain task after := by
  have kept : ∀ state history resolution, state ≠ .open_ →
      Holds receipt chain task { escrow with state, history, resolution } :=
    fun _ _ _ closed => ⟨closed, holds.receipt, holds.chain, holds.task⟩
  cases moved with
  | kept history => exact kept escrow.state history escrow.resolution holds.closed
  | delivered delivers => exact absurd delivers.state holds.closed
  | late late => exact absurd late.state holds.closed
  | accepted accepts history => exact kept .released history escrow.resolution (by simp)
  | elapsed elapses history => exact kept .released history escrow.resolution (by simp)
  | disputed disputes history => exact kept .disputed history escrow.resolution (by simp)
  | @ruled release rules resolution history => exact kept _ history resolution (by cases release <;> simp)
  | expired expires => exact absurd expires.state holds.closed

/-- What was delivered is held through all later calls. -/
theorem Delivers.holds {escrow : Escrow} {made : Call} {receipt : Receipt} {chain : Option CallChain}
    (delivers : Delivers escrow made receipt chain) (later : List Call) :
    Holds receipt chain escrow.task (run step escrow (made :: later)) := by
  have start : Holds receipt chain escrow.task (step escrow made) := by
    rw [delivers.step_eq]
    exact ⟨by simp, rfl, rfl, rfl⟩
  rw [run_cons]
  exact run_invariant (fun escrow made => (step_moved escrow made).holds) start later

/-- The bundle of what was delivered verifies for the time of the delivery
exactly if a chain was delivered. -/
theorem Delivers.bundle_clean_iff {escrow : Escrow} {made : Call} {receipt : Receipt} {chain : Option CallChain}
    (delivers : Delivers escrow made receipt chain) (later : List Call) (outputRef : Json) :
    ∃ bundle, (run step escrow (made :: later)).bundle outputRef = .ok bundle ∧
      (verifyBundle bundle made.time = .ok [] ↔ chain.isSome = true) := by
  have holds := delivers.holds later
  have verified := delivers.verified
  rw [← holds.chain] at verified ⊢
  rw [← holds.task] at verified
  exact verifyBundle_delivered_iff outputRef holds.receipt verified

/-- In every run, whatever was delivered is bundled from then on, and the bundle
verifies for the time of the delivery exactly if a call chain was delivered. -/
theorem delivered_bundle_clean_iff (opened : Escrow) (before later : List Call) (delivery : Call) (receipt : Receipt)
    (chain : Option CallChain) (delivers : Delivers (run step opened before) delivery receipt chain) (outputRef : Json) :
    ∃ bundle, (run step opened (before ++ delivery :: later)).bundle outputRef = .ok bundle ∧
      (verifyBundle bundle delivery.time = .ok [] ↔ chain.isSome = true) := by
  rw [run_append]
  exact delivers.bundle_clean_iff later outputRef

end Bundles

/-! ### A drawing, delivered with and without its calls -/

section Drawing

attribute [local instance] drawingHost drawingPackages

def drawingEscrow : Escrow :=
  Escrow.to_ { task := drawingTask 5 } .open_ (.int 1) "funds committed" 50

def drawingDelivery (chain : Option CallChain) : Call := ⟨.deliver bobReceipt chain, some 100, 0⟩

def drawingAccepted : Call := ⟨.accept (.int 1), some 101, 0⟩

theorem drawing_delivers {chain : Option CallChain} (evidence : bobReceipt.chainProblems chain = .ok []) :
    Delivers drawingEscrow (drawingDelivery chain) bobReceipt chain := by
  refine ⟨rfl, rfl, rfl, ?_⟩
  exact verifyReceipt_nil.mpr ⟨drawing_committed 5 _ bobSignature, evidence, bob_signed, rfl⟩

theorem delivered_bundle_clean_drawing :
    ∃ bundle, (run step drawingEscrow ([] ++ drawingDelivery (some drawingChain) :: [drawingAccepted])).bundle (.str "") =
        .ok bundle ∧ verifyBundle bundle 100 = .ok [] := by
  have delivers := drawing_delivers (drawing_chained 5 _ bobSignature)
  obtain ⟨bundle, bundled, clean⟩ :=
    delivered_bundle_clean_iff drawingEscrow [] [drawingAccepted] _ bobReceipt _ delivers (.str "")
  exact ⟨bundle, bundled, clean.mpr rfl⟩

/-- Funds are released for a delivery without calls, on which the auditor reports. -/
theorem drawing_released_unevidenced :
    openEscrow (drawingTask 5) (.int 0) (.int 0) 50 = .ok drawingEscrow ∧
    (run step drawingEscrow [drawingDelivery none, drawingAccepted]).state = .released ∧
    ∃ bundle, (run step drawingEscrow [drawingDelivery none, drawingAccepted]).bundle (.str "") = .ok bundle ∧
      verifyBundle bundle 100 ≠ .ok [] := by
  have noChain : bobReceipt.chainProblems none = .ok [] := rfl
  have delivers := drawing_delivers noChain
  refine ⟨rfl, ?_, ?_⟩
  · rw [run_cons, delivers.step_eq]
    rfl
  · obtain ⟨bundle, bundled, clean⟩ := delivers.bundle_clean_iff [drawingAccepted] (.str "")
    refine ⟨bundle, bundled, ?_⟩
    intro problems
    cases clean.mp problems

end Drawing

end Xcp.Receipts
