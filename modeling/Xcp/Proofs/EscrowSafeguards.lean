import Xcp.Proofs.EscrowRelease

/-! What protects the two parties of an escrow: the designated arbiter, and the
time that a payer has before a delivery is accepted for it. -/

namespace Xcp.Receipts
open Checked Python Eth Transition

/-! ### Rulings -/

/-- Without an arbiter the first ruling on a dispute stands, whoever makes it. -/
theorem resolve_undesignated {escrow : Escrow} (undesignated : escrow.arbiterAgent.truthy = false)
    (disputed : escrow.state = .disputed) (arbiterAgent : Json) (release : Bool) (text : String) (now : Int) :
    (escrow.resolve arbiterAgent release text now).2 = .ok () := by
  simp [Escrow.resolve, undesignated, disputed]

/-- A ruling that stands was made on a dispute, by the arbiter if there is one. -/
theorem resolve_ok {escrow : Escrow} {arbiterAgent : Json} {release : Bool} {text : String} {now : Int}
    (ruled : (escrow.resolve arbiterAgent release text now).2 = .ok ()) :
    escrow.state = .disputed ∧ (escrow.arbiterAgent.truthy = true → arbiterAgent.same escrow.arbiterAgent = true) := by
  unfold Escrow.resolve at ruled
  split at ruled
  · cases ruled
  next disputed =>
    split at ruled
    · cases ruled
    next designated =>
      exact ⟨not_not.mp disputed, by simpa using designated⟩

/-- Nobody rules on a dispute that has no arbiter. -/
def Presided (escrow : Escrow) (made : Call) : Prop :=
  escrow.arbiterAgent.truthy = false → escrow.state = .disputed →
    ∀ arbiterAgent release text, made.operation ≠ .resolve arbiterAgent release text

section Rulings
variable [Host] [Packages]

/-- A dispute is decided by the designated arbiter, and by nobody where there is none. -/
structure Arbitrated (escrow : Escrow) (made : Call) : Prop where
  ruler : ∀ arbiterAgent release text, made.operation = .resolve arbiterAgent release text →
    (call escrow made).2 = .ok () → escrow.arbiterAgent.truthy = true ∧ arbiterAgent.same escrow.arbiterAgent = true
  unruled : escrow.arbiterAgent.truthy = false → escrow.state = .disputed →
    (step escrow made).state ≠ .released ∧ (step escrow made).state ≠ .refunded

/-- Only a ruling ends a dispute. -/
theorem Moved.disputed_stays {escrow after : Escrow} {made : Call} (moved : Moved escrow made after)
    (disputed : escrow.state = .disputed)
    (unruled : ∀ arbiterAgent release text, made.operation ≠ .resolve arbiterAgent release text) :
    after.state = .disputed := by
  cases moved with
  | kept => exact disputed
  | delivered delivers => simp [delivers.state] at disputed
  | late late => simp [late.state] at disputed
  | accepted accepts => simp [accepts.state] at disputed
  | elapsed elapses => simp [elapses.state] at disputed
  | disputed => rfl
  | ruled rules =>
    obtain ⟨arbiterAgent, text, ruling, _⟩ := rules.arbiter
    exact absurd ruling (unruled arbiterAgent _ text)
  | expired expires => simp [expires.state] at disputed

theorem arbitrated_step_iff (escrow : Escrow) (made : Call) : Arbitrated escrow made ↔ Presided escrow made := by
  constructor
  · intro arbitrated undesignated disputed arbiterAgent release text ruling
    have stands : (call escrow made).2 = .ok () := by
      simp only [call, ruling]
      exact resolve_undesignated undesignated disputed arbiterAgent release text made.time
    have designated := (arbitrated.ruler arbiterAgent release text ruling stands).1
    simp [undesignated] at designated
  · intro presided
    refine ⟨?_, ?_⟩
    · intro arbiterAgent release text ruling stands
      simp only [call, ruling] at stands
      obtain ⟨disputed, arbiter⟩ := resolve_ok stands
      cases designated : escrow.arbiterAgent.truthy with
      | true => exact ⟨rfl, arbiter designated⟩
      | false => exact absurd ruling (presided designated disputed arbiterAgent release text)
    · intro undesignated disputed
      rw [(step_moved escrow made).disputed_stays disputed (presided undesignated disputed)]
      constructor <;> intro fate <;> cases fate

/-- Disputes are decided by the arbiter alone exactly in the runs in which nobody
rules on a dispute that has none, and so in every run of an escrow with an arbiter. -/
theorem arbiter_only_iff (opened : Escrow) (calls : List Call) :
    (Meets step Arbitrated opened calls ↔ Meets step Presided opened calls) ∧
    (opened.arbiterAgent.truthy = true → Meets step Arbitrated opened calls) := by
  refine ⟨⟨Meets.mono fun escrow made => (arbitrated_step_iff escrow made).mp,
    Meets.mono fun escrow made => (arbitrated_step_iff escrow made).mpr⟩, ?_⟩
  intro designated
  have keeps : ∀ escrow made, escrow.arbiterAgent.truthy = true →
      (step escrow made).arbiterAgent.truthy = true ∧ Arbitrated escrow made := by
    intro escrow made designated
    have terms : Terms escrow (step escrow made) := (step_moved escrow made).terms ⟨rfl, rfl, rfl⟩
    refine ⟨terms.arbiterAgent ▸ designated, (arbitrated_step_iff escrow made).mpr ?_⟩
    intro undesignated
    simp [designated] at undesignated
  exact Meets.of_invariant keeps designated calls

end Rulings

/-! ### The payer's time -/

/-- A tick releases no delivery before its timeout, counted from the time at which
the delivery was recorded. -/
def KeepsWindow [Host] [Packages] (escrow : Escrow) (made : Call) : Prop :=
  made.operation = .tick → escrow.state ≠ .released → (step escrow made).state = .released →
    ∀ seconds, escrow.autoAcceptAfter = .int seconds →
      ∀ event ∈ escrow.history, event.state = .delivered → event.at_ + seconds ≤ made.time

/-- Counted from the time that a receipt states, its timeout is not over a second
before it is when counted from the given time. -/
def Dated [Host] (receipt : Receipt) (seconds time : Int) : Prop :=
  ∀ due, receipt.deliveredAt.add (.int seconds) = .ok due → (Json.int (time + seconds - 1)).ge due ≠ .ok true

theorem dated_int [Host] {receipt : Receipt} {stated : Int} (whole : receipt.deliveredAt = .int stated) (seconds time : Int) :
    Dated receipt seconds time ↔ time ≤ stated := by
  have sum : receipt.deliveredAt.add (.int seconds) = .ok (.int (stated + seconds)) := by rw [whole]; rfl
  simp only [Dated, sum, Except.ok.injEq, forall_eq', Json.int_ge_int, ne_eq, decide_eq_true_eq]
  omega

theorem finite_le_finite {first second : Rat} : (Double.finite first).le (.finite second) = true ↔ first ≤ second := by
  simp [Double.le, Double.lt, le_iff_lt_or_eq]

/-- What is due is so at any later time. -/
theorem ge_later {first second : Int} {due : Json} (later : first ≤ second) (past : (Json.int first).ge due = .ok true) :
    (Json.int second).ge due = .ok true := by
  obtain ⟨time, bound, read, known, below⟩ := Json.compare_eq_ok.mp past
  obtain rfl : Double.finite first = time := Option.some.inj read
  refine Json.compare_eq_ok.mpr ⟨.finite second, bound, rfl, known, ?_⟩
  cases bound with
  | nan => exact absurd below (by simp [Double.le, Double.lt])
  | infinite negative => simpa [Double.le, Double.lt] using below
  | finite value => exact finite_le_finite.mpr ((finite_le_finite.mp below).trans (Int.cast_le.mpr later))

theorem Moved.opened [Host] [Packages] {escrow after : Escrow} {made : Call} (moved : Moved escrow made after)
    (stillOpen : after.state = .open_) : escrow.state = .open_ := by
  cases moved with
  | kept => exact stillOpen
  | delivered => cases stillOpen
  | late => cases stillOpen
  | accepted => cases stillOpen
  | elapsed => cases stillOpen
  | disputed => cases stillOpen
  | @ruled release => cases release <;> cases stillOpen
  | expired => cases stillOpen

/-- The deliveries that an escrow has recorded. -/
def Escrow.deliveries (escrow : Escrow) : List Event := escrow.history.filter (·.state = .delivered)

@[simp] theorem deliveries_to (escrow : Escrow) {state : State} (other : state ≠ .delivered) (actor : Json) (text : String)
    (now : Int) : (escrow.to_ state actor text now).deliveries = escrow.deliveries := by
  simp [Escrow.deliveries, Escrow.to_, other]

theorem deliveries_note (escrow : Escrow) {event : Event} (other : event.state ≠ .delivered) :
    (escrow.note event).deliveries = escrow.deliveries := by
  simp [Escrow.deliveries, Escrow.note, other]

theorem accept_deliveries (escrow : Escrow) (payerAgent : Json) (now : Int) :
    (escrow.accept payerAgent now).1.deliveries = escrow.deliveries := by
  unfold Escrow.accept
  split_ifs <;> simp

theorem dispute_deliveries (escrow : Escrow) (payerAgent : Json) (reason : String) (now : Int) :
    (escrow.dispute payerAgent reason now).1.deliveries = escrow.deliveries := by
  unfold Escrow.dispute
  split_ifs <;> simp

theorem resolve_deliveries (escrow : Escrow) (arbiterAgent : Json) (release : Bool) (text : String) (now : Int) :
    (escrow.resolve arbiterAgent release text now).1.deliveries = escrow.deliveries := by
  unfold Escrow.resolve
  split
  · rfl
  · split
    · rfl
    · have ruled : (if release then State.released else .refunded) ≠ .delivered := by cases release <;> decide
      exact deliveries_to { escrow with resolution := text } ruled _ _ _

section Window
variable [Host] [Packages]

/-- A payee dates no delivery before it delivers. -/
def DatesDelivery (escrow : Escrow) (made : Call) : Prop :=
  ∀ receipt chain seconds, Delivers escrow made receipt chain → escrow.autoAcceptAfter = .int seconds →
    Dated receipt seconds made.time

theorem deliver_deliveries (escrow : Escrow) (receipt : Receipt) (chain : Option CallChain) (now : Int) :
    (escrow.deliver receipt chain now).1.deliveries = escrow.deliveries ∨
      escrow.state = .open_ ∧ InTime escrow.task (.int now) ∧ verifyReceipt receipt escrow.task chain "" now = .ok [] := by
  unfold Escrow.deliver
  split
  · exact .inl rfl
  next isOpen =>
    split
    · exact .inl rfl
    · exact .inl (deliveries_to escrow (by decide) _ _ _)
    next inTime =>
      split
      · exact .inl rfl
      next verified => exact .inr ⟨not_not.mp isOpen, inTime, verified⟩
      · exact .inl (deliveries_note escrow (by simp))

omit [Packages] in
theorem tick_deliveries (escrow : Escrow) (now : Int) : (escrow.tick now).1.deliveries = escrow.deliveries := by
  unfold Escrow.tick
  split
  · rfl
  · split
    · rfl
    · simp
    · split
      · rfl
      · simp
      · rfl

omit [Packages] in
theorem tick_released {escrow : Escrow} {now : Int} (timedOut : escrow.timedOut now = .ok true) :
    (escrow.tick now).1.state = .released := by
  have delivered := (timedOut_true timedOut).1
  simp [Escrow.tick, delivered, State.terminal, andThen, timedOut]

/-- A call leaves the record of the deliveries alone, or is one. -/
theorem step_deliveries (escrow : Escrow) (made : Call) :
    (step escrow made).deliveries = escrow.deliveries ∨ ∃ receipt chain, Delivers escrow made receipt chain := by
  obtain ⟨operation, now, clock⟩ := made
  cases operation with
  | deliver receipt chain =>
    obtain same | ⟨isOpen, inTime, verified⟩ := deliver_deliveries escrow receipt chain (orClock now clock)
    · exact .inl same
    · exact .inr ⟨receipt, chain, rfl, isOpen, inTime, verified⟩
  | accept payerAgent => exact .inl (accept_deliveries escrow payerAgent _)
  | dispute payerAgent reason => exact .inl (dispute_deliveries escrow payerAgent reason _)
  | resolve arbiterAgent release text => exact .inl (resolve_deliveries escrow arbiterAgent release text _)
  | tick => exact .inl (tick_deliveries escrow _)

/-- The timeout of an escrow and, once there is a delivery, how its receipt is
dated beside the record of it. -/
structure Windowed (seconds : Int) (escrow : Escrow) : Prop where
  timeout : escrow.autoAcceptAfter = .int seconds
  unrecorded : escrow.state = .open_ → escrow.deliveries = []
  dated : escrow.state = .delivered →
    ∃ receipt, escrow.receipt = some receipt ∧ ∀ event ∈ escrow.deliveries, Dated receipt seconds event.at_

variable {seconds : Int}

theorem Windowed.next {escrow : Escrow} {made : Call} (windowed : Windowed seconds escrow)
    (dates : DatesDelivery escrow made) : Windowed seconds (step escrow made) := by
  have terms : Terms escrow (step escrow made) := (step_moved escrow made).terms ⟨rfl, rfl, rfl⟩
  obtain same | ⟨receipt, chain, delivers⟩ := step_deliveries escrow made
  · refine ⟨terms.autoAcceptAfter.trans windowed.timeout, ?_, ?_⟩
    · intro stillOpen
      rw [same]
      exact windowed.unrecorded ((step_moved escrow made).opened stillOpen)
    · intro delivered
      rw [same]
      have moved := step_moved escrow made
      generalize step escrow made = after at moved delivered
      cases moved with
      | kept => exact windowed.dated delivered
      | @delivered receipt chain delivers => exact ⟨receipt, rfl, by simp [windowed.unrecorded delivers.state]⟩
      | late => cases delivered
      | accepted => cases delivered
      | elapsed => cases delivered
      | disputed => cases delivered
      | @ruled release => cases release <;> cases delivered
      | expired => cases delivered
  · refine ⟨terms.autoAcceptAfter.trans windowed.timeout, by simp [delivers.step_eq], ?_⟩
    intro _
    have recorded : (step escrow made).deliveries =
        [{ at_ := made.time, state := .delivered, actor := escrow.task.payeeAgent, note := "receipt verified" }] := by
      have empty := windowed.unrecorded delivers.state
      simp only [Escrow.deliveries] at empty
      simp [delivers.step_eq, Escrow.deliveries, Escrow.to_, empty]
    refine ⟨receipt, by rw [delivers.step_eq]; rfl, ?_⟩
    intro event among
    rw [recorded, List.mem_singleton] at among
    rw [among]
    exact dates receipt chain seconds delivers windowed.timeout

theorem Windowed.keeps {escrow : Escrow} (windowed : Windowed seconds escrow) (made : Call) : KeepsWindow escrow made := by
  intro ticking before after seconds' timeout event recorded delivered
  obtain rfl : seconds = seconds' := Json.int.inj (windowed.timeout.symm.trans timeout)
  have moved := step_moved escrow made
  generalize step escrow made = released at moved after
  cases moved with
  | kept => exact absurd after before
  | delivered => cases after
  | late => cases after
  | accepted accepts =>
    obtain ⟨_, accepting, _⟩ := accepts.payer
    cases ticking.symm.trans accepting
  | @elapsed receipt elapses =>
    obtain ⟨other, held, dated⟩ := windowed.dated elapses.state
    obtain rfl : receipt = other := Option.some.inj (elapses.held.symm.trans held)
    obtain ⟨due, sum, past⟩ := elapses.due
    rw [windowed.timeout] at sum
    by_contra early
    have sooner : made.time ≤ event.at_ + seconds - 1 := by omega
    exact dated event (List.mem_filter.mpr ⟨recorded, by simp [delivered]⟩) due sum (ge_later sooner past)
  | disputed => cases after
  | ruled rules =>
    obtain ⟨_, _, ruling, _⟩ := rules.arbiter
    cases ticking.symm.trans ruling
  | expired => cases after

omit [Packages] in
theorem openEscrow_windowed {task : TaskSpec} {arbiterAgent : Json} {now : Int} {opened : Escrow}
    (opening : openEscrow task (.int seconds) arbiterAgent now = .ok opened) : Windowed seconds opened := by
  simp only [openEscrow, bind_eq_ok, require_eq_ok, pure_eq_ok] at opening
  obtain ⟨_, _, _, _, _, _, _, _, rfl⟩ := opening
  refine ⟨rfl, fun _ => rfl, ?_⟩
  intro delivered
  cases delivered

/-- A second before the payer's time is over, as it should be counted. -/
def hasty (seconds : Int) (delivery : Call) : Call := ⟨.tick, none, delivery.time + seconds - 1⟩

/-- After a delivery that is dated back such a tick releases the funds. -/
theorem Delivers.released {escrow : Escrow} {delivery : Call} {receipt : Receipt} {chain : Option CallChain}
    (delivers : Delivers escrow delivery receipt chain) (timeout : escrow.autoAcceptAfter = .int seconds)
    (positive : 0 < seconds) (undated : ¬ Dated receipt seconds delivery.time) :
    ¬ KeepsWindow (step escrow delivery) (hasty seconds delivery) := by
  simp only [Dated, not_forall, not_not] at undated
  obtain ⟨due, sum, past⟩ := undated
  have elapsed : (step escrow delivery).timedOut (hasty seconds delivery).time = .ok true := by
    have enabled : escrow.autoAcceptAfter.truthy = true := by
      rw [timeout]
      exact decide_eq_true positive.ne'
    have due : (do
        let due ← receipt.deliveredAt.add escrow.autoAcceptAfter
        (Json.int (hasty seconds delivery).time).ge due) = .ok true := by
      rw [timeout, sum]
      exact past
    rw [delivers.step_eq]
    simp only [Escrow.timedOut, Escrow.to_, enabled, due, decide_true, Bool.and_self, andThen, if_true]
  have released : (step (step escrow delivery) (hasty seconds delivery)).state = .released := tick_released elapsed
  intro keeps
  have kept := keeps rfl (by simp [delivers.step_eq]) released seconds (by rw [delivers.step_eq]; exact timeout)
    { at_ := delivery.time, state := .delivered, actor := escrow.task.payeeAgent, note := "receipt verified" }
    (by simp [delivers.step_eq, Escrow.to_]) rfl
  simp only [hasty, Call.time, orClock] at kept
  omega

/-- The payer of an escrow has its time in every run whose deliveries are not
dated back. After one that is, a tick within that time releases the funds. -/
theorem window_kept {task : TaskSpec} {arbiterAgent : Json} {now : Int} {opened : Escrow}
    (opening : openEscrow task (.int seconds) arbiterAgent now = .ok opened) (positive : 0 < seconds) :
    (∀ calls, Meets step DatesDelivery opened calls → Meets step KeepsWindow opened calls) ∧
    (∀ calls delivery receipt chain, Delivers (run step opened calls) delivery receipt chain →
      ¬ Dated receipt seconds delivery.time →
      delivery.time ≤ (hasty seconds delivery).time ∧
        ¬ Meets step KeepsWindow opened (calls ++ [delivery, hasty seconds delivery])) := by
  have windowed := openEscrow_windowed opening
  constructor
  · intro calls dates
    exact dates.of_held (fun escrow made windowed dates => ⟨windowed.next dates, windowed.keeps made⟩) windowed
  · intro calls delivery receipt chain delivers undated
    have terms : Terms opened (run step opened calls) :=
      run_invariant (fun escrow made => (step_moved escrow made).terms) ⟨rfl, rfl, rfl⟩ calls
    refine ⟨by simp only [hasty, Call.time, orClock]; omega, ?_⟩
    intro keeps
    obtain ⟨_, _, late, _⟩ := Meets.append.mp keeps
    exact delivers.released (terms.autoAcceptAfter.trans windowed.timeout) positive undated late

end Window

section Logo
attribute [local instance] logoHost logoPackages

def disputedCalls : List Call :=
  [⟨.deliver (logoReceipt "0x07") none, some 95, 0⟩, ⟨.dispute (.int 1) "smudged", some 96, 0⟩,
    ⟨.resolve (.int 2) true "mine", some 97, 0⟩]

theorem arbiter_only_designated :
    Meets step Arbitrated { logoEscrow with arbiterAgent := .int 3 } disputedCalls :=
  (arbiter_only_iff _ disputedCalls).2 rfl

/-- The payee rules for itself. -/
theorem payee_rules : ¬ Meets step Arbitrated logoEscrow disputedCalls := by
  rintro ⟨_, _, arbitrated, _⟩
  have undecided := (arbitrated.unruled (by decide) (by decide)).1
  exact undecided (by decide)

/-! A minute for the payer, and a delivery at 95 that says it was made at 30. -/

def timedEscrow : Escrow := { logoEscrow with autoAcceptAfter := .int 60 }

def backdated : Receipt := { logoReceipt "0x07" with deliveredAt := .int 30 }

theorem timedEscrow_opens : openEscrow logoTask (.int 60) (.int 0) 50 = .ok timedEscrow := rfl

def promptCalls : List Call := [⟨.deliver (logoReceipt "0x07") none, some 90, 0⟩, ⟨.tick, some 149, 0⟩, ⟨.tick, some 150, 0⟩]

theorem window_kept_logo : Meets step KeepsWindow timedEscrow promptCalls := by
  apply (window_kept timedEscrow_opens (by decide)).1 promptCalls
  refine ⟨?_, ?_, ?_, trivial⟩
  · intro receipt chain seconds delivers _
    obtain ⟨rfl, _⟩ := Operation.deliver.inj delivers.operation
    exact (dated_int rfl seconds 90).mpr le_rfl
  · intro receipt chain seconds delivers
    cases delivers.operation
  · intro receipt chain seconds delivers
    cases delivers.operation

theorem backdated_released_early :
    ¬ Meets step KeepsWindow timedEscrow [⟨.deliver backdated none, some 95, 0⟩, ⟨.tick, some 95, 0⟩] := by
  rintro ⟨_, keeps, _⟩
  have kept := keeps rfl (by decide) (by decide) 60 rfl
    { at_ := 95, state := .delivered, actor := .int 2, note := "receipt verified" } (List.mem_of_getElem? (i := 1) rfl) rfl
  exact absurd kept (by decide)

end Logo

end Xcp.Receipts
