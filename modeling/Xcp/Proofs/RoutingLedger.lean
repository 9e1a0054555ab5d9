import Xcp.Federation.Ledger

/-! What a committed epoch says. Its receipts are final and each of them can be
disclosed, as long as no receipt is filed under an epoch that its payer did not
sign. A double claim is provable against any two commitments of one node. -/

namespace Xcp.Transport
open Checked Python Eth Transition

/-- No two receipts, in one epoch or in two, are for one route. -/
def BillsOnce (ledger : RoutingLedger) : Prop :=
  ∀ epoch epoch' receipt receipt', receipt ∈ ledger.held epoch → receipt' ∈ ledger.held epoch' →
    receipt.routeId = receipt'.routeId → epoch = epoch' ∧ receipt = receipt'

section Filing

variable (ledger : RoutingLedger) (receipt : TransportReceipt) (epoch : Int)

theorem held_file (other : Int) :
    (ledger.file receipt epoch).held other =
      if other = epoch then ledger.held epoch ++ [{ receipt with epoch }] else ledger.held other := by
  simp only [RoutingLedger.held, RoutingLedger.file, Dict.get?_set]
  split
  · rfl
  · rfl

theorem mem_held_file {other : Int} {filed : TransportReceipt} :
    filed ∈ (ledger.file receipt epoch).held other ↔
      filed ∈ ledger.held other ∨ other = epoch ∧ filed = { receipt with epoch } := by
  rw [held_file]
  split
  next same => simp [same]
  next different => simp [different]

end Filing

/-- What is true of a ledger whatever it records. -/
structure Books (ledger : RoutingLedger) : Prop where
  claimed : ∀ epoch, ∀ receipt ∈ ledger.held epoch, receipt.routeId ∈ ledger.claimedRoutes
  once : BillsOnce ledger
  named : ∀ epoch commitment, ledger.committed.get? epoch = some commitment → commitment.epoch = epoch

theorem Books.file {ledger : RoutingLedger} {receipt : TransportReceipt} (books : Books ledger)
    (unclaimed : receipt.routeId ∉ ledger.claimedRoutes) (epoch : Int) : Books (ledger.file receipt epoch) where
  claimed := by
    intro other filed member
    simp only [RoutingLedger.file, List.mem_append, List.mem_singleton]
    rcases (mem_held_file ledger receipt epoch).mp member with before | ⟨_, rfl⟩
    · exact .inl (books.claimed other filed before)
    · exact .inr rfl
  once := by
    intro first second old new memberOld memberNew same
    rcases (mem_held_file ledger receipt epoch).mp memberOld with oldBefore | ⟨rfl, rfl⟩
    · rcases (mem_held_file ledger receipt epoch).mp memberNew with newBefore | ⟨rfl, rfl⟩
      · exact books.once first second old new oldBefore newBefore same
      · exact absurd (same ▸ books.claimed first old oldBefore) unclaimed
    · rcases (mem_held_file ledger receipt first).mp memberNew with newBefore | ⟨rfl, rfl⟩
      · exact absurd (same ▸ books.claimed second new newBefore) unclaimed
      · exact ⟨rfl, rfl⟩
  named := books.named

theorem books_fresh (nodeId : String) (chainId : Int) : Books { nodeId, chainId } where
  claimed := by simp [RoutingLedger.held, Dict.get?, Dict.look]
  once := by simp [BillsOnce, RoutingLedger.held, Dict.get?, Dict.look]
  named := by simp [Dict.get?, Dict.look]

section Ledger
variable [Host] [Packages]

/-- What a receipt passes before it is recorded. -/
structure Accepts (ledger : RoutingLedger) (receipt : TransportReceipt) : Prop where
  verified : verifyReceipt receipt ledger.chainId ledger.nodeId = []
  unclaimed : receipt.routeId ∉ ledger.claimedRoutes
  uncommitted : ledger.committed.get? receipt.epoch = none

structure Closes (ledger : RoutingLedger) (epoch : Int) (commitment : EpochCommitment) : Prop where
  named : commitment.epoch = epoch
  rooted : merkleRoot (ledger.leaves epoch) = .ok commitment.root
  uncommitted : ledger.committed.get? epoch = none

/-- What a call did, by the ledger that it left. -/
inductive Stepped (ledger : RoutingLedger) : Call → RoutingLedger → Prop where
  | kept (made : Call) : Stepped ledger made ledger
  | recorded {receipt clock} (accepts : Accepts ledger receipt) :
    Stepped ledger (.record receipt clock) (ledger.file receipt (filedUnder receipt clock))
  | committed {epoch bucket commitment} (closes : Closes ledger epoch commitment) :
    Stepped ledger (.commit epoch bucket) { ledger with committed := ledger.committed.set epoch commitment }

theorem record_stepped (ledger : RoutingLedger) (receipt : TransportReceipt) (clock : Int) :
    Stepped ledger (.record receipt clock) (ledger.record receipt clock).1 := by
  unfold RoutingLedger.record
  split
  · exact .kept _
  next verified =>
    split
    · exact .kept _
    next unclaimed =>
      split
      · exact .kept _
      next uncommitted =>
        exact .recorded ⟨verified, by simpa using unclaimed, by simpa using uncommitted⟩

theorem commit_closes {ledger after : RoutingLedger} {epoch bucket : Int} {commitment : EpochCommitment}
    (done : ledger.commit epoch bucket = .ok (after, commitment)) :
    Closes ledger epoch commitment ∧ after = { ledger with committed := ledger.committed.set epoch commitment } := by
  unfold RoutingLedger.commit at done
  split at done
  · cases done
  · split at done
    · cases done
    next uncommitted =>
      simp only [bind_eq_ok, pure_eq_ok, Prod.mk.injEq] at done
      obtain ⟨root, built, rfl, rfl⟩ := done
      exact ⟨⟨rfl, built, by simpa using uncommitted⟩, rfl⟩

theorem step_stepped (ledger : RoutingLedger) (made : Call) : Stepped ledger made (step ledger made) := by
  cases made with
  | record receipt clock => exact record_stepped ledger receipt clock
  | commit epoch bucket =>
    simp only [step]
    rcases settle_fst_cases ledger (ledger.commit epoch bucket) with ⟨after, commitment, done, settled⟩ | same
    · obtain ⟨closes, rfl⟩ := commit_closes done
      rw [settled]
      exact .committed closes
    · rw [same]
      exact .kept _

/-! ### Every run -/

theorem Stepped.chainId {ledger after : RoutingLedger} {made : Call} (stepped : Stepped ledger made after) :
    after.chainId = ledger.chainId := by
  cases stepped <;> rfl

theorem Stepped.books {ledger after : RoutingLedger} {made : Call} (stepped : Stepped ledger made after)
    (books : Books ledger) : Books after := by
  cases stepped with
  | kept => exact books
  | recorded accepts => exact books.file accepts.unclaimed _
  | @committed epoch bucket commitment closes =>
    refine ⟨books.claimed, books.once, ?_⟩
    intro other found held
    rcases Dict.get?_set_eq_some held with ⟨rfl, rfl⟩ | before
    · exact closes.named
    · exact books.named other found before

theorem run_books (nodeId : String) (chainId : Int) (calls : List Call) :
    Books (run step { nodeId, chainId } calls) :=
  run_invariant (fun ledger made => (step_stepped ledger made).books) (books_fresh nodeId chainId) calls

/-! ### Finality -/

/-- The payer's key signed what is billed. -/
def PayerSigned (chainId : Int) (receipt : TransportReceipt) : Prop :=
  ∃ recovered, signer receipt.billablePayload chainId (.str receipt.signature) = .ok recovered ∧
    lower recovered = lower receipt.payerAddress

def CallSigned (chainId : Int) : Call → Prop
  | .record receipt _ => PayerSigned chainId receipt
  | .commit _ _ => True

/-- The call files a receipt under another epoch than the one that its payer signed. -/
def Refiles (ledger : RoutingLedger) : Call → Prop
  | .record receipt clock => Accepts ledger receipt ∧ receipt.epoch = 0 ∧ epochOf clock ≠ 0
  | .commit _ _ => False

/-- What is true of a ledger that files every receipt as it was signed. -/
structure Kept (ledger : RoutingLedger) : Prop where
  signed : ∀ epoch, ∀ receipt ∈ ledger.held epoch, PayerSigned ledger.chainId receipt
  rooted : ∀ epoch commitment, ledger.committed.get? epoch = some commitment →
    merkleRoot (ledger.leaves epoch) = .ok commitment.root

theorem filedUnder_of_not_refiles {ledger : RoutingLedger} {receipt : TransportReceipt} {clock : Int}
    (accepts : Accepts ledger receipt) (straight : ¬ Refiles ledger (.record receipt clock)) :
    filedUnder receipt clock = receipt.epoch := by
  unfold filedUnder
  split
  next undated =>
    by_contra other
    exact straight ⟨accepts, undated, fun zero => other (zero.trans undated.symm)⟩
  next => rfl

theorem held_file_of_committed {ledger : RoutingLedger} {receipt : TransportReceipt} (accepts : Accepts ledger receipt)
    {epoch : Int} {commitment : EpochCommitment} (closed : ledger.committed.get? epoch = some commitment) :
    (ledger.file receipt receipt.epoch).held epoch = ledger.held epoch := by
  rw [held_file, if_neg]
  rintro rfl
  simp [accepts.uncommitted] at closed

theorem Stepped.filed {ledger after : RoutingLedger} {made : Call} (stepped : Stepped ledger made after)
    (signed : CallSigned ledger.chainId made) (straight : ¬ Refiles ledger made) (kept : Kept ledger) : Kept after := by
  cases stepped with
  | kept => exact kept
  | @recorded receipt clock accepts =>
    rw [filedUnder_of_not_refiles accepts straight]
    refine ⟨?_, ?_⟩
    · intro epoch filed member
      rcases (mem_held_file ..).mp member with before | ⟨_, rfl⟩
      · exact kept.signed epoch filed before
      · exact signed
    · intro epoch commitment closed
      have same := held_file_of_committed accepts closed
      simpa only [RoutingLedger.leaves, same] using kept.rooted epoch commitment closed
  | @committed epoch bucket commitment closes =>
    refine ⟨kept.signed, ?_⟩
    intro other found held
    rcases Dict.get?_set_eq_some held with ⟨rfl, rfl⟩ | before
    · exact closes.rooted
    · exact kept.rooted other found before

theorem kept_fresh (nodeId : String) (chainId : Int) : Kept { nodeId, chainId } where
  signed := by simp [RoutingLedger.held, Dict.get?, Dict.look]
  rooted := by simp [Dict.get?, Dict.look]

structure Closed (epoch : Int) (commitment : EpochCommitment) (receipts : List TransportReceipt)
    (ledger : RoutingLedger) : Prop where
  committed : ledger.committed.get? epoch = some commitment
  held : ledger.held epoch = receipts

theorem Stepped.closed {ledger after : RoutingLedger} {made : Call} (stepped : Stepped ledger made after)
    (straight : ¬ Refiles ledger made) {epoch : Int} {commitment : EpochCommitment} {receipts : List TransportReceipt}
    (closed : Closed epoch commitment receipts ledger) : Closed epoch commitment receipts after := by
  cases stepped with
  | kept => exact closed
  | @recorded receipt clock accepts =>
    rw [filedUnder_of_not_refiles accepts straight]
    exact ⟨closed.committed, (held_file_of_committed accepts closed.committed).trans closed.held⟩
  | @committed other bucket found closes =>
    refine ⟨?_, closed.held⟩
    have different : epoch ≠ other := by
      rintro rfl
      simpa [closes.uncommitted] using closed.committed
    simpa [different] using closed.committed

/-! ### Disclosures -/

/-- A receipt is disclosed under the committed root, and no proof of fraud
holds against the disclosure. -/
def Vindicated (ledger : RoutingLedger) (epoch : Int) (commitment : EpochCommitment) (receipt : TransportReceipt) :
    Prop :=
  ∃ disclosure, ledger.prove epoch receipt.routeId = .ok disclosure ∧
    disclosure.item "receipt" = .ok receipt.billablePayload ∧
    disclosure.item "root" = .ok (.str commitment.root) ∧
    proveBadSignature disclosure ledger.chainId = .ok false ∧ proveNotInTree disclosure = .ok false

theorem Kept.vindicated {ledger : RoutingLedger} (books : Books ledger) (kept : Kept ledger) {epoch : Int}
    {commitment : EpochCommitment} (closed : ledger.committed.get? epoch = some commitment)
    {receipt : TransportReceipt} (member : receipt ∈ ledger.held epoch) :
    Vindicated ledger epoch commitment receipt := by
  obtain ⟨target, found⟩ : ∃ target,
      (ledger.held epoch).find? (fun other => other.routeId = receipt.routeId) = some target := by
    rw [← Option.isSome_iff_exists, List.find?_isSome]
    exact ⟨receipt, member, by simp⟩
  -- what is disclosed is the first receipt for the route, and there is no other one
  obtain rfl : target = receipt := by
    have inside := List.mem_of_find?_eq_some found
    have route := List.find?_some found
    exact (books.once epoch epoch target receipt inside member (by simpa using route)).2
  have built := kept.rooted epoch commitment closed
  have leaf : target.leaf ∈ ledger.leaves epoch := List.mem_map_of_mem member
  obtain ⟨proof, proved, climbs⟩ := merkleProof_climbs built leaf
  obtain ⟨recovered, signed, address⟩ := kept.signed epoch target member
  refine ⟨_, by simp only [RoutingLedger.prove, found, proved, built, ok_bind]; rfl, rfl, rfl, ?_, ?_⟩
  · simp only [signer, bind_eq_ok] at signed
    obtain ⟨signable, encoded, recovers⟩ := signed
    simp [proveBadSignature, Json.item, Json.find?, Json.get, Json.toStr, ok_bind, encoded, recovers, address]
  · simp [proveNotInTree, Json.item, Json.find?, ok_bind, verifyProof_of_climb climbs]

/-- As long as every receipt is filed under the epoch that its payer signed, a
committed epoch keeps its receipts, and all of them can be disclosed. -/
theorem commitments_final (nodeId : String) (chainId : Int) {calls : List Call}
    (signed : ∀ made ∈ calls, CallSigned chainId made)
    (straight : Meets step (fun ledger made => ¬ Refiles ledger made) { nodeId, chainId } calls) :
    (∀ past later, calls = past ++ later →
      ∀ epoch commitment, (run step { nodeId, chainId } past).committed.get? epoch = some commitment →
        (run step { nodeId, chainId } calls).committed.get? epoch = some commitment ∧
        (run step { nodeId, chainId } calls).held epoch = (run step { nodeId, chainId } past).held epoch) ∧
    ∀ epoch commitment, (run step { nodeId, chainId } calls).committed.get? epoch = some commitment →
      ∀ receipt ∈ (run step { nodeId, chainId } calls).held epoch,
        Vindicated (run step { nodeId, chainId } calls) epoch commitment receipt := by
  constructor
  · rintro past later rfl epoch commitment closed
    rw [run_append]
    have rest := (Meets.append.mp straight).2
    have final := rest.invariant (fun ledger made => fun held ok => (step_stepped ledger made).closed ok held)
      (⟨closed, rfl⟩ : Closed epoch commitment _ (run step { nodeId, chainId } past))
    exact ⟨final.committed, final.held⟩
  · intro epoch commitment closed receipt member
    have files : ∀ ledger made, Kept ledger ∧ ledger.chainId = chainId → CallSigned chainId made ∧ ¬ Refiles ledger made →
        Kept (step ledger made) ∧ (step ledger made).chainId = chainId := by
      intro ledger made ⟨kept, chain⟩ ⟨signed, straight⟩
      have stepped := step_stepped ledger made
      exact ⟨stepped.filed (chain ▸ signed) straight kept, stepped.chainId.trans chain⟩
    have kept := ((Meets.of_forall signed).and straight).invariant files ⟨kept_fresh nodeId chainId, rfl⟩
    exact kept.1.vindicated (run_books nodeId chainId calls) closed member

/-! ### Double claims -/

/-- Says of a committed root that the root itself is the leaf of a receipt. -/
def framing (root : String) : Json :=
  .dict [("receipt", .dict [("routeId", .str "r-1")]), ("leaf", .str root), ("proof", .list [])]

omit [Host] in
theorem framing_proves (first second : EpochCommitment) (differ : first.epoch ≠ second.epoch) :
    proveDoubleClaim first second (framing first.root) (framing second.root) = .ok true := by
  -- an empty path leads from the root to itself
  have inside (root : String) : verifyProof (.str root) (.list []) (.str root) = .ok true := by
    have climbs : MerkleTree.climb pair root [] = .ok root := rfl
    exact verifyProof_of_climb climbs
  simp only [proveDoubleClaim, differ, if_false, framing, Json.item, Json.find?, Json.get, List.find?_cons, decide_true,
    decide_false, Option.map_some, Option.getD_some, ok_bind, String.reduceEq, inside]
  rfl

/-- A ledger never records a route twice, and yet two of its commitments stand
proof against an accuser only where they are of one epoch. -/
theorem double_claim_refused_iff (nodeId : String) (chainId : Int) (calls : List Call) {epoch epoch' : Int}
    {first second : EpochCommitment}
    (committed : (run step { nodeId, chainId } calls).committed.get? epoch = some first)
    (committed' : (run step { nodeId, chainId } calls).committed.get? epoch' = some second) :
    BillsOnce (run step { nodeId, chainId } calls) ∧
      ((∀ disclosureA disclosureB, proveDoubleClaim first second disclosureA disclosureB = .ok false) ↔ epoch = epoch') := by
  have books := run_books nodeId chainId calls
  have named : first.epoch = epoch := books.named epoch first committed
  have named' : second.epoch = epoch' := books.named epoch' second committed'
  refine ⟨books.once, ?_, ?_⟩
  · intro refused
    by_contra differ
    have proved := framing_proves first second (by rwa [named, named'])
    rw [refused] at proved
    cases proved
  · intro same disclosureA disclosureB
    simp [proveDoubleClaim, named, named', same]

end Ledger

/-! ### Three routes -/

section Routes

def routed (routeId : String) (epoch : Int) (signature : String) : TransportReceipt where
  routeId := routeId
  nodeId := "0x07"
  payerAgent := 1
  routeClass := .a2t
  priceMinor := 5
  epoch := epoch
  payerAddress := "0xb0b"
  signature := signature

local instance routesHost : Host := asciiHost []

/-- The payer signed three payloads, and each of its signatures is for one. -/
local instance routesPackages : Packages where
  keccak := id
  encode := fun data =>
    .ok (if data.message = (routed "a" 0 "").billablePayload then [1]
      else if data.message = (routed "b" 0 "").billablePayload then [2]
      else if data.message = (routed "c" 1 "").billablePayload then [3]
      else [0])
  recover := fun signable signature =>
    if (signable, signature) = ([1], .given (.str "0x0a")) ∨ (signable, signature) = ([2], .given (.str "0x0b")) ∨
        (signable, signature) = ([3], .given (.str "0x0c")) then .ok "0xB0B"
    else raise .valueError "no such signature"
  sign := fun _ _ => .ok []

def datedCalls : List Call := [.record (routed "c" 1 "0x0c") 7200, .commit 1 1]

theorem datedCalls_signed : ∀ made ∈ datedCalls, CallSigned 8453 made := by
  have signed : PayerSigned 8453 (routed "c" 1 "0x0c") := ⟨"0xB0B", by decide, by decide⟩
  simp [datedCalls, CallSigned, signed]

theorem commitments_final_dated :
    ∃ commitment, (run step { nodeId := "0x07" } datedCalls).committed.get? 1 = some commitment ∧
      Vindicated (run step { nodeId := "0x07" } datedCalls) 1 commitment (routed "c" 1 "0x0c") := by
  have straight : Meets step (fun ledger made => ¬ Refiles ledger made) { nodeId := "0x07" } datedCalls := by
    refine ⟨?_, ?_, trivial⟩
    · intro ⟨_, undated, _⟩
      cases undated
    · exact id
  refine ⟨_, rfl, ?_⟩
  exact (commitments_final "0x07" 8453 datedCalls_signed straight).2 1 _ rfl _ (List.mem_singleton.mpr rfl)

def undatedCalls : List Call := [.record (routed "a" 0 "0x0a") 7200, .commit 2 1]

def undatedLater : Call := .record (routed "b" 0 "0x0b") 7300

/-- Two receipts without an epoch are filed under the current one, the second
after it was committed. -/
theorem undated_not_final :
    Function.Injective (Packages.keccak) ∧ (∀ made ∈ undatedCalls ++ [undatedLater], CallSigned 8453 made) ∧
      ((run step { nodeId := "0x07" } undatedCalls).committed.get? 2).isSome = true ∧
      ((run step { nodeId := "0x07" } undatedCalls).held 2).length = 1 ∧
      ((run step { nodeId := "0x07" } (undatedCalls ++ [undatedLater])).held 2).length = 2 := by
  have first : PayerSigned 8453 (routed "a" 0 "0x0a") := ⟨"0xB0B", by decide, by decide⟩
  have second : PayerSigned 8453 (routed "b" 0 "0x0b") := ⟨"0xB0B", by decide, by decide⟩
  refine ⟨Function.injective_id, ?_, by decide, by decide, by decide⟩
  simp [undatedCalls, undatedLater, CallSigned, first, second]

/-- A node that routed two calls in two epochs is framed by whoever reads its roots. -/
def framedCalls : List Call :=
  [.record (routed "c" 1 "0x0c") 7200, .commit 1 1, .record (routed "a" 0 "0x0a") 7200, .commit 2 1]

def framedLedger : RoutingLedger := run step { nodeId := "0x07" } framedCalls

theorem double_claim_refused_same :
    ∃ commitment, framedLedger.committed.get? 1 = some commitment ∧
      ∀ disclosureA disclosureB, proveDoubleClaim commitment commitment disclosureA disclosureB = .ok false := by
  obtain ⟨commitment, found⟩ : ∃ commitment, framedLedger.committed.get? 1 = some commitment := ⟨_, rfl⟩
  exact ⟨commitment, found, (double_claim_refused_iff "0x07" 8453 framedCalls found found).2.mpr rfl⟩

theorem honest_node_framed :
    BillsOnce framedLedger ∧
      ∃ first second disclosureA disclosureB, framedLedger.committed.get? 1 = some first ∧
        framedLedger.committed.get? 2 = some second ∧
        proveDoubleClaim first second disclosureA disclosureB = .ok true := by
  refine ⟨(run_books "0x07" 8453 framedCalls).once, ?_⟩
  exact ⟨_, _, framing _, framing _, rfl, rfl, framing_proves _ _ (by decide)⟩

end Routes

end Xcp.Transport
