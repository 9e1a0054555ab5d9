import Xcp.Library.Eth

/-! Proof of delivery. A task is hashed before work begins, the calls that did
the work form a hash chain, and the payee signs both with the output and the
price. Documents are taken as they came. -/

namespace Xcp.Receipts
open Checked Python Eth

def specVersion : String := "0.1-draft"

def receiptError {α : Type} (text : String) : Raises α := raise (.package "ReceiptError") text

/-- The problems that a check finds, of which what it raises is one. -/
def orProblem (failure : String) (checked : Raises (List String)) : List String :=
  match checked with
  | .ok problems => problems
  | .error exception => [failure ++ exception.text]

@[simp] theorem orProblem_eq_nil (failure : String) (checked : Raises (List String)) :
    orProblem failure checked = [] ↔ checked = .ok [] := by
  cases checked <;> simp [orProblem]

/-! ### The commitment -/

structure TaskSpec where
  taskId : Json
  payerAgent : Json
  payeeAgent : Json
  description : Json
  acceptance : Json := .list []
  amountMinor : Json := .int 0
  currency : Json := .str "USDC"
  rail : Json := .str "x402"
  /-- In unix seconds; none when it is zero. -/
  deadline : Json := .int 0
  chainId : Json := .int 8453
  specVersion : Json := .str specVersion
deriving DecidableEq

namespace TaskSpec

def toDict (task : TaskSpec) : Json :=
  .dict [("task_id", task.taskId), ("payer_agent", task.payerAgent), ("payee_agent", task.payeeAgent),
    ("description", task.description), ("acceptance", task.acceptance), ("amount_minor", task.amountMinor),
    ("currency", task.currency), ("rail", task.rail), ("deadline", task.deadline), ("chain_id", task.chainId),
    ("spec_version", task.specVersion)]

def fields : List String :=
  ["task_id", "payer_agent", "payee_agent", "description", "acceptance", "amount_minor", "currency", "rail", "deadline",
    "chain_id", "spec_version"]

def fromDict (document : Json) : Raises TaskSpec := do
  let members ← keywords "receipts.receipt.TaskSpec" document
  let _ ← refuseUnknown "TaskSpec" fields members
  let _ ← requireFields "TaskSpec" ["task_id", "payer_agent", "payee_agent", "description"] members
  return {
    taskId := field members "task_id"
    payerAgent := field members "payer_agent"
    payeeAgent := field members "payee_agent"
    description := field members "description"
    acceptance := field members "acceptance" (.list [])
    amountMinor := field members "amount_minor" (.int 0)
    currency := field members "currency" (.str "USDC")
    rail := field members "rail" (.str "x402")
    deadline := field members "deadline" (.int 0)
    chainId := field members "chain_id" (.int 8453)
    specVersion := field members "spec_version" (.str Receipts.specVersion) }

def expired (task : TaskSpec) (now : Int) : Raises Bool := andThen task.deadline.truthy ((Json.int now).gt task.deadline)

end TaskSpec

/-! ### The evidence -/

structure CallRecord where
  seq : Json
  agentId : Json
  scope : Json
  tool : Json
  argsDigest : Json
  resultDigest : Json
  ts : Json
deriving DecidableEq

namespace CallRecord

def toDict (record : CallRecord) : Json :=
  .dict [("seq", record.seq), ("agent_id", record.agentId), ("scope", record.scope), ("tool", record.tool),
    ("args_digest", record.argsDigest), ("result_digest", record.resultDigest), ("ts", record.ts)]

def fields : List String := ["seq", "agent_id", "scope", "tool", "args_digest", "result_digest", "ts"]

def fromDict (document : Json) : Raises CallRecord := do
  let members ← keywords "receipts.receipt.CallRecord" document
  let _ ← refuseUnknown "CallRecord" fields members
  let _ ← requireFields "CallRecord" fields members
  return {
    seq := field members "seq"
    agentId := field members "agent_id"
    scope := field members "scope"
    tool := field members "tool"
    argsDigest := field members "args_digest"
    resultDigest := field members "result_digest"
    ts := field members "ts" }

end CallRecord

def genesis : String := "0x" ++ toHex (List.replicate 32 0)

/-- The calls and the head that they are said to lead to. -/
structure CallChain where
  records : List CallRecord := []
  head : String := genesis
deriving DecidableEq

variable [Host] [Packages]

def TaskSpec.taskDigest (task : TaskSpec) : String := digestJson task.toDict

def CallRecord.recordDigest (record : CallRecord) : String := digestJson record.toDict

namespace CallChain

def link (previous recordDigest : String) : Raises String := do
  let previous ← fromHex (dropStart previous 2)
  let record ← fromHex (dropStart recordDigest 2)
  return digest (previous ++ record)

def append (chain : CallChain) (record : CallRecord) : Raises CallChain :=
  if !(record.seq.same (.int chain.records.length)) then
    receiptError s!"out-of-order call: expected seq {chain.records.length}, got {record.seq.toStr}"
  else do
    let head ← link chain.head record.recordDigest
    return { records := chain.records ++ [record], head }

/-- The head that records lead to, none where they are out of order. -/
def recompute (head : String) (index : Nat) : List CallRecord → Raises (Option String)
  | [] => .ok (some head)
  | record :: rest =>
    if !(record.seq.same (.int index)) then .ok none
    else do
      let head ← link head record.recordDigest
      recompute head (index + 1) rest

def verify (chain : CallChain) : Raises Bool := do
  let head ← recompute genesis 0 chain.records
  return head = some chain.head

def fromRecords (records : List CallRecord) : Raises CallChain := records.foldlM append {}

def toDict (chain : CallChain) : Json :=
  .dict [("root", .str chain.head), ("count", .int chain.records.length),
    ("records", .list (chain.records.map CallRecord.toDict))]

def fromDict (document : Json) : Raises CallChain := do
  let records ← document.get "records" (.list [])
  let records ← records.toList
  let records ← records.mapM CallRecord.fromDict
  let chain ← fromRecords records
  let root ← document.get "root"
  let _ ← require (root.truthy = true → Json.same (.str chain.head) root = true)
    (⟨.package "ReceiptError", "call chain root does not match its records"⟩ : Exception)
  return chain

end CallChain

/-! ### The receipt -/

/-- What the payee says of a delivery, and what it and the payer sign. -/
structure Receipt where
  taskDigest : Json
  callChainRoot : Json
  outputDigest : Json
  payeeAgent : Json
  amountMinor : Json
  deliveredAt : Json
  callCount : Json
  chainId : Json := .int 8453
  specVersion : Json := .str specVersion
  payeeAddress : Json := .str ""
  signature : Json := .str ""
  acceptedBy : Json := .int 0
  acceptorAddress : Json := .str ""
  acceptanceSig : Json := .str ""
deriving DecidableEq

namespace Receipt

def signingPayload (receipt : Receipt) : Json :=
  .dict [("taskDigest", receipt.taskDigest), ("callChainRoot", receipt.callChainRoot),
    ("outputDigest", receipt.outputDigest), ("payeeAgent", receipt.payeeAgent), ("amountMinor", receipt.amountMinor),
    ("deliveredAt", receipt.deliveredAt), ("callCount", receipt.callCount)]

/-- A delivery and its acceptance differ in the primary type alone. -/
def typed (receipt : Receipt) (primary : String) : TypedData where
  domain := "XCPReceipt"
  primaryType := primary
  fields := [("taskDigest", "string"), ("callChainRoot", "string"), ("outputDigest", "string"),
    ("payeeAgent", "uint256"), ("amountMinor", "uint256"), ("deliveredAt", "uint64"), ("callCount", "uint32")]
  chainId := receipt.chainId
  message := receipt.signingPayload

def required : List String :=
  ["task_digest", "call_chain_root", "output_digest", "payee_agent", "amount_minor", "delivered_at", "call_count"]

def fields : List String :=
  required ++ ["chain_id", "spec_version", "payee_address", "signature", "accepted_by", "acceptor_address",
    "acceptance_sig"]

def fromDict (document : Json) : Raises Receipt := do
  let members ← keywords "receipts.receipt.Receipt" document
  let _ ← refuseUnknown "Receipt" fields members
  let _ ← requireFields "Receipt" required members
  return {
    taskDigest := field members "task_digest"
    callChainRoot := field members "call_chain_root"
    outputDigest := field members "output_digest"
    payeeAgent := field members "payee_agent"
    amountMinor := field members "amount_minor"
    deliveredAt := field members "delivered_at"
    callCount := field members "call_count"
    chainId := field members "chain_id" (.int 8453)
    specVersion := field members "spec_version" (.str Receipts.specVersion)
    payeeAddress := field members "payee_address" (.str "")
    signature := field members "signature" (.str "")
    acceptedBy := field members "accepted_by" (.int 0)
    acceptorAddress := field members "acceptor_address" (.str "")
    acceptanceSig := field members "acceptance_sig" (.str "") }

def toDict (receipt : Receipt) : Json :=
  .dict [("task_digest", receipt.taskDigest), ("call_chain_root", receipt.callChainRoot),
    ("output_digest", receipt.outputDigest), ("payee_agent", receipt.payeeAgent), ("amount_minor", receipt.amountMinor),
    ("delivered_at", receipt.deliveredAt), ("call_count", receipt.callCount), ("chain_id", receipt.chainId),
    ("spec_version", receipt.specVersion), ("payee_address", receipt.payeeAddress), ("signature", receipt.signature),
    ("accepted_by", receipt.acceptedBy), ("acceptor_address", receipt.acceptorAddress),
    ("acceptance_sig", receipt.acceptanceSig)]

def signer (receipt : Receipt) (primary : String) (signature : Json) : Raises String := do
  let signable ← Packages.encode (receipt.typed primary)
  Packages.recover signable (.given signature)

def differs (signer : String) (address : Json) : Raises Bool :=
  andThen address.truthy (do
    let named ← address.lower
    return lower signer ≠ named)

/-! ### Verification -/

def commitmentProblems (receipt : Receipt) (task : TaskSpec) (now : Int) : Raises (List String) := do
  let late ← andThen task.deadline.truthy (receipt.deliveredAt.gt task.deadline)
  let future ← receipt.deliveredAt.gt (.int (now + 300))
  return problemIf (!(receipt.taskDigest.same (.str task.taskDigest)))
      "receipt is bound to a different task than the one presented" ++
    problemIf (!(receipt.payeeAgent.same task.payeeAgent)) "payee agent does not match the task" ++
    problemIf (!(receipt.amountMinor.same task.amountMinor))
      s!"amount mismatch: receipt {receipt.amountMinor.toStr} vs task {task.amountMinor.toStr}" ++
    problemIf late "delivered after the deadline" ++
    problemIf future "delivery timestamp is in the future"

def chainProblems (receipt : Receipt) : Option CallChain → Raises (List String)
  | none => .ok []
  | some chain => do
    let consistent ← chain.verify
    return problemIf (!consistent) "call chain is inconsistent (tampered or reordered)" ++
      problemIf (!(Json.same (.str chain.head) receipt.callChainRoot)) "call chain root does not match the receipt" ++
      problemIf (!(Json.same (.int chain.records.length) receipt.callCount)) "call count does not match the chain" ++
      problemIf (chain.records.length = 0) "no calls recorded — nothing evidences the work"

/-- Whose signature it is is looked at only where the receipt or the caller names
an address. -/
def signatureProblems (receipt : Receipt) (expectedPayeeAddress : String) : List String :=
  if !receipt.signature.truthy then ["receipt is unsigned"]
  else
    orProblem "signature failed to recover: " (do
      let signer ← receipt.signer "Delivery" receipt.signature
      let undeclared ← differs signer receipt.payeeAddress
      let unexpected ← differs signer (.str expectedPayeeAddress)
      return problemIf undeclared "signature does not match the declared payee address" ++
        problemIf unexpected "signer is not the expected payee")

def acceptanceProblems (receipt : Receipt) : List String :=
  if !receipt.acceptanceSig.truthy then []
  else
    orProblem "acceptance signature failed to recover: " (do
      let signer ← receipt.signer "Acceptance" receipt.acceptanceSig
      let undeclared ← differs signer receipt.acceptorAddress
      return problemIf undeclared "acceptance signature does not match the acceptor address")

end Receipt

/-- The problems of a receipt; none means that the evidence is consistent and
signed. It says nothing of the quality of the output. -/
def verifyReceipt (receipt : Receipt) (task : TaskSpec) (chain : Option CallChain) (expectedPayeeAddress : String)
    (now : Int) : Raises (List String) := do
  let commitment ← receipt.commitmentProblems task now
  let evidence ← receipt.chainProblems chain
  return commitment ++ evidence ++ receipt.signatureProblems expectedPayeeAddress ++ receipt.acceptanceProblems

theorem Receipt.commitmentProblems_nil {receipt : Receipt} {task : TaskSpec} {now : Int} :
    receipt.commitmentProblems task now = .ok [] ↔
      receipt.taskDigest.same (.str task.taskDigest) = true ∧ receipt.payeeAgent.same task.payeeAgent = true ∧
      receipt.amountMinor.same task.amountMinor = true ∧
      andThen task.deadline.truthy (receipt.deliveredAt.gt task.deadline) = .ok false ∧
      receipt.deliveredAt.gt (.int (now + 300)) = .ok false := by
  simp only [commitmentProblems, bind_eq_ok, pure_eq_ok, List.append_eq_nil_iff, problemIf_eq_nil, Bool.not_eq_false']
  constructor
  · intro clear
    obtain ⟨late, deadline, future, ahead, ⟨⟨⟨digest, payee⟩, amount⟩, onTime⟩, past⟩ := clear
    exact ⟨digest, payee, amount, onTime ▸ deadline, past ▸ ahead⟩
  · intro bounds
    obtain ⟨digest, payee, amount, deadline, ahead⟩ := bounds
    exact ⟨false, deadline, false, ahead, ⟨⟨⟨digest, payee⟩, amount⟩, rfl⟩, rfl⟩

theorem verifyReceipt_nil {receipt : Receipt} {task : TaskSpec} {chain : Option CallChain} {expected : String} {now : Int} :
    verifyReceipt receipt task chain expected now = .ok [] ↔
      receipt.commitmentProblems task now = .ok [] ∧ receipt.chainProblems chain = .ok [] ∧
      receipt.signatureProblems expected = [] ∧ receipt.acceptanceProblems = [] := by
  simp only [verifyReceipt, bind_eq_ok, pure_eq_ok, List.append_eq_nil_iff]
  constructor
  · rintro ⟨commitment, bound, evidence, linked, ⟨⟨rfl, rfl⟩, signed⟩, accepted⟩
    exact ⟨bound, linked, signed, accepted⟩
  · rintro ⟨bound, linked, signed, accepted⟩
    exact ⟨[], bound, [], linked, ⟨⟨rfl, rfl⟩, signed⟩, accepted⟩

/-! ### Bundles -/

/-- A record of the transaction that is verified offline. -/
def evidenceBundle (task : TaskSpec) (chain : CallChain) (receipt : Receipt) (outputRef : Json) : Json :=
  .dict [("specVersion", .str specVersion), ("task", task.toDict), ("callChain", chain.toDict),
    ("receipt", receipt.toDict), ("outputRef", outputRef)]

structure Bundle where
  task : TaskSpec
  chain : CallChain
  receipt : Receipt

def readBundle (bundle : Json) : Raises Bundle := do
  let task ← bundle.item "task"
  let task ← TaskSpec.fromDict task
  let chain ← bundle.item "callChain"
  let chain ← CallChain.fromDict chain
  let receipt ← bundle.item "receipt"
  let receipt ← Receipt.fromDict receipt
  return { task, chain, receipt }

def verifyBundle (bundle : Json) (now : Int) : Raises (List String) :=
  match readBundle bundle with
  | .ok read => verifyReceipt read.receipt read.task (some read.chain) "" now
  | .error exception =>
    if exception.kind = .package "ReceiptError" then .ok [exception.text]
    else .ok [s!"malformed bundle: {exception.text}"]

end Xcp.Receipts
