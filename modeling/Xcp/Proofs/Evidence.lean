import Xcp.Library.Ideal
import Xcp.Receipts.Receipt

/-! What an evidence bundle without problems proves. Whose key signed it is only
looked at where the receipt names an address; where it does, neither the task
nor the calls can be edited without that key. -/

namespace Xcp.Receipts
open Checked Python Eth

section Evidence
variable [Host] [Packages]

/-! ### What no problem means -/

theorem chainProblems_nil {receipt : Receipt} {chain : CallChain} :
    receipt.chainProblems (some chain) = .ok [] ↔
      chain.verify = .ok true ∧ receipt.callChainRoot = .str chain.head ∧
      Json.same (.int chain.records.length) receipt.callCount = true ∧ chain.records ≠ [] := by
  simp only [Receipt.chainProblems, bind_eq_ok, pure_eq_ok, List.append_eq_nil_iff, problemIf_eq_nil, Bool.not_eq_false',
    Json.str_same, decide_eq_false_iff_not, List.length_eq_zero_iff]
  constructor
  · rintro ⟨consistent, verified, ⟨⟨rfl, root⟩, count⟩, some⟩
    exact ⟨verified, root, count, some⟩
  · rintro ⟨verified, root, count, some⟩
    exact ⟨true, verified, ⟨⟨rfl, root⟩, count⟩, some⟩

omit [Packages] in
theorem differs_eq_false {signer : String} {address : Json} :
    Receipt.differs signer address = .ok false ↔ (address.truthy = true → address.lower = .ok (lower signer)) := by
  simp only [Receipt.differs, andThen_eq_false, bind_eq_ok, pure_eq_ok, decide_eq_false_iff_not, not_not]
  constructor
  · intro named given
    obtain ⟨name, spelled, same⟩ := named given
    rw [spelled, same]
  · intro named given
    exact ⟨lower signer, named given, rfl⟩

theorem signatureProblems_nil {receipt : Receipt} :
    receipt.signatureProblems "" = [] ↔
      receipt.signature.truthy = true ∧ ∃ signer, receipt.signer "Delivery" receipt.signature = .ok signer ∧
        (receipt.payeeAddress.truthy = true → receipt.payeeAddress.lower = .ok (lower signer)) := by
  unfold Receipt.signatureProblems
  by_cases unsigned : receipt.signature.truthy = true
  · have anyone (signer : String) : Receipt.differs signer (.str "") = .ok false := rfl
    simp only [unsigned, Bool.not_true, Bool.false_eq_true, if_false, true_and, orProblem_eq_nil, bind_eq_ok, pure_eq_ok,
      List.append_eq_nil_iff, problemIf_eq_nil, anyone, ← differs_eq_false]
    constructor
    · rintro ⟨signer, signed, undeclared, named, _, _, rfl, _⟩
      exact ⟨signer, signed, named⟩
    · rintro ⟨signer, signed, named⟩
      exact ⟨signer, signed, false, named, false, rfl, rfl, rfl⟩
  · simp [unsigned]

/-! ### What a chain commits to -/

/-- A record up to the order of the members inside its fields. -/
def CallRecord.content (record : CallRecord) : Json := record.toDict.sorted

/-- Two heads at one place of two chains: the first of both, or two digests. -/
def Comparable (head head' : String) : Prop := head = head' ∨ ∃ data data', head = digest data ∧ head' = digest data'

omit [Host] in
theorem link_digest {previous record head : String} (linked : CallChain.link previous record = .ok head) :
    ∃ before bytes, fromHex (dropStart previous 2) = .ok before ∧ fromHex (dropStart record 2) = .ok bytes ∧
      head = digest (before ++ bytes) := by
  simp only [CallChain.link, bind_eq_ok, pure_eq_ok] at linked
  obtain ⟨before, first, bytes, second, rfl⟩ := linked
  exact ⟨before, bytes, first, second, rfl⟩

section Ideal
variable (legible : LegibleFloats) (ideal : IdealHash)
include legible ideal

theorem link_inj {previous previous' : String} (comparable : Comparable previous previous') {record record' : CallRecord}
    {head : String} (linked : CallChain.link previous record.recordDigest = .ok head)
    (linked' : CallChain.link previous' record'.recordDigest = .ok head) :
    previous = previous' ∧ record.content = record'.content := by
  obtain ⟨before, bytes, first, second, made⟩ := link_digest linked
  obtain ⟨before', bytes', first', second', made'⟩ := link_digest linked'
  have joined : before ++ bytes = before' ++ bytes' := digest_inj ideal (made.symm.trans made')
  rw [CallRecord.recordDigest, digestJson, fromHex_digest ideal, Except.ok.injEq] at second second'
  have records (same : bytes = bytes') : record.content = record'.content := by
    have letters : utf8 record.toDict.canonical = utf8 record'.toDict.canonical := by
      apply ideal.splits _ _ [] []
      rw [second, second', same]
    exact digestJson_inj ideal legible (congrArg digest letters)
  -- a head of any length may be split off only where the other head is the same text or a digest too
  rcases comparable with rfl | ⟨data, data', rfl, rfl⟩
  · rw [first, Except.ok.injEq] at first'
    subst first'
    exact ⟨rfl, records (List.append_cancel_left joined)⟩
  · rw [fromHex_digest ideal, Except.ok.injEq] at first first'
    subst first first'
    obtain rfl := ideal.splits data data' bytes bytes' joined
    exact ⟨rfl, records (List.append_cancel_left joined)⟩

/-- Two chains of one length that lead to one root are of the same records. -/
theorem recompute_inj {records records' : List CallRecord} (size : records.length = records'.length)
    {head head' root : String} (comparable : Comparable head head') {index : Nat}
    (leads : CallChain.recompute head index records = .ok (some root))
    (leads' : CallChain.recompute head' index records' = .ok (some root)) :
    head = head' ∧ records.map CallRecord.content = records'.map CallRecord.content := by
  induction records generalizing records' head head' index with
  | nil =>
    obtain rfl := List.eq_nil_of_length_eq_zero size.symm
    simp only [CallChain.recompute, Except.ok.injEq, Option.some.injEq] at leads leads'
    exact ⟨leads.trans leads'.symm, rfl⟩
  | cons record rest ih =>
    cases records' with
    | nil => cases size
    | cons record' rest' =>
      simp only [CallChain.recompute] at leads leads'
      split at leads
      · cases leads
      split at leads'
      · cases leads'
      simp only [bind_eq_ok] at leads leads'
      obtain ⟨next, linked, leads⟩ := leads
      obtain ⟨next', linked', leads'⟩ := leads'
      obtain ⟨_, _, _, _, made⟩ := link_digest linked
      obtain ⟨_, _, _, _, made'⟩ := link_digest linked'
      -- the heads after this record agree first, and from them the record and the heads before it
      obtain ⟨rfl, later⟩ := ih (Nat.succ.inj size) (.inr ⟨_, _, made, made'⟩) leads leads'
      obtain ⟨same, here⟩ := link_inj legible ideal comparable linked linked'
      exact ⟨same, by rw [List.map_cons, List.map_cons, here, later]⟩

end Ideal

/-! ### Attribution -/

/-- A receipt is of the digest of its task, the root and the number of its calls,
and the task's payee and price. -/
structure Committed (bundle : Bundle) : Prop where
  task : bundle.receipt.taskDigest = .str bundle.task.taskDigest
  root : bundle.receipt.callChainRoot = .str bundle.chain.head
  leads : CallChain.recompute genesis 0 bundle.chain.records = .ok (some bundle.chain.head)
  count : Json.same (.int bundle.chain.records.length) bundle.receipt.callCount = true
  calls : bundle.chain.records ≠ []
  payee : bundle.receipt.payeeAgent.same bundle.task.payeeAgent = true
  amount : bundle.receipt.amountMinor.same bundle.task.amountMinor = true

/-- The receipt names an address whose key signed it. -/
structure Attributed (bundle : Bundle) : Prop extends Committed bundle where
  named : bundle.receipt.payeeAddress.truthy = true
  signed : ∃ signable signer, Packages.encode (bundle.receipt.typed "Delivery") = .ok signable ∧
    Packages.recover signable (.given bundle.receipt.signature) = .ok signer ∧
    bundle.receipt.payeeAddress.lower = .ok (lower signer)

/-- Two bundles are of one task and the same calls, and say the same of their
delivery in the fields that are signed. -/
structure SameEvidence (bundle bundle' : Bundle) : Prop where
  task : bundle.task.toDict.sorted = bundle'.task.toDict.sorted
  calls : bundle.chain.records.map CallRecord.content = bundle'.chain.records.map CallRecord.content
  head : bundle.chain.head = bundle'.chain.head
  delivery : ∀ field ∈ (bundle.receipt.typed "Delivery").fields, ∀ value value',
    bundle.receipt.signingPayload.item field.1 = .ok value → bundle'.receipt.signingPayload.item field.1 = .ok value' →
    ReadAlike field.2 value value'

theorem verifyBundle_nil {document : Json} {now : Int} (clean : verifyBundle document now = .ok []) :
    ∃ bundle, readBundle document = .ok bundle ∧
      verifyReceipt bundle.receipt bundle.task (some bundle.chain) "" now = .ok [] := by
  unfold verifyBundle at clean
  split at clean
  next bundle read => exact ⟨bundle, read, clean⟩
  next => split at clean <;> cases clean

theorem committed_of_clean {bundle : Bundle} {now : Int}
    (clean : verifyReceipt bundle.receipt bundle.task (some bundle.chain) "" now = .ok []) : Committed bundle := by
  obtain ⟨bound, evidence, _⟩ := verifyReceipt_nil.mp clean
  obtain ⟨task, payee, amount, _⟩ := Receipt.commitmentProblems_nil.mp bound
  obtain ⟨consistent, root, count, calls⟩ := chainProblems_nil.mp evidence
  simp only [CallChain.verify, bind_eq_ok, pure_eq_ok, decide_eq_true_eq] at consistent
  obtain ⟨head, leads, rfl⟩ := consistent
  exact ⟨(Json.same_str ..).mp task, root, leads, count, calls, payee, amount⟩

theorem attributed_of_named {bundle : Bundle} {now : Int}
    (clean : verifyReceipt bundle.receipt bundle.task (some bundle.chain) "" now = .ok [])
    (named : bundle.receipt.payeeAddress.truthy = true) : Attributed bundle := by
  obtain ⟨_, _, signature, _⟩ := verifyReceipt_nil.mp clean
  obtain ⟨_, signer, signed, declared⟩ := signatureProblems_nil.mp signature
  simp only [Receipt.signer, bind_eq_ok] at signed
  obtain ⟨signable, encoded, recovered⟩ := signed
  exact { committed_of_clean clean with named, signed := ⟨signable, signer, encoded, recovered, declared named⟩ }

theorem Committed.callCount (encoding : FaithfulEncoding) {bundle : Bundle} (committed : Committed bundle)
    {signable : List Nat} (encoded : Packages.encode (bundle.receipt.typed "Delivery") = .ok signable) :
    bundle.receipt.callCount = .int bundle.chain.records.length := by
  have count := committed.count
  obtain ⟨value, found, number | text⟩ := encoding.whole _ _ encoded ("callCount", "uint32") (by simp [Receipt.typed]) rfl
  · obtain ⟨number, rfl⟩ := number
    have held : bundle.receipt.callCount = .int number := Except.ok.inj found
    rw [held, Json.int_same_int] at count
    rw [held, count]
  · obtain ⟨text, rfl⟩ := text
    have held : bundle.receipt.callCount = .str text := Except.ok.inj found
    simp [held] at count

section Ideal
variable (legible : LegibleFloats) (ideal : IdealHash) (encoding : FaithfulEncoding)
include legible ideal encoding

theorem sameEvidence {original edited : Bundle} (committed : Committed original) (committed' : Committed edited)
    {signable : List Nat} (encoded : Packages.encode (original.receipt.typed "Delivery") = .ok signable)
    (encoded' : Packages.encode (edited.receipt.typed "Delivery") = .ok signable) : SameEvidence original edited := by
  have alike := encoding.alike _ _ _ encoded encoded' rfl
  have digests := (alike ("taskDigest", "string") (by simp [Receipt.typed]) _ _ rfl rfl).1 rfl _ _ committed.task committed'.task
  have heads := (alike ("callChainRoot", "string") (by simp [Receipt.typed]) _ _ rfl rfl).1 rfl _ _ committed.root committed'.root
  have counts := (alike ("callCount", "uint32") (by simp [Receipt.typed]) _ _ rfl rfl).2 rfl _ _
    (committed.callCount encoding encoded) (committed'.callCount encoding encoded')
  have leads := committed.leads
  rw [heads] at leads
  obtain ⟨_, calls⟩ := recompute_inj legible ideal (by omega) (.inl rfl) leads committed'.leads
  exact ⟨digestJson_inj ideal legible digests, calls, heads, alike⟩

/-- A bundle without problems is attributed to its payee, and stands for the one
bundle that the payee's key signed, exactly where its receipt names an address. -/
theorem evidence_attributed_iff {document : Json} {bundle : Bundle} {now : Int} (read : readBundle document = .ok bundle)
    (clean : verifyBundle document now = .ok []) :
    (Attributed bundle ∧
      ∀ document' original now', readBundle document' = .ok original → verifyBundle document' now' = .ok [] →
        ∀ signable address, Packages.encode (original.receipt.typed "Delivery") = .ok signable →
        bundle.receipt.payeeAddress.lower = .ok address → SignsOnly address signable → SameEvidence original bundle) ↔
      bundle.receipt.payeeAddress.truthy = true := by
  obtain ⟨_, same, clean⟩ := verifyBundle_nil clean
  obtain rfl := Except.ok.inj (read.symm.trans same)
  constructor
  · intro ⟨attributed, _⟩
    exact attributed.named
  · intro named
    have attributed := attributed_of_named clean named
    refine ⟨attributed, ?_⟩
    intro document' original now' read' clean' signable address encoded spelled only
    obtain ⟨_, same', clean'⟩ := verifyBundle_nil clean'
    obtain rfl := Except.ok.inj (read'.symm.trans same')
    obtain ⟨other, signer, encoded', recovered, declared⟩ := attributed.signed
    obtain rfl : address = lower signer := Except.ok.inj (spelled.symm.trans declared)
    obtain rfl := only other _ signer recovered rfl
    exact sameEvidence legible ideal encoding (committed_of_clean clean') attributed.toCommitted encoded encoded'

end Ideal

end Evidence

/-! ### A bundle that is edited -/

section Drawing

local instance drawingHost : Host := decimalHost []

def drawingTask (amount : Int) : TaskSpec where
  taskId := .str "t"
  payerAgent := .int 1
  payeeAgent := .int 2
  description := .str "d"
  amountMinor := .int amount

def drawingCall : CallRecord where
  seq := .int 0
  agentId := .int 2
  scope := .str "s"
  tool := .str "draw"
  argsDigest := .str "0x"
  resultDigest := .str "0x"
  ts := .int 80

def callHash : List Nat :=
  [40, 109, 73, 209, 113, 188, 154, 11, 66, 222, 67, 105, 70, 187, 46, 122, 176, 21, 245, 124, 138, 94, 197, 167, 111, 189,
   232, 57, 63, 137, 100, 227]

/-- The hashes of the task at two prices, of the call and of the chain of it. -/
def drawingHashes : List (List Nat × List Nat) :=
  [(utf8 (drawingTask 5).toDict.canonical, [239, 184, 255, 163, 58, 4, 189, 17, 252, 102, 242, 119, 26, 91, 78, 91, 127, 194,
     232, 254, 8, 252, 70, 179, 11, 20, 1, 167, 104, 51, 187, 225]),
   (utf8 (drawingTask 500).toDict.canonical, [78, 137, 5, 83, 133, 146, 194, 153, 93, 136, 48, 206, 18, 145, 153, 191, 63, 49,
     90, 192, 32, 133, 19, 83, 39, 185, 144, 200, 187, 170, 68, 210]),
   (utf8 drawingCall.toDict.canonical, callHash),
   (List.replicate 32 0 ++ callHash, [157, 95, 208, 74, 53, 41, 87, 154, 142, 255, 207, 108, 3, 158, 141, 176, 145, 194, 22, 6,
     28, 144, 146, 75, 154, 151, 94, 207, 107, 143, 35, 21])]

/-- What is signed holds digests, which do not depend on it. -/
abbrev drawingHash : Packages := tablePackages drawingHashes []

def drawingDigest (amount : Int) : String := @TaskSpec.taskDigest drawingHost drawingHash (drawingTask amount)

def drawingHead : String := @digest drawingHash (List.replicate 32 0 ++ drawingHash.keccak (utf8 drawingCall.toDict.canonical))

def drawingReceipt (amount : Int) (payeeAddress signature : String) : Receipt where
  taskDigest := .str (drawingDigest amount)
  callChainRoot := .str drawingHead
  outputDigest := .str "0x"
  payeeAgent := .int 2
  amountMinor := .int amount
  deliveredAt := .int 90
  callCount := .int 1
  payeeAddress := .str payeeAddress
  signature := .str signature

def bobSignature : String :=
  "0xebae4374589913fef3d8955ff6398234a5385af8402e1efd7d2e333ef6017de1" ++
    "058e91a0200f5bf00e591aab372fe85375f00e2fc75155d5cc11be3934f628e51b"

def mallorySignature : String :=
  "0x7839800d6a5efb14c3175e2f5b6fee63290ffce4a8bafb1714c3cb423b94bde5" ++
    "7e90cdfb0a891222271c2a79bf68c9a8a55df7809d9fe44dd7d8f5b252067cce1c"

def bobReceipt : Receipt := drawingReceipt 5 "0x1D96F2f6BeF1202E4Ce1Ff6Dad0c2CB002861d3e" bobSignature

/-- The same delivery at another price, without an address, under another key. -/
def malloryReceipt : Receipt := drawingReceipt 500 "" mallorySignature

def bobDelivery : SignedMessage where
  message := bobReceipt.typed "Delivery"
  hash := [31, 18, 20, 141, 255, 227, 215, 173, 76, 54, 31, 169, 201, 34, 38, 144, 194, 198, 255, 233, 132, 72, 143, 99, 161,
    66, 172, 87, 13, 231, 25, 19]
  signature := .given (.str bobSignature)
  signer := "0x1D96F2f6BeF1202E4Ce1Ff6Dad0c2CB002861d3e"

def malloryDelivery : SignedMessage where
  message := malloryReceipt.typed "Delivery"
  hash := [43, 84, 224, 51, 221, 40, 241, 120, 102, 26, 94, 42, 39, 213, 124, 23, 125, 50, 160, 117, 96, 245, 112, 46, 234, 206,
    99, 142, 232, 138, 1, 51]
  signature := .given (.str mallorySignature)
  signer := "0x2385bb51aA69bAF8Ba5f609c98660963cC29f424"

def drawingSigned : List SignedMessage := [bobDelivery, malloryDelivery]

local instance drawingPackages : Packages := tablePackages drawingHashes drawingSigned

theorem drawing_ideal : IdealHash := tablePackages_ideal drawingSigned (by decide)

theorem drawing_faithful : FaithfulEncoding := tablePackages_separate drawingHashes (by decide) (by decide)

def drawingChain : CallChain where
  records := [drawingCall]
  head := drawingHead

def drawingBundle (amount : Int) (receipt : Receipt) : Bundle where
  task := drawingTask amount
  chain := drawingChain
  receipt := receipt

def drawingDocument (amount : Int) (payeeAddress signature : String) : Json :=
  .dict [("task", (drawingTask amount).toDict),
    ("callChain", .dict [("records", .list [drawingCall.toDict]), ("root", .str drawingHead)]),
    ("receipt", .dict [("task_digest", .str (drawingDigest amount)), ("call_chain_root", .str drawingHead),
      ("output_digest", .str "0x"), ("payee_agent", .int 2), ("amount_minor", .int amount), ("delivered_at", .int 90),
      ("call_count", .int 1), ("payee_address", .str payeeAddress), ("signature", .str signature)])]

theorem drawing_link : CallChain.link genesis drawingCall.recordDigest = .ok drawingHead := by
  have first : fromHex (dropStart genesis 2) = .ok (List.replicate 32 0) := by
    apply fromHex_toHex
    intro byte member
    rw [List.eq_of_mem_replicate member]
    decide
  have second := fromHex_digest drawing_ideal (utf8 drawingCall.toDict.canonical)
  rw [CallChain.link, first, CallRecord.recordDigest, digestJson, second]
  exact congrArg Except.ok (digest_tablePackages drawingHashes drawingSigned [] _)

theorem drawing_verify : drawingChain.verify = .ok true := by
  have inOrder : drawingCall.seq.same (.int 0) = true := by decide
  have leads : CallChain.recompute genesis 0 [drawingCall] = .ok (some drawingHead) := by
    simp only [CallChain.recompute, Nat.cast_zero, inOrder, Bool.not_true, Bool.false_eq_true, if_false, drawing_link, ok_bind]
  simp [CallChain.verify, drawingChain, leads]

theorem drawing_fromRecords : CallChain.fromRecords [drawingCall] = .ok drawingChain := by
  have inOrder : drawingCall.seq.same (.int 0) = true := by decide
  have linked := drawing_link
  simp only [CallChain.fromRecords, List.foldlM_cons, List.foldlM_nil, CallChain.append, List.length_nil, Nat.cast_zero, inOrder,
    Bool.not_true, Bool.false_eq_true, if_false, linked, ok_bind]
  rfl

theorem drawing_read (amount : Int) (payeeAddress signature : String) :
    readBundle (drawingDocument amount payeeAddress signature) =
      .ok (drawingBundle amount (drawingReceipt amount payeeAddress signature)) := by
  have task : TaskSpec.fromDict (drawingTask amount).toDict = .ok (drawingTask amount) := by
    rfl
  have call : CallRecord.fromDict drawingCall.toDict = .ok drawingCall := by
    rfl
  have chain : CallChain.fromDict (.dict [("records", .list [drawingCall.toDict]), ("root", .str drawingHead)]) =
      .ok drawingChain := by
    simp [CallChain.fromDict, Json.get, Json.find?, Json.toList, call, drawing_fromRecords]
    exact fun _ => rfl
  have receipt (digest head : Json) : Receipt.fromDict (.dict [("task_digest", digest), ("call_chain_root", head),
      ("output_digest", .str "0x"), ("payee_agent", .int 2), ("amount_minor", .int amount), ("delivered_at", .int 90),
      ("call_count", .int 1), ("payee_address", .str payeeAddress), ("signature", .str signature)]) =
      .ok { drawingReceipt amount payeeAddress signature with taskDigest := digest, callChainRoot := head } := by
    rfl
  simp [readBundle, drawingDocument, Json.item, Json.find?, task, chain, receipt, drawingBundle, drawingReceipt]

theorem drawing_committed (amount : Int) (payeeAddress signature : String) :
    (drawingReceipt amount payeeAddress signature).commitmentProblems (drawingTask amount) 100 = .ok [] := by
  have digest : drawingDigest amount = (drawingTask amount).taskDigest :=
    digest_tablePackages drawingHashes [] drawingSigned _
  refine Receipt.commitmentProblems_nil.mpr ⟨?_, ?_, ?_, ?_, ?_⟩
  · simp [drawingReceipt, digest]
  · simp [drawingReceipt, drawingTask]
  · simp [drawingReceipt, drawingTask]
  · simp [drawingTask, Json.truthy]
  · simp [drawingReceipt, Json.gt, Json.compare, Json.number?, Double.lt]
    decide

theorem drawing_chained (amount : Int) (payeeAddress signature : String) :
    (drawingReceipt amount payeeAddress signature).chainProblems (some drawingChain) = .ok [] := by
  refine chainProblems_nil.mpr ⟨drawing_verify, rfl, ?_, ?_⟩
  · simp [drawingChain, drawingReceipt]
  · simp [drawingChain]

theorem drawing_signed {receipt : Receipt} {known : SignedMessage} (message : known.message = receipt.typed "Delivery")
    (signature : known.signature = .given receipt.signature) (given : receipt.signature.truthy = true)
    (encoded : drawingSigned.find? (fun other => other.message = known.message) = some known)
    (recovered : drawingSigned.find? (fun other => other.hash = known.hash && other.signature = known.signature) = some known)
    (named : receipt.payeeAddress.truthy = true → receipt.payeeAddress.lower = .ok (lower known.signer)) :
    receipt.signatureProblems "" = [] := by
  have signable := encode_tablePackages drawingHashes encoded
  have signer := recover_tablePackages drawingHashes recovered
  refine signatureProblems_nil.mpr ⟨given, known.signer, ?_, named⟩
  rw [message] at signable
  rw [signature] at signer
  rw [Receipt.signer, signable, ok_bind, signer]

theorem bob_signed : bobReceipt.signatureProblems "" = [] := by
  apply drawing_signed (show bobDelivery.message = _ from rfl) rfl (truthy_append _ _ (by decide))
  · exact List.find?_cons_of_pos (decide_eq_true rfl)
  · exact List.find?_cons_of_pos (by rw [decide_eq_true rfl, decide_eq_true rfl, Bool.and_true])
  · intro _
    rfl

theorem mallory_signed : malloryReceipt.signatureProblems "" = [] := by
  have message : bobDelivery.message ≠ malloryDelivery.message := by
    intro same
    have amounts : (Except.ok (.int 5) : Raises Json) = .ok (.int 500) :=
      congrArg (fun data : TypedData => data.message.item "amountMinor") same
    cases amounts
  have hash : bobDelivery.hash ≠ malloryDelivery.hash := by decide
  apply drawing_signed (show malloryDelivery.message = _ from rfl) rfl (truthy_append _ _ (by decide))
  · rw [drawingSigned, List.find?_cons_of_neg (by simpa using message)]
    exact List.find?_cons_of_pos (decide_eq_true rfl)
  · rw [drawingSigned, List.find?_cons_of_neg (by simp [hash])]
    exact List.find?_cons_of_pos (by rw [decide_eq_true rfl, decide_eq_true rfl, Bool.and_true])
  · intro named
    exact absurd named (by decide)

theorem drawing_clean {amount : Int} {payeeAddress signature : String}
    (signed : (drawingReceipt amount payeeAddress signature).signatureProblems "" = []) :
    verifyBundle (drawingDocument amount payeeAddress signature) 100 = .ok [] := by
  have clean := verifyReceipt_nil.mpr ⟨drawing_committed amount payeeAddress signature,
    drawing_chained amount payeeAddress signature, signed, rfl⟩
  rw [verifyBundle, drawing_read]
  exact clean

theorem bob_attributed : Attributed (drawingBundle 5 bobReceipt) :=
  ((evidence_attributed_iff (decimalHost_legible []) drawing_ideal drawing_faithful (drawing_read 5 _ bobSignature)
    (drawing_clean bob_signed)).mpr (by decide)).1

/-- Bob's bundle at a hundred times the price, signed by mallory and without an
address, has no problems either. -/
theorem mallory_unreported :
    readBundle (drawingDocument 500 "" mallorySignature) = .ok (drawingBundle 500 malloryReceipt) ∧
      verifyBundle (drawingDocument 5 "0x1D96F2f6BeF1202E4Ce1Ff6Dad0c2CB002861d3e" bobSignature) 100 = .ok [] ∧
      verifyBundle (drawingDocument 500 "" mallorySignature) 100 = .ok [] ∧
      ¬ Attributed (drawingBundle 500 malloryReceipt) ∧
      ¬ SameEvidence (drawingBundle 5 bobReceipt) (drawingBundle 500 malloryReceipt) := by
  refine ⟨drawing_read .., drawing_clean bob_signed, drawing_clean mallory_signed, ?_, ?_⟩
  · intro attributed
    exact absurd attributed.named (by decide)
  · intro same
    have amounts := same.delivery ("amountMinor", "uint256") (by simp [Receipt.typed]) (.int 5) (.int 500) rfl rfl
    exact absurd (amounts.2 rfl 5 500 rfl rfl) (by decide)

end Drawing

end Xcp.Receipts
