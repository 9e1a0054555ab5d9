import Xcp.Library.Ideal
import Xcp.Proofs.DeliveryEvidence

/-! What the root of a call chain stands for: the records that lead to it, each
in its place, and no others. -/

namespace Xcp.Receipts
open Checked Python Eth

/-- A record as its class declares it. -/
structure CallRecord.Declared (record : CallRecord) : Prop where
  seq : ∃ number, record.seq = .int number
  agentId : ∃ number, record.agentId = .int number
  scope : ∃ text, record.scope = .str text
  tool : ∃ text, record.tool = .str text
  argsDigest : ∃ text, record.argsDigest = .str text
  resultDigest : ∃ text, record.resultDigest = .str text
  ts : ∃ number, record.ts = .int number

theorem CallRecord.content_eq (record : CallRecord) : record.content =
    .dict [("agent_id", record.agentId.sorted), ("args_digest", record.argsDigest.sorted),
      ("result_digest", record.resultDigest.sorted), ("scope", record.scope.sorted), ("seq", record.seq.sorted),
      ("tool", record.tool.sorted), ("ts", record.ts.sorted)] := by
  have named (seq agentId scope tool argsDigest resultDigest ts : Json) :
      byName [("seq", seq), ("agent_id", agentId), ("scope", scope), ("tool", tool), ("args_digest", argsDigest),
        ("result_digest", resultDigest), ("ts", ts)] =
      [("agent_id", agentId), ("args_digest", argsDigest), ("result_digest", resultDigest), ("scope", scope), ("seq", seq),
        ("tool", tool), ("ts", ts)] := by
    simp [byName, List.orderedInsert]
  rw [CallRecord.content, CallRecord.toDict, sorted_dict, named]
  rfl

theorem int_of_sorted {first second : Json} (declared : ∃ number, first = .int number) (declared' : ∃ number, second = .int number)
    (same : first.sorted = second.sorted) : first = second := by
  obtain ⟨_, rfl⟩ := declared
  obtain ⟨_, rfl⟩ := declared'
  exact same

theorem str_of_sorted {first second : Json} (declared : ∃ text, first = .str text) (declared' : ∃ text, second = .str text)
    (same : first.sorted = second.sorted) : first = second := by
  obtain ⟨_, rfl⟩ := declared
  obtain ⟨_, rfl⟩ := declared'
  exact same

theorem CallRecord.Declared.eq {record other : CallRecord} (declared : record.Declared) (declared' : other.Declared)
    (same : record.content = other.content) : record = other := by
  simp only [CallRecord.content_eq, Json.dict.injEq, List.cons.injEq, Prod.mk.injEq, true_and, and_true] at same
  obtain ⟨agentId, argsDigest, resultDigest, scope, seq, tool, ts⟩ := same
  rw [CallRecord.mk.injEq]
  exact ⟨int_of_sorted declared.seq declared'.seq seq, int_of_sorted declared.agentId declared'.agentId agentId,
    str_of_sorted declared.scope declared'.scope scope, str_of_sorted declared.tool declared'.tool tool,
    str_of_sorted declared.argsDigest declared'.argsDigest argsDigest,
    str_of_sorted declared.resultDigest declared'.resultDigest resultDigest, int_of_sorted declared.ts declared'.ts ts⟩

/-- The records are the same, up to the order of the members inside their fields,
and equal where they are as their class declares them. -/
structure SameRecords (records others : List CallRecord) : Prop where
  contents : records.map CallRecord.content = others.map CallRecord.content
  equal : (∀ record ∈ records, record.Declared) → (∀ record ∈ others, record.Declared) → records = others

theorem sameRecords_of_contents {records others : List CallRecord}
    (contents : records.map CallRecord.content = others.map CallRecord.content) : SameRecords records others := by
  refine ⟨contents, ?_⟩
  intro declared declared'
  induction records generalizing others with
  | nil => exact (List.map_eq_nil_iff.mp contents.symm).symm
  | cons record rest ih =>
    obtain ⟨other, later, rfl, same, others⟩ := List.map_eq_cons_iff.mp contents.symm
    obtain ⟨first, declared⟩ := List.forall_mem_cons.mp declared
    obtain ⟨first', declared'⟩ := List.forall_mem_cons.mp declared'
    rw [first.eq first' same.symm, ih others.symm declared declared']

/-- Sequence numbers from the given one on, without gaps. -/
def InOrder (index : Nat) (records : List CallRecord) : Prop :=
  ∀ (place : Nat) (record : CallRecord), records[place]? = some record → record.seq.same (.int (index + place : Nat)) = true

theorem inOrder_nil (index : Nat) : InOrder index [] := by
  simp [InOrder]

theorem inOrder_cons {index : Nat} {record : CallRecord} {rest : List CallRecord} :
    InOrder index (record :: rest) ↔ record.seq.same (.int index) = true ∧ InOrder (index + 1) rest := by
  constructor
  · intro ordered
    refine ⟨ordered 0 record rfl, ?_⟩
    intro place later found
    have numbered := ordered (place + 1) later (by simpa using found)
    rwa [show index + (place + 1) = index + 1 + place by omega] at numbered
  · intro ⟨first, ordered⟩ place later found
    cases place with
    | zero =>
      obtain rfl : record = later := by simpa using found
      exact first
    | succ place =>
      rw [show index + (place + 1) = index + 1 + place by omega]
      exact ordered place later (by simpa using found)

theorem inOrder_concat {index : Nat} {records : List CallRecord} {record : CallRecord} (ordered : InOrder index records)
    (last : record.seq.same (.int (index + records.length : Nat)) = true) : InOrder index (records ++ [record]) := by
  induction records generalizing index with
  | nil => exact inOrder_cons.mpr ⟨by simpa using last, inOrder_nil _⟩
  | cons first rest ih =>
    obtain ⟨numbered, ordered⟩ := inOrder_cons.mp ordered
    refine inOrder_cons.mpr ⟨numbered, ih ordered ?_⟩
    rwa [List.length_cons, show index + (rest.length + 1) = index + 1 + rest.length by omega] at last

section Chains
variable [Host] [Packages]

def CallRecord.bytes (record : CallRecord) : List Nat := utf8 record.toDict.canonical

/-- The head after a record. -/
def nextHead (head : List Nat) (record : CallRecord) : List Nat := Packages.keccak (head ++ Packages.keccak record.bytes)

def firstHead : List Nat := List.replicate 32 0

omit [Host] [Packages] in
theorem firstHead_small : ∀ byte ∈ firstHead, byte < 256 := by
  intro byte member
  rw [List.eq_of_mem_replicate member]
  decide

/-- The root that records lead to. -/
def rootOf (records : List CallRecord) : List Nat := records.foldl nextHead firstHead

theorem rootOf_concat (records : List CallRecord) (record : CallRecord) :
    rootOf (records ++ [record]) = nextHead (rootOf records) record := List.foldl_concat ..

/-- What is hashed for records after a head. -/
def hashedAfter : List Nat → List CallRecord → List (List Nat)
  | _, [] => []
  | head, record :: rest => record.bytes :: (head ++ Packages.keccak record.bytes) :: hashedAfter (nextHead head record) rest

def hashedFor (records : List CallRecord) : List (List Nat) := hashedAfter firstHead records

theorem hashedAfter_concat (head : List Nat) (records : List CallRecord) (record : CallRecord) :
    hashedAfter head (records ++ [record]) =
      hashedAfter head records ++ [record.bytes, records.foldl nextHead head ++ Packages.keccak record.bytes] := by
  induction records generalizing head with
  | nil => rfl
  | cons first rest ih => simp [hashedAfter, ih]

theorem hashedFor_concat (records : List CallRecord) (record : CallRecord) : hashedFor (records ++ [record]) =
    hashedFor records ++ [record.bytes, rootOf records ++ Packages.keccak record.bytes] := hashedAfter_concat ..

/-- No two of the inputs have one hash, and none has the first head as its hash. -/
structure Untied (inputs : List (List Nat)) : Prop where
  free : CollisionFree inputs
  fresh : ∀ data ∈ inputs, digest data ≠ genesis

/-- The records lead to the head, each in its place. -/
structure Linked (chain : CallChain) : Prop where
  head : chain.head = "0x" ++ toHex (rootOf chain.records)
  order : InOrder 0 chain.records

/-- A chain that is made by appending to one, or that is read. -/
inductive Built : CallChain → Prop where
  | empty : Built {}
  | append {chain after : CallChain} {record : CallRecord} (built : Built chain) (appended : chain.append record = .ok after) :
    Built after
  | read {document : Json} {chain : CallChain} (read : CallChain.fromDict document = .ok chain) : Built chain

section Sized
variable (sized : SizedHash)
include sized

theorem nextHead_size (head : List Nat) (record : CallRecord) : (nextHead head record).length = 32 := sized.size _

theorem rootOf_size (records : List CallRecord) : (rootOf records).length = 32 := by
  cases records using List.reverseRecOn with
  | nil => rfl
  | append_singleton before record => 
    rw [rootOf_concat]
    exact nextHead_size sized _ record

theorem nextHead_small (head : List Nat) (record : CallRecord) : ∀ byte ∈ nextHead head record, byte < 256 := sized.bytes _

theorem link_next {head : List Nat} (small : ∀ byte ∈ head, byte < 256) (record : CallRecord) :
    CallChain.link ("0x" ++ toHex head) record.recordDigest = .ok ("0x" ++ toHex (nextHead head record)) := by
  have read : fromHex (dropStart record.recordDigest 2) = .ok (Packages.keccak record.bytes) := fromHex_toHex (sized.bytes _)
  rw [CallChain.link, fromHex_toHex small, ok_bind, read]
  rfl

theorem rootOf_small (records : List CallRecord) : ∀ byte ∈ rootOf records, byte < 256 := by
  cases records using List.reverseRecOn with
  | nil => exact firstHead_small
  | append_singleton before record =>
    rw [rootOf_concat]
    exact nextHead_small sized _ record

/-- Recomputing reaches the root of records in order. -/
theorem recompute_ok {head : List Nat} (small : ∀ byte ∈ head, byte < 256) (index : Nat) (records : List CallRecord) :
    ∃ answer, CallChain.recompute ("0x" ++ toHex head) index records = .ok answer ∧
      ∀ root, answer = some root ↔ InOrder index records ∧ "0x" ++ toHex (records.foldl nextHead head) = root := by
  induction records generalizing head index with
  | nil => exact ⟨_, rfl, by simp [inOrder_nil]⟩
  | cons record rest ih =>
    rw [CallChain.recompute]
    split
    next apart =>
      refine ⟨none, rfl, ?_⟩
      have numbered : record.seq.same (.int index) = false := by simpa using apart
      simp [inOrder_cons, numbered]
    next here =>
      obtain ⟨answer, recomputed, answers⟩ := ih (nextHead_small sized head record) (index + 1)
      refine ⟨answer, by rw [link_next sized small, ok_bind, recomputed], ?_⟩
      have numbered : record.seq.same (.int index) = true := by simpa using here
      simp [answers, inOrder_cons, numbered]

theorem verify_ok (chain : CallChain) : ∃ holds, chain.verify = .ok holds ∧ (holds = true ↔ Linked chain) := by
  obtain ⟨answer, recomputed, answers⟩ := recompute_ok sized firstHead_small 0 chain.records
  refine ⟨answer = some chain.head, ?_, ?_⟩
  · have started : CallChain.recompute genesis 0 chain.records = .ok answer := recomputed
    rw [CallChain.verify, started]
    rfl
  · rw [decide_eq_true_eq, answers]
    constructor
    · rintro ⟨order, head⟩
      exact ⟨head.symm, order⟩
    · intro linked
      exact ⟨linked.order, linked.head.symm⟩

/-! ### Chains that are built -/

theorem Linked.append {chain after : CallChain} {record : CallRecord} (linked : Linked chain)
    (appended : chain.append record = .ok after) : Linked after := by
  unfold CallChain.append at appended
  split at appended
  · cases appended
  next here =>
    have numbered : record.seq.same (.int (0 + chain.records.length : Nat)) = true := by simpa using here
    have small : ∀ byte ∈ rootOf chain.records, byte < 256 := rootOf_small sized chain.records
    rw [linked.head, link_next sized small, ok_bind, pure_eq_ok] at appended
    subst appended
    exact ⟨by rw [rootOf_concat], inOrder_concat linked.order numbered⟩

omit [Host] [Packages] sized in
theorem linked_empty [Host] [Packages] : Linked {} := ⟨rfl, inOrder_nil 0⟩

theorem foldlM_linked {records : List CallRecord} {chain after : CallChain} (linked : Linked chain)
    (folded : records.foldlM CallChain.append chain = .ok after) : Linked after := by
  induction records generalizing chain with
  | nil =>
    obtain rfl : chain = after := by simpa using folded
    exact linked
  | cons record rest ih =>
    rw [List.foldlM_cons, bind_eq_ok] at folded
    obtain ⟨next, appended, folded⟩ := folded
    exact ih (linked.append sized appended) folded

theorem Built.linked {chain : CallChain} (built : Built chain) : Linked chain := by
  induction built with
  | empty => exact linked_empty
  | append _ appended ih => exact ih.append sized appended
  | read read =>
    simp only [CallChain.fromDict, bind_eq_ok, pure_eq_ok] at read
    obtain ⟨_, _, _, _, _, _, _, made, _, _, _, _, rfl⟩ := read
    exact foldlM_linked sized linked_empty made

end Sized

/-! ### One root, one list -/

section Roots
omit [Host]
variable {inputs : List (List Nat)} (untied : Untied inputs)
include untied

theorem Untied.mono {fewer : List (List Nat)} (subset : fewer ⊆ inputs) : Untied fewer where
  free := fun data member data' member' same => untied.free data (subset member) data' (subset member') same
  fresh := fun data member => untied.fresh data (subset member)

theorem Untied.inj {data data' : List Nat} (member : data ∈ inputs) (member' : data' ∈ inputs)
    (same : Packages.keccak data = Packages.keccak data') : data = data' := by
  apply untied.free data member data' member'
  rw [digest, same, digest]

theorem Untied.not_first {data : List Nat} (member : data ∈ inputs) : Packages.keccak data ≠ firstHead := by
  intro same
  apply untied.fresh data member
  rw [digest, same]
  rfl

end Roots

/-- A root is led to by one list of records. -/
theorem rootOf_inj (legible : LegibleFloats) (sized : SizedHash) {records others : List CallRecord}
    (untied : Untied (hashedFor records ++ hashedFor others)) (same : rootOf records = rootOf others) :
    records.map CallRecord.content = others.map CallRecord.content := by
  induction records using List.reverseRecOn generalizing others with
  | nil =>
    cases others using List.reverseRecOn with
    | nil => rfl
    | append_singleton rest last =>
      have hashed : rootOf rest ++ Packages.keccak last.bytes ∈ hashedFor [] ++ hashedFor (rest ++ [last]) := by
        simp [hashedFor_concat]
      exact absurd (same.trans (rootOf_concat rest last)).symm (untied.not_first hashed)
  | append_singleton rest last ih =>
    cases others using List.reverseRecOn with
    | nil =>
      have hashed : rootOf rest ++ Packages.keccak last.bytes ∈ hashedFor (rest ++ [last]) ++ hashedFor [] := by
        simp [hashedFor_concat]
      exact absurd ((rootOf_concat rest last).symm.trans same) (untied.not_first hashed)
    | append_singleton rest' last' =>
      rw [rootOf_concat, rootOf_concat, nextHead, nextHead] at same
      rw [hashedFor_concat, hashedFor_concat] at untied
      -- both heads have the size of a hash, so that what was hashed last splits into its two parts
      have joined := untied.inj (by simp) (by simp) same
      obtain ⟨before, here⟩ := List.append_inj joined ((rootOf_size sized rest).trans (rootOf_size sized rest').symm)
      have bytes : last.bytes = last'.bytes := untied.inj (by simp) (by simp) here
      have texts : last.toDict.canonical = last'.toDict.canonical := String.toList_inj.mp (utf8_isCode.flatMap_inj bytes)
      have content : last.content = last'.content := canonical_inj legible texts
      have subset : hashedFor rest ++ hashedFor rest' ⊆ hashedFor rest ++ [last.bytes, rootOf rest ++ Packages.keccak last.bytes] ++
          (hashedFor rest' ++ [last'.bytes, rootOf rest' ++ Packages.keccak last'.bytes]) := by
        apply List.append_subset.mpr
        constructor
        · exact List.Subset.trans (List.subset_append_left ..) (List.subset_append_left ..)
        · exact List.Subset.trans (List.subset_append_left ..) (List.subset_append_right ..)
      have earlier := ih (untied.mono subset) before
      rw [List.map_append, List.map_append, earlier, List.map_singleton, List.map_singleton, content]

/-- A document of a chain that keeps its root and names other records. -/
def underRoot (root : String) (records : List CallRecord) : Json :=
  .dict [("root", .str root), ("count", .int records.length), ("records", .list (records.map CallRecord.toDict))]

theorem fromDict_ok {document : Json} {chain : CallChain} (read : CallChain.fromDict document = .ok chain) :
    (∃ stated items records, document.get "records" (.list []) = .ok stated ∧ stated.toList = .ok items ∧
      items.mapM CallRecord.fromDict = .ok records ∧ CallChain.fromRecords records = .ok chain) ∧
    ∀ root, document.get "root" = .ok root → root.truthy = true → root = .str chain.head := by
  simp only [CallChain.fromDict, bind_eq_ok, pure_eq_ok, require_eq_ok] at read
  obtain ⟨stated, found, items, listed, records, each, made, folded, root, held, _, same, rfl⟩ := read
  refine ⟨⟨stated, items, records, found, listed, each, folded⟩, ?_⟩
  intro root' held' truthy
  obtain rfl : root = root' := Except.ok.inj (held.symm.trans held')
  simpa using same truthy

theorem foldlM_records {records : List CallRecord} {chain after : CallChain}
    (folded : records.foldlM CallChain.append chain = .ok after) : after.records = chain.records ++ records := by
  induction records generalizing chain with
  | nil =>
    obtain rfl : chain = after := by simpa using folded
    exact (List.append_nil _).symm
  | cons record rest ih =>
    rw [List.foldlM_cons, bind_eq_ok] at folded
    obtain ⟨next, appended, folded⟩ := folded
    have longer : next.records = chain.records ++ [record] := by
      unfold CallChain.append at appended
      split at appended
      · cases appended
      · simp only [bind_eq_ok, pure_eq_ok] at appended
        obtain ⟨_, _, rfl⟩ := appended
        rfl
    rw [ih folded, longer, List.append_assoc, List.singleton_append]

theorem fromDict_underRoot {root : String} {altered : List CallRecord} {chain : CallChain}
    (read : CallChain.fromDict (underRoot root altered) = .ok chain) : chain.records = altered := by
  obtain ⟨⟨stated, items, records, found, listed, each, folded⟩, _⟩ := fromDict_ok read
  obtain rfl : Json.list (altered.map CallRecord.toDict) = stated := Except.ok.inj found
  obtain rfl : altered.map CallRecord.toDict = items := Except.ok.inj listed
  rw [List.mapM_map, mapM_fromDict_toDict, Except.ok.injEq] at each
  rw [foldlM_records folded, ← each]
  rfl

/-- A root stands for the records of its chain. A chain verifies exactly where its
records lead to its head in order, it survives its own document, and no other
records are taken under its root. -/
theorem chains_tamper_evident (legible : LegibleFloats) (sized : SizedHash) :
    (∀ chain other, Built chain → Built other → Untied (hashedFor chain.records ++ hashedFor other.records) →
      chain.head = other.head → SameRecords chain.records other.records) ∧
    (∀ chain : CallChain, ∃ holds, chain.verify = .ok holds ∧ (holds = true ↔ Linked chain)) ∧
    (∀ chain, Built chain → CallChain.fromDict chain.toDict = .ok chain) ∧
    (∀ chain document other, Built chain → document.get "root" = .ok (.str chain.head) →
      CallChain.fromDict document = .ok other → Untied (hashedFor chain.records ++ hashedFor other.records) →
      SameRecords chain.records other.records) ∧
    (∀ chain altered, Built chain → Untied (hashedFor chain.records ++ hashedFor altered) →
      SameRecords chain.records altered ∨ ∃ exception, CallChain.fromDict (underRoot chain.head altered) = .error exception) := by
  have committed : ∀ chain other, Built chain → Built other → Untied (hashedFor chain.records ++ hashedFor other.records) →
      chain.head = other.head → SameRecords chain.records other.records := by
    intro chain other built built' untied same
    have heads : "0x" ++ toHex (rootOf chain.records) = "0x" ++ toHex (rootOf other.records) := by
      rw [← (built.linked sized).head, ← (built'.linked sized).head, same]
    have read := fromHex_toHex (rootOf_small sized chain.records)
    rw [heads, fromHex_toHex (rootOf_small sized other.records), Except.ok.injEq] at read
    exact sameRecords_of_contents (rootOf_inj legible sized untied read.symm)
  have read : ∀ chain document other, Built chain → document.get "root" = .ok (.str chain.head) →
      CallChain.fromDict document = .ok other → Untied (hashedFor chain.records ++ hashedFor other.records) →
      SameRecords chain.records other.records := by
    intro chain document other built stated reading untied
    have truthy : (Json.str chain.head).truthy = true := by
      rw [(built.linked sized).head]
      exact truthy_append "0x" _ (by decide)
    have same := Json.str.inj ((fromDict_ok reading).2 _ stated truthy)
    exact committed chain other built (.read reading) untied same
  refine ⟨committed, verify_ok sized, ?_, read, ?_⟩
  · intro chain built
    obtain ⟨holds, verified, linked⟩ := verify_ok sized chain
    rw [linked.mpr (built.linked sized)] at verified
    exact CallChain.fromDict_toDict verified
  · intro chain altered built untied
    cases reading : CallChain.fromDict (underRoot chain.head altered) with
    | error exception => exact .inr ⟨exception, rfl⟩
    | ok other =>
      have records := fromDict_underRoot reading
      have same := read chain _ other built rfl reading (by rwa [records])
      exact .inl (records ▸ same)

end Chains

section Drawing
attribute [local instance] drawingHost

def drawingRoot : List Nat :=
  [157, 95, 208, 74, 53, 41, 87, 154, 142, 255, 207, 108, 3, 158, 141, 176, 145, 194, 22, 6, 28, 144, 146, 75, 154, 151, 94, 207,
   107, 143, 35, 21]

/-- What is hashed for the chain of a drawing. -/
def chainHashes : List (List Nat × List Nat) := [(firstHead ++ callHash, drawingRoot), (drawingCall.bytes, callHash)]

/-- These hashes, where every other input has one hash. -/
local instance chainPackages : Packages :=
  { tablePackages [] [] with keccak := fun data => (chainHashes.lookup data).getD (List.replicate 32 1) }

theorem chain_sized : SizedHash := by
  have entries : ∀ entry ∈ chainHashes, entry.2.length = 32 ∧ ∀ byte ∈ entry.2, byte < 256 := by
    simp only [chainHashes, List.forall_mem_cons]
    decide
  have sized : ∀ data, (Packages.keccak data).length = 32 ∧ ∀ byte ∈ Packages.keccak data, byte < 256 := by
    intro data
    simp only [Packages.keccak]
    cases found : chainHashes.lookup data with
    | none => decide
    | some hash =>
      obtain ⟨before, after, same, _⟩ := List.lookup_eq_some_iff.mp found
      exact entries (data, hash) (by simp [same])
  exact ⟨fun data => (sized data).1, fun data => (sized data).2⟩

/-- A record begins with a brace and a head with a zero. -/
theorem call_ne_link : drawingCall.bytes ≠ firstHead ++ callHash := by
  have brace : drawingCall.bytes.head? = some 123 := rfl
  intro same
  rw [same] at brace
  exact absurd brace (by decide)

theorem keccak_call : Packages.keccak drawingCall.bytes = callHash := by
  have found : chainHashes.lookup drawingCall.bytes = some callHash := by
    simp [chainHashes, List.lookup_cons, beq_false_of_ne call_ne_link]
  exact congrArg (Option.getD · _) found

theorem keccak_link : Packages.keccak (firstHead ++ Packages.keccak drawingCall.bytes) = drawingRoot := by
  have found : chainHashes.lookup (firstHead ++ callHash) = some drawingRoot := by simp [chainHashes]
  rw [keccak_call]
  exact congrArg (Option.getD · _) found

theorem drawing_untied : Untied (hashedFor [drawingCall] ++ hashedFor []) := by
  have inputs : hashedFor [drawingCall] ++ hashedFor [] = [drawingCall.bytes, firstHead ++ Packages.keccak drawingCall.bytes] := rfl
  have call : digest drawingCall.bytes = "0x" ++ toHex callHash := by rw [digest, keccak_call]
  have link : digest (firstHead ++ Packages.keccak drawingCall.bytes) = "0x" ++ toHex drawingRoot := by rw [digest, keccak_link]
  have apart : "0x" ++ toHex callHash ≠ "0x" ++ toHex drawingRoot := by decide
  refine ⟨?_, ?_⟩
  · intro data member data' member' same
    rw [inputs, List.mem_pair] at member member'
    obtain rfl | rfl := member <;> obtain rfl | rfl := member'
    · rfl
    · exact absurd (call.symm.trans (same.trans link)) apart
    · exact absurd (call.symm.trans (same.symm.trans link)) apart
    · rfl
  · intro data member
    rw [inputs, List.mem_pair] at member
    obtain rfl | rfl := member
    · rw [call]
      decide
    · rw [link]
      decide

theorem drawing_appended :
    CallChain.append {} drawingCall = .ok { records := [drawingCall], head := "0x" ++ toHex drawingRoot } := by
  have linked : CallChain.link genesis drawingCall.recordDigest = .ok ("0x" ++ toHex (nextHead firstHead drawingCall)) :=
    link_next chain_sized firstHead_small drawingCall
  have inOrder : drawingCall.seq.same (.int (0 : Nat)) = true := by decide
  rw [CallChain.append]
  simp only [List.length_nil, inOrder, Bool.not_true, Bool.false_eq_true, if_false, linked, ok_bind]
  rw [nextHead, keccak_link]
  rfl

/-- Without its only record the chain of a drawing is not read under its root. -/
theorem chains_tamper_evident_drawing :
    ∃ exception, CallChain.fromDict (underRoot ("0x" ++ toHex drawingRoot) []) = .error exception := by
  have evident := chains_tamper_evident (decimalHost_legible []) chain_sized
  apply (evident.2.2.2.2 _ [] (.append .empty drawing_appended) drawing_untied).resolve_left
  intro same
  cases same.contents

end Drawing

end Xcp.Receipts
