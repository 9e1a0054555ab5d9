import Xcp.Proofs.NodeIdentityBinding
import Xcp.Proofs.SharedSessions

/-! Who is verified, as three gateways have it that were sent the same requests. They
take different headers for well formed, compare different fields of them with the
session, and let it end at different times of its last second. -/

namespace Xcp.VerdictAgreement
open Checked
open Digits (Decimal value)
open Gateway (HttpRequest World)
open IdentityGrammar (Short fields)
open JavaScript (Engine Unicode)
open Node (isFootprint isHex isLowerHex)
open Python (Double Host Json lowerAscii truncate_eq_floor)
open SharedSessions
open Transition

/-! ### Verdicts -/

section Verdicts
variable [Host] [Unicode] [Engine] (gateways : Gateways) (state : State) (world : World) (request : HttpRequest)

def PythonVerifies : Prop :=
  ∃ ctx, Gateway.parseCtx gateways.config world state.registry request = .ok ctx ∧ ctx.verified = true

omit [Host] in
def GatewayTsVerifies : Prop :=
  ∃ bindings identity, state.bindings = some bindings ∧
    GatewayTs.parseIdentity bindings world.now (Node.header request "xcp-agent-identity") = .ok identity

def ImplNodeVerifies : Prop :=
  ∃ sessions identity, state.sessions = some sessions ∧
    ImplNode.parseIdentity sessions world.now (Node.header request "xcp-agent-identity") = .ok identity

/-- The three gateways have one verdict on a request. -/
structure Agree : Prop where
  gatewayTs : PythonVerifies gateways state world request ↔ GatewayTsVerifies state world request
  implNode : PythonVerifies gateways state world request ↔ ImplNodeVerifies state world request

end Verdicts

/-! ### Headers that Python reads -/

section Reading

/-- The bytes of a header, each of them a letter. -/
def OfBytes (header : String) : Prop := ∀ letter ∈ header.toList, letter.toNat < 256

instance (header : String) : Decidable (OfBytes header) :=
  decidable_of_iff (header.toList.all (fun letter => decide (letter.toNat < 256)) = true) (by simp [OfBytes])

theorem decimal?_latin {letter : Char} (byte : letter.toNat < 256) (digit : (Python.decimal? letter).isSome = true) :
    Digits.isAsciiDigit letter = true := by
  have zeros : ∀ start ∈ Python.decimalZeros, start = 0x30 ∨ 256 ≤ start := by decide
  rw [Python.decimal?, Option.isSome_map, List.find?_isSome] at digit
  obtain ⟨start, member, within⟩ := digit
  simp only [Bool.and_eq_true, decide_eq_true_eq] at within
  rw [Digits.isAsciiDigit_iff]
  have known := zeros start member
  omega

/-- Of the letters that `isdigit` takes for digits, three more are bytes. -/
theorem isDigitChar_latin {letter : Char} (byte : letter.toNat < 256) (digit : Python.isDigitChar letter = true) :
    Digits.isAsciiDigit letter = true ∨ letter.toNat = 0xb2 ∨ letter.toNat = 0xb3 ∨ letter.toNat = 0xb9 := by
  have ranges : ∀ range ∈ Python.digitRanges, range = (0xb2, 0xb3) ∨ range = (0xb9, 0xb9) ∨ 256 ≤ range.1 := by decide
  rw [Python.isDigitChar, Bool.or_eq_true] at digit
  obtain decimal | other := digit
  · exact .inl (decimal?_latin byte decimal)
  · obtain ⟨range, member, within⟩ := List.any_eq_true.mp other
    simp only [Bool.and_eq_true, decide_eq_true_eq] at within
    obtain rfl | rfl | above := ranges range member
    · simp only at within
      omega
    · simp only at within
      omega
    · omega

theorem digitsOf_some {letters : List Char} {digits : List Nat} (read : Python.digitsOf letters = some digits) :
    ∀ letter ∈ letters, letter = '_' ∨ (Python.decimal? letter).isSome = true := by
  induction letters using Python.digitsOf.induct generalizing digits with
  | case1 => exact fun letter member => by cases member
  | case2 last =>
    rw [Python.digitsOf, Option.map_eq_some_iff] at read
    obtain ⟨digit, found, -⟩ := read
    intro letter member
    rw [List.mem_singleton.mp member, found]
    exact .inr rfl
  | case3 first rest ih =>
    rw [Python.digitsOf, Option.bind_eq_bind, Option.bind_eq_some_iff] at read
    obtain ⟨digit, found, read⟩ := read
    obtain ⟨others, later, -⟩ := Option.bind_eq_some_iff.mp read
    intro letter member
    obtain rfl | rfl | member : letter = first ∨ letter = '_' ∨ letter ∈ rest := by simpa using member
    · exact .inr (by rw [found]; rfl)
    · exact .inl rfl
    · exact ih later letter member
  | case4 first rest nonempty plain ih =>
    rw [Python.digitsOf, Option.bind_eq_bind, Option.bind_eq_some_iff] at read
    · obtain ⟨digit, found, read⟩ := read
      obtain ⟨others, later, -⟩ := Option.bind_eq_some_iff.mp read
      intro letter member
      obtain rfl | member := List.mem_cons.mp member
      · exact .inr (by rw [found]; rfl)
      · exact ih later letter member
    · exact nonempty
    · exact plain

/-- Bytes that `isdigit` passes and `int` reads are ASCII digits, few enough. -/
theorem intOfText_latin {text : String} (bytes : OfBytes text) (digits : Python.isDigit text = true) {number : Int}
    (read : Python.intOfText text = .ok number) : Short text ∧ number = (value text.toList : Int) := by
  rw [Python.isDigit, Bool.and_eq_true, decide_eq_true_iff, List.all_eq_true] at digits
  obtain ⟨present, digits⟩ := digits
  have codes (letter : Char) (member : letter ∈ text.toList) := isDigitChar_latin (bytes letter member) (digits letter member)
  have bare : Strip.Bare Python.isIntSpace text.toList := by
    have solid (letter : Char) (member : letter ∈ text.toList) : Python.isIntSpace letter = false := by
      have known := codes letter member
      rw [Digits.isAsciiDigit_iff] at known
      simp [Python.isIntSpace, Python.isSpace]
      omega
    exact ⟨fun letter found => solid letter (List.mem_of_mem_head? found),
      fun letter found => solid letter (List.mem_of_mem_getLast? found)⟩
  have unsigned (letter : Char) (rest : List Char) (whole : text.toList = letter :: rest) : letter ≠ '-' ∧ letter ≠ '+' := by
    have known := codes letter (by rw [whole]; exact List.mem_cons_self ..)
    rw [Digits.isAsciiDigit_iff] at known
    constructor
    · rintro rfl
      revert known
      decide
    · rintro rfl
      revert known
      decide
  cases parsed : Python.parseInt? text with
  | none => simp [Python.intOfText, parsed, Python.raise] at read
  | some found =>
    have ascii : Decimal text.toList := by
      refine ⟨fun nothing => present (String.toList_eq_nil_iff.mp nothing), fun letter member => ?_⟩
      have known : ∃ values, Python.digitsOf text.toList = some values := by
        simp only [Python.parseInt?, Strip.stripBy_of_bare bare] at parsed
        split at parsed
        next rest whole => exact absurd rfl (unsigned '-' rest whole).1
        next rest whole => exact absurd rfl (unsigned '+' rest whole).2
        next =>
          obtain ⟨values, held, -⟩ := Option.bind_eq_some_iff.mp parsed
          exact ⟨values, held⟩
      obtain ⟨values, known⟩ := known
      obtain rfl | decimal := digitsOf_some known letter member
      · exact absurd (digits '_' member) (by decide)
      · exact decimal?_latin (bytes letter member) decimal
    rw [Digits.python_parseInt? ascii] at parsed
    split at parsed
    next short =>
      simp only [Python.intOfText, Digits.python_parseInt? ascii, if_pos short, Except.ok.injEq] at read
      exact ⟨⟨ascii, short⟩, read.symm⟩
    next => cases parsed

theorem tryParse_ok_iff {header : String} (bytes : OfBytes header) {identity : Protocol.AgentIdentityHeader} :
    Protocol.tryParse header = .ok (.ok identity) ↔
      ∃ agentId chainId, fields header = [agentId, chainId, identity.footprint] ∧ Short agentId ∧ Short chainId ∧
        identity.agentId = (value agentId.toList : Int) ∧ identity.chainId = (value chainId.toList : Int) := by
  have split_by : Python.splitOn (Protocol.stripOws header) ';' = fields header := rfl
  constructor
  · intro read
    rw [Protocol.tryParse, split_by] at read
    split at read
    next agentId chainId footprint split =>
      obtain ⟨before, after, whole, -⟩ := IdentityGrammar.whole_of_fields split
      have first : OfBytes agentId := fun letter member => bytes letter (by simp [whole, member])
      have second : OfBytes chainId := fun letter member => bytes letter (by simp [whole, member])
      split at read
      next digits =>
        obtain ⟨digits, digits'⟩ := Bool.and_eq_true_iff.mp digits
        simp only [bind_eq_ok, pure_eq_ok] at read
        obtain ⟨number, one, number', two, same⟩ := read
        obtain ⟨short, rfl⟩ := intOfText_latin first digits one
        obtain ⟨short', rfl⟩ := intOfText_latin second digits' two
        obtain rfl := Except.ok.inj same
        exact ⟨agentId, chainId, split, short, short', rfl, rfl⟩
      · cases read
    · cases read
  · intro spelled
    obtain ⟨agentId, chainId, split, short, short', one, two⟩ := spelled
    rw [Protocol.tryParse, split_by, split]
    simp only [IdentityGrammar.python_isDigit short.1, IdentityGrammar.python_isDigit short'.1, Bool.and_self, if_true,
      IdentityGrammar.intOfText_short short, IdentityGrammar.intOfText_short short', ok_bind]
    rw [← one, ← two]
    rfl

end Reading

/-! ### What each of them checks -/

section Checks
variable [Engine] (now : Rat) (entry : Entry) (agentId chainId : String)

/-- A header that names no agent is for any session. -/
structure PythonMatch : Prop where
  standing : entry.revoked = false
  current : ⌊now⌋ < ⌊entry.opened⌋ + 7 * 86400
  agent : Short agentId
  chain : Short chainId
  same : value agentId.toList = 0 ∨ entry.agentId = value agentId.toList

structure GatewayTsMatch : Prop where
  standing : entry.revoked = false
  current : ⌊now⌋ ≤ ⌊entry.opened⌋ + 7 * 86400
  agent : Decimal agentId.toList
  chain : Decimal chainId.toList
  same : Engine.toDouble (value agentId.toList : Rat) = Engine.toDouble entry.agentId

structure ImplNodeMatch : Prop where
  standing : entry.revoked = false
  current : now ≤ entry.opened + 7 * 86400
  agent : Decimal agentId.toList

end Checks

section Local
variable [Host] {gateways : Gateways} {state : State} {world : World} {request : HttpRequest}

theorem verifySession_local (own : Local gateways) {footprint : String} {agentId : Int} :
    (∃ verdict, Gateway.verifySession gateways.config world state.registry (.str footprint) agentId = .ok verdict ∧
      verdict.ok = true) ↔
      ∃ binding, state.registry (.str footprint) = some binding ∧ binding.valid world.now = true ∧
        (agentId = 0 ∨ binding.agentId = agentId) := by
  simp only [Gateway.verifySession, own.standalone, ne_eq, not_true_eq_false, if_false, Json.key_str, ok_bind]
  cases state.registry (.str footprint) with
  | none => simp [pure, Except.pure]
  | some binding =>
    by_cases valid : binding.valid world.now = true
    · by_cases same : agentId = 0 ∨ binding.agentId = agentId
      · have kept : ¬ (agentId ≠ 0 ∧ binding.agentId ≠ agentId) := by simpa [imp_iff_not_or] using same
        simp [valid, kept, same, pure, Except.pure]
      · have other : agentId ≠ 0 ∧ binding.agentId ≠ agentId := not_or.mp same
        simp [valid, other, pure, Except.pure]
    · simp [valid, pure, Except.pure]

/-- A request is verified where its header is read and a binding is the named agent's. -/
theorem pythonVerifies_registry (own : Local gateways) (bytes : OfBytes (request.header "xcp-agent-identity")) :
    PythonVerifies gateways state world request ↔
      ∃ agentId chainId footprint binding, fields (request.header "xcp-agent-identity") = [agentId, chainId, footprint] ∧
        Short agentId ∧ Short chainId ∧ state.registry (.str footprint) = some binding ∧ binding.valid world.now = true ∧
        (value agentId.toList = 0 ∨ binding.agentId = value agentId.toList) := by
  constructor
  · intro accepted
    obtain ⟨ctx, parsed, verified⟩ := accepted
    simp only [Gateway.parseCtx, bind_eq_ok] at parsed
    obtain ⟨header, read, parsed⟩ := parsed
    cases header with
    | error reason =>
      cases parsed
      cases verified
    | ok identity =>
      simp only [bind_eq_ok, pure_eq_ok] at parsed
      obtain ⟨verdict, answered, rfl⟩ := parsed
      obtain ⟨agentId, chainId, split, agent, chain, number, -⟩ := (tryParse_ok_iff bytes).mp read
      obtain ⟨binding, held, valid, same⟩ := (verifySession_local own).mp ⟨verdict, answered, verified⟩
      rw [number] at same
      exact ⟨agentId, chainId, _, binding, split, agent, chain, held, valid, by exact_mod_cast same⟩
  · intro registered
    obtain ⟨agentId, chainId, footprint, binding, split, agent, chain, held, valid, same⟩ := registered
    have read : Protocol.tryParse (request.header "xcp-agent-identity") =
        .ok (.ok ⟨(value agentId.toList : Int), (value chainId.toList : Int), footprint⟩) :=
      (tryParse_ok_iff bytes).mpr ⟨agentId, chainId, split, agent, chain, rfl, rfl⟩
    obtain ⟨verdict, answered, ok⟩ :=
      (verifySession_local own).mpr ⟨binding, held, valid, (by exact_mod_cast same : (value agentId.toList : Int) = 0 ∨ _)⟩
    refine ⟨{ agentId := .int (value agentId.toList), chainId := .int (value chainId.toList), footprint := .str footprint,
              verified := verdict.ok, reason := verdict.reason, binding := verdict.binding }, ?_, ok⟩
    simp only [Gateway.parseCtx, read, ok_bind, answered]
    rfl

end Local

section Tables
variable [Host] [Unicode] [Engine] {gateways : Gateways} {book : Book} {state : State} (refines : Refines book state)
  (world : World) (request : HttpRequest)
include refines

omit [Host] [Unicode] [Engine] refines in
theorem valid_iff {entry : Entry} {binding : Gateway.Binding} (held : PythonEntry entry binding) {now : Rat} (clock : 0 ≤ now)
    (opened : 0 ≤ entry.opened) :
    binding.valid now = true ↔ entry.revoked = false ∧ ⌊now⌋ < ⌊entry.opened⌋ + 7 * 86400 := by
  simp [Gateway.Binding.valid, held.revoked, held.notAfter, truncate_eq_floor clock, truncate_eq_floor opened,
    Gateway.sevenDays]

omit [Unicode] in
theorem pythonVerifies_iff (own : Local gateways) (clock : 0 ≤ world.now)
    (bytes : OfBytes (request.header "xcp-agent-identity")) :
    PythonVerifies gateways state world request ↔
      ∃ agentId chainId footprint entry, fields (request.header "xcp-agent-identity") = [agentId, chainId, footprint] ∧
        book footprint = some entry ∧ PythonMatch world.now entry agentId chainId := by
  rw [pythonVerifies_registry own bytes]
  constructor
  · intro ⟨agentId, chainId, footprint, binding, split, agent, chain, held, valid, same⟩
    have related := refines.python footprint
    rw [held] at related
    obtain ⟨entry, found, kept⟩ := rel_of_held related
    obtain ⟨standing, current⟩ := (valid_iff kept clock (refines.clock footprint entry found)).mp valid
    rw [kept.agentId] at same
    exact ⟨agentId, chainId, footprint, entry, split, found, standing, current, agent, chain, same⟩
  · intro ⟨agentId, chainId, footprint, entry, split, found, passes⟩
    have related := refines.python footprint
    rw [found] at related
    obtain ⟨binding, held, kept⟩ := rel_of_entry related
    have valid := (valid_iff kept clock (refines.clock footprint entry found)).mpr ⟨passes.standing, passes.current⟩
    refine ⟨agentId, chainId, footprint, binding, split, passes.agent, passes.chain, held, valid, ?_⟩
    rw [kept.agentId]
    exact passes.same

omit [Host] in
theorem gatewayTsVerifies_iff (rounds : Rounds) (lowercases : Lowercases) :
    GatewayTsVerifies state world request ↔
      ∃ agentId chainId footprint entry, fields (request.header "xcp-agent-identity") = [agentId, chainId, footprint] ∧
        book footprint = some entry ∧ GatewayTsMatch world.now entry agentId chainId := by
  obtain ⟨bindings, running, table⟩ := refines.gatewayTs
  constructor
  · intro accepted
    obtain ⟨bindings', identity, running', parsed⟩ := accepted
    obtain rfl : bindings = bindings' := Option.some.inj (running.symm.trans running')
    obtain ⟨agentId, chainId, split, -, verified⟩ := GatewayTs.parseIdentity_ok_iff.mp parsed
    have key : Unicode.toLowerCase identity.footprint = identity.footprint := by
      rw [lowercases.footprint (isFootprint_hex verified.shape), lowerAscii_isLowerHex verified.shape]
    have live := verified.live
    rw [key] at live
    have related := table identity.footprint
    rw [live.stored] at related
    obtain ⟨entry, found, kept⟩ := rel_of_held related
    refine ⟨agentId, chainId, identity.footprint, entry, split, found, ?_⟩
    exact {
      standing := by rw [← kept.revoked, live.standing]
      current := by
        rw [← kept.notAfter]
        exact live.current
      agent := verified.decimal
      chain := verified.chain
      same := by
        have same := verified.same
        rw [JavaScript.strictlyEqual, Bool.and_eq_true, decide_eq_true_iff, kept.agentId] at same
        exact same.1 }
  · intro registered
    obtain ⟨agentId, chainId, footprint, entry, split, found, passes⟩ := registered
    have shape := refines.keys footprint entry found
    have key : Unicode.toLowerCase footprint = footprint := by
      rw [lowercases.footprint (isFootprint_hex shape), lowerAscii_isLowerHex shape]
    have related := table footprint
    rw [found] at related
    obtain ⟨binding, held, kept⟩ := rel_of_entry related
    have live : GatewayTs.Live bindings world.now (Unicode.toLowerCase footprint) binding := {
      stored := by rw [key, held]
      standing := by rw [kept.revoked, passes.standing]
      current := by
        rw [kept.notAfter]
        exact passes.current }
    have same : JavaScript.strictlyEqual (Engine.toDouble (value agentId.toList : Rat)) binding.agentId = true := by
      rw [JavaScript.strictlyEqual, passes.same, kept.agentId]
      simpa using rounds.number entry.agentId
    have verified : GatewayTs.Verified bindings world.now agentId chainId footprint binding :=
      ⟨passes.agent, passes.chain, shape, live, same⟩
    exact ⟨bindings, _, running, verified.parses split⟩

omit [Host] in
theorem implNodeVerifies_iff (lowercases : Lowercases) :
    ImplNodeVerifies state world request ↔
      ∃ agentId chainId footprint entry, fields (request.header "xcp-agent-identity") = [agentId, chainId, footprint] ∧
        isFootprint isHex footprint = true ∧ book (lowerAscii footprint) = some entry ∧ ImplNodeMatch world.now entry agentId := by
  obtain ⟨sessions, running, table⟩ := refines.implNode
  constructor
  · intro ⟨sessions', identity, running', parsed⟩
    obtain rfl : sessions = sessions' := Option.some.inj (running.symm.trans running')
    obtain ⟨agentId, chainId, session, split, -, -, verified⟩ := ImplNode.parseIdentity_ok_iff.mp parsed
    have stored := verified.stored
    rw [lowercases.footprint verified.shape] at stored
    have related := table (lowerAscii identity.footprint)
    rw [stored] at related
    obtain ⟨entry, filtered, kept⟩ := rel_of_held related
    obtain ⟨found, standing⟩ := Option.filter_eq_some_iff.mp filtered
    refine ⟨agentId, chainId, identity.footprint, entry, split, verified.shape, found, ?_⟩
    exact {
      standing := by simpa [Entry.standing] using standing
      current := by
        rw [← kept.notAfter]
        exact verified.current
      agent := verified.decimal }
  · intro ⟨agentId, chainId, footprint, entry, split, shape, found, passes⟩
    have related := table (lowerAscii footprint)
    have filtered : (book (lowerAscii footprint)).filter Entry.standing = some entry :=
      Option.filter_eq_some_iff.mpr ⟨found, by simp [Entry.standing, passes.standing]⟩
    rw [filtered] at related
    obtain ⟨session, held, kept⟩ := rel_of_entry related
    have verified : ImplNode.Verified sessions world.now agentId footprint session := {
      decimal := passes.agent
      shape
      stored := by rw [lowercases.footprint shape, held]
      current := by
        rw [kept.notAfter]
        exact passes.current }
    exact ⟨sessions, _, running, verified.parses split⟩

end Tables

/-! ### Agreement -/

/-- A header for a session is fit for all three gateways, or for none of them. In the last
second of the session it is over in Python, until the second ends in one of the others,
and until the time of day it was opened at in the third. -/
structure Undisputed [Engine] (now : Rat) (entry : Entry) (agentId chainId footprint : String) : Prop where
  before : ⌊now⌋ < ⌊entry.opened⌋ + 7 * 86400 → Decimal agentId.toList →
    lowerAscii footprint = footprint ∧ Short agentId ∧ Short chainId ∧ entry.agentId = value agentId.toList
  last : ⌊now⌋ = ⌊entry.opened⌋ + 7 * 86400 → Decimal agentId.toList →
    entry.opened + 7 * 86400 < now ∧ ¬ (lowerAscii footprint = footprint ∧ Decimal chainId.toList ∧
      Engine.toDouble (value agentId.toList : Rat) = Engine.toDouble entry.agentId)

/-- A header is undisputed for the session that it names, in letters of either case. -/
def UndisputedHeader [Engine] (book : Book) (now : Rat) (header : String) : Prop :=
  ∀ agentId chainId footprint, fields header = [agentId, chainId, footprint] → isFootprint isHex footprint = true →
    ∀ entry, book (lowerAscii footprint) = some entry → entry.revoked = false →
      Undisputed now entry agentId chainId footprint

section Matches
variable [Engine] {now : Rat} {entry : Entry} {agentId chainId footprint : String}

omit [Engine] in
theorem le_of_floor_lt (earlier : ⌊now⌋ < ⌊entry.opened⌋ + 7 * 86400) : now ≤ entry.opened + 7 * 86400 := by
  have next : ((⌊now⌋ + 1 : Int) : Rat) ≤ ((⌊entry.opened⌋ + 7 * 86400 : Int) : Rat) := Int.cast_le.mpr earlier
  have below := Int.lt_floor_add_one now
  have start := Int.floor_le entry.opened
  push_cast at next
  linarith

omit [Engine] in
theorem floor_le_of_le (current : now ≤ entry.opened + 7 * 86400) : ⌊now⌋ ≤ ⌊entry.opened⌋ + 7 * 86400 := by
  have floors := Int.floor_le_floor current
  have whole : ⌊entry.opened + 7 * 86400⌋ = ⌊entry.opened⌋ + 7 * 86400 := by
    exact_mod_cast Int.floor_add_intCast entry.opened (7 * 86400)
  rwa [whole] at floors

/-- Where the name is in small letters, all three look at the session. -/
theorem matches_iff (rounds : Rounds) (small : lowerAscii footprint = footprint) :
    ((PythonMatch now entry agentId chainId ↔ GatewayTsMatch now entry agentId chainId) ∧
      (PythonMatch now entry agentId chainId ↔ ImplNodeMatch now entry agentId)) ↔
      (entry.revoked = false → Undisputed now entry agentId chainId footprint) := by
  rcases lt_trichotomy ⌊now⌋ (⌊entry.opened⌋ + 7 * 86400) with earlier | last | later
  · constructor
    · intro ⟨gatewayTs, implNode⟩ standing
      refine ⟨fun _ decimal => ?_, fun same => absurd same earlier.ne⟩
      have python := implNode.mpr ⟨standing, le_of_floor_lt earlier, decimal⟩
      refine ⟨small, python.agent, python.chain, ?_⟩
      obtain zero | same := python.same
      · have rounded := (gatewayTs.mp python).same
        rw [zero] at rounded ⊢
        by_contra other
        have nonzero : entry.agentId ≠ 0 := by exact_mod_cast other
        apply rounds.present entry.agentId nonzero
        rw [← rounded]
        exact_mod_cast rounds.zero
      · exact same
    · intro undisputed
      have all (standing : entry.revoked = false) (decimal : Decimal agentId.toList) :
          PythonMatch now entry agentId chainId ∧ GatewayTsMatch now entry agentId chainId ∧ ImplNodeMatch now entry agentId := by
        obtain ⟨-, agent, chain, same⟩ := (undisputed standing).before earlier decimal
        have rounded : Engine.toDouble (value agentId.toList : Rat) = Engine.toDouble entry.agentId := by
          rw [same]
          push_cast
          rfl
        exact ⟨⟨standing, earlier, agent, chain, .inr same⟩, ⟨standing, earlier.le, decimal, chain.1, rounded⟩,
          ⟨standing, le_of_floor_lt earlier, decimal⟩⟩
      constructor
      · exact ⟨fun python => (all python.standing python.agent.1).2.1, fun node => (all node.standing node.agent).1⟩
      · exact ⟨fun python => (all python.standing python.agent.1).2.2, fun node => (all node.standing node.agent).1⟩
  · have refused : ¬ PythonMatch now entry agentId chainId := fun python => absurd last python.current.ne
    constructor
    · intro ⟨gatewayTs, implNode⟩ standing
      refine ⟨fun earlier => absurd last earlier.ne, fun _ decimal => ⟨?_, ?_⟩⟩
      · by_contra current
        exact refused (implNode.mpr ⟨standing, not_lt.mp current, decimal⟩)
      · intro ⟨_, chain, rounded⟩
        exact refused (gatewayTs.mpr ⟨standing, last.le, decimal, chain, rounded⟩)
    · intro undisputed
      refine ⟨iff_of_false refused ?_, iff_of_false refused ?_⟩
      · intro node
        exact ((undisputed node.standing).last last node.agent).2 ⟨small, node.chain, node.same⟩
      · intro node
        exact absurd node.current (not_le.mpr ((undisputed node.standing).last last node.agent).1)
  · have python : ¬ PythonMatch now entry agentId chainId := fun python => absurd python.current later.not_gt
    have gatewayTs : ¬ GatewayTsMatch now entry agentId chainId := fun node => absurd node.current later.not_ge
    have implNode : ¬ ImplNodeMatch now entry agentId := fun node => absurd (floor_le_of_le node.current) later.not_ge
    refine iff_of_true ⟨iff_of_false python gatewayTs, iff_of_false python implNode⟩ (fun _ => ⟨?_, ?_⟩)
    · exact fun earlier => absurd earlier later.not_gt
    · exact fun same => absurd same later.ne'

/-- Under another name only one of the three looks at the session. -/
theorem not_implNodeMatch_iff (large : lowerAscii footprint ≠ footprint) :
    ¬ ImplNodeMatch now entry agentId ↔ (entry.revoked = false → Undisputed now entry agentId chainId footprint) := by
  constructor
  · intro refused standing
    refine ⟨fun earlier decimal => ?_, fun _ decimal => ⟨?_, fun same => large same.1⟩⟩
    · exact absurd ⟨standing, le_of_floor_lt earlier, decimal⟩ refused
    · by_contra current
      exact refused ⟨standing, not_lt.mp current, decimal⟩
  · intro undisputed node
    obtain earlier | last := (floor_le_of_le node.current).lt_or_eq
    · exact large ((undisputed node.standing).before earlier node.agent).1
    · exact absurd node.current (not_le.mpr ((undisputed node.standing).last last node.agent).1)

/-- The verdicts on three fields, by what the book says of the session they name. -/
theorem verdicts_iff (rounds : Rounds) {book : Book}
    (keys : ∀ key entry, book key = some entry → isFootprint isLowerHex key = true) :
    (((∃ entry, book footprint = some entry ∧ PythonMatch now entry agentId chainId) ↔
        ∃ entry, book footprint = some entry ∧ GatewayTsMatch now entry agentId chainId) ∧
      ((∃ entry, book footprint = some entry ∧ PythonMatch now entry agentId chainId) ↔
        ∃ entry, isFootprint isHex footprint = true ∧ book (lowerAscii footprint) = some entry ∧ ImplNodeMatch now entry agentId)) ↔
      (isFootprint isHex footprint = true → ∀ entry, book (lowerAscii footprint) = some entry → entry.revoked = false →
        Undisputed now entry agentId chainId footprint) := by
  by_cases small : lowerAscii footprint = footprint
  · rw [small]
    cases held : book footprint with
    | none => simp
    | some entry =>
      have shape : isFootprint isHex footprint = true := isFootprint_hex (keys footprint entry held)
      simpa [shape] using matches_iff rounds small
  · have absent : book footprint = none := by
      rw [Option.eq_none_iff_forall_ne_some]
      intro entry held
      exact small (lowerAscii_isLowerHex (keys footprint entry held))
    cases held : book (lowerAscii footprint) with
    | none => simp [absent]
    | some entry =>
      by_cases shape : isFootprint isHex footprint = true
      · simpa [absent, shape] using not_implNodeMatch_iff small
      · simp [absent, shape]

end Matches

theorem exists_of_three {header agentId chainId footprint : String} {holds : String → String → String → Entry → Prop}
    (split : fields header = [agentId, chainId, footprint]) :
    (∃ one two three entry, fields header = [one, two, three] ∧ holds one two three entry) ↔
      ∃ entry, holds agentId chainId footprint entry := by
  constructor
  · intro ⟨one, two, three, entry, split', here⟩
    obtain ⟨rfl, rfl, rfl⟩ : agentId = one ∧ chainId = two ∧ footprint = three := by simpa [split] using split'
    exact ⟨entry, here⟩
  · intro ⟨entry, here⟩
    exact ⟨agentId, chainId, footprint, entry, split, here⟩

section Agreement
variable [Host] [Unicode] [Engine] {gateways : Gateways} {book : Book} {state : State} {world : World} {request : HttpRequest}

theorem agree_iff (own : Local gateways) (rounds : Rounds) (lowercases : Lowercases) (refines : Refines book state)
    (clock : 0 ≤ world.now) (bytes : OfBytes (request.header "xcp-agent-identity")) :
    Agree gateways state world request ↔ UndisputedHeader book world.now (request.header "xcp-agent-identity") := by
  have python := pythonVerifies_iff refines world request own clock bytes
  have gatewayTs := gatewayTsVerifies_iff refines world request rounds lowercases
  have implNode := implNodeVerifies_iff refines world request lowercases
  by_cases named : ∃ agentId chainId footprint, fields (request.header "xcp-agent-identity") = [agentId, chainId, footprint]
  · obtain ⟨agentId, chainId, footprint, split⟩ := named
    rw [exists_of_three split] at python gatewayTs implNode
    rw [UndisputedHeader, IdentityGrammar.forall_of_three split, ← verdicts_iff rounds refines.keys, ← python, ← gatewayTs, ← implNode]
    exact ⟨fun agree => ⟨agree.gatewayTs, agree.implNode⟩, fun ⟨one, two⟩ => ⟨one, two⟩⟩
  · have refused : ¬ PythonVerifies gateways state world request := by
      rw [python]
      exact fun ⟨agentId, chainId, footprint, _, split, _⟩ => named ⟨agentId, chainId, footprint, split⟩
    have refused' : ¬ GatewayTsVerifies state world request := by
      rw [gatewayTs]
      exact fun ⟨agentId, chainId, footprint, _, split, _⟩ => named ⟨agentId, chainId, footprint, split⟩
    have refused'' : ¬ ImplNodeVerifies state world request := by
      rw [implNode]
      exact fun ⟨agentId, chainId, footprint, _, split, _⟩ => named ⟨agentId, chainId, footprint, split⟩
    refine iff_of_true ⟨iff_of_false refused refused', iff_of_false refused refused''⟩ ?_
    exact fun agentId chainId footprint split => absurd ⟨agentId, chainId, footprint, split⟩ named

/-- After every run of valid and plain requests, the gateways agree on exactly the headers
that are undisputed for the sessions which the requests opened and did not revoke. -/
theorem verdicts_agree_iff (own : Local gateways) (rounds : Rounds) (lowercases : Lowercases) {events : List Sent}
    (valid : ∀ sent ∈ events, Valid gateways sent) (plain : Meets Book.step (Plain gateways) (fun _ => none) events)
    (clock : 0 ≤ world.now) (bytes : OfBytes (request.header "xcp-agent-identity")) :
    Agree gateways (run (State.step gateways) initial events) world request ↔
      UndisputedHeader (run Book.step (fun _ => none) events) world.now (request.header "xcp-agent-identity") :=
  agree_iff own rounds lowercases (refines_run own rounds lowercases valid plain refines_initial) clock bytes

end Agreement

/-! ### Runs -/

open NodeIdentity (someFootprint someMembers openRequest headerOf fields_headerOf someMembers_agentId someMembers_chainId
  someMembers_footprint someMembers_tier)

local instance : Host := Python.asciiHost []

local instance : Engine where
  parse := fun _ => none
  toDouble := .finite
  numberText := fun _ => ""

local instance : Unicode where
  toLowerCase := lowerAscii

theorem rounds_finite : Rounds where
  zero := rfl
  present := fun number nonzero same => nonzero (by simpa using Double.finite.inj same)
  number := fun number same => by cases same

theorem lowercases_ascii : Lowercases := fun _ _ => rfl

def someGateways : Gateways where
  config := {}
  gatewayTsToken := ""
  implNodeToken := ""

def someWorld : World where
  now := 1000
  limiter := fun _ => { allowed := true }
  verifier := fun _ _ => .ok .null

/-- A session is opened for the agent 7. -/
def openSent : Sent where
  request := openRequest 7
  call := .opens someFootprint 7
  python := someWorld
  gatewayTs := fun _ => { allowed := true }
  implNode := fun _ => { allowed := true }

theorem someFootprint_small : lowerAscii someFootprint = someFootprint := by decide

def callWith (agentId : String) : HttpRequest := { headers := [("xcp-agent-identity", headerOf agentId)] }

theorem callWith_fields {agentId : String} (decimal : Decimal agentId.toList) :
    fields ((callWith agentId).header "xcp-agent-identity") = [agentId, "8453", someFootprint] := by
  have header : (callWith agentId).header "xcp-agent-identity" = headerOf agentId := by
    simp [callWith, HttpRequest.header]
  have bare : Strip.Bare IdentityGrammar.isOws (headerOf agentId).toList := by
    obtain ⟨first, rest, whole, -⟩ := decimal.head
    have letters : (headerOf agentId).toList = first :: (rest ++ (";8453;" ++ someFootprint).toList) := by
      simp [headerOf, String.toList_append, whole]
    have last : (";8453;" ++ someFootprint).toList.getLast? = some 'a' := by decide
    constructor
    · intro letter found
      rw [letters] at found
      obtain rfl : first = letter := by simpa using found
      have digit := decimal.digits first (by simp [whole])
      simp [IdentityGrammar.isOws, Digits.ne_of_digit digit (show Digits.isAsciiDigit ' ' = false by decide),
        Digits.ne_of_digit digit (show Digits.isAsciiDigit '\t' = false by decide)]
    · intro letter found
      rw [letters, ← List.cons_append, List.getLast?_append, last] at found
      obtain rfl : 'a' = letter := by simpa using found
      decide
  rw [header, fields, IdentityGrammar.protocol_stripOws, Strip.stripBy_of_bare bare, String.ofList_toList]
  exact fields_headerOf decimal

theorem openSent_valid : Valid someGateways openSent := by
  have body : Body (openRequest 7) (someMembers 7) someFootprint :=
    ⟨rfl, by decide, by decide, someMembers_footprint, by decide⟩
  have rails : Json.find? (someMembers 7) "rails" = none := by simp [Json.find?, someMembers]
  have members : Members (someMembers 7) 7 := {
    agentId := ⟨.int 7, someMembers_agentId, .number 7⟩
    chainId := fun document found => ⟨8453, by rw [someMembers_chainId] at found; exact (Option.some.inj found).symm⟩
    tier := fun document found => by rw [someMembers_tier] at found; cases found
    rails := fun document found => by rw [rails] at found; cases found }
  have admitted : Admitted someGateways openSent (Gateway.openQuery (openRequest 7)) :=
    ⟨fun _ => rfl, GatewayTs.negotiates_of_silent rfl, ImplNode.negotiates_of_silent (by decide) rfl⟩
  exact { clock := by decide, call := (⟨⟨someMembers 7, body, members⟩, admitted, rfl, rfl⟩ : ValidOpen someGateways openSent someFootprint 7) }

theorem someLocal : Local someGateways := ⟨rfl, rfl⟩

theorem run_valid : ∀ sent ∈ [openSent], Valid someGateways sent := by
  simpa using openSent_valid

theorem run_plain : Meets Book.step (Plain someGateways) (fun _ => none) [openSent] := by
  have plainId : PlainId someGateways (openRequest 7) 7 := by
    refine ⟨(fun required => by cases required), fun members document decoded found => ?_⟩
    obtain rfl : someMembers 7 = members := Json.dict.inj (Except.ok.inj decoded)
    rw [someMembers_agentId] at found
    obtain rfl : .int 7 = document := Option.some.inj found
    exact ⟨by simp, fun text same => by cases same⟩
  exact ⟨⟨someFootprint_small, plainId⟩, trivial⟩

theorem run_book : run Book.step (fun _ => none) [openSent] someFootprint = some { agentId := 7, opened := 1000 } := by
  have call : openSent.call = .opens someFootprint 7 := rfl
  rw [run_cons, run_nil, Book.step, call]
  simp only [someFootprint_small, Function.update_self]
  rfl

theorem verdicts_agree_seven :
    Agree someGateways (run (State.step someGateways) initial [openSent]) someWorld (callWith "7") := by
  have fields := callWith_fields (by decide : Decimal "7".toList)
  refine (verdicts_agree_iff someLocal rounds_finite lowercases_ascii run_valid run_plain (by decide) (by decide)).mpr ?_
  intro agentId chainId footprint split shape entry found standing
  obtain ⟨rfl, rfl, rfl⟩ : "7" = agentId ∧ "8453" = chainId ∧ someFootprint = footprint := by simpa [fields] using split
  rw [someFootprint_small, run_book] at found
  obtain rfl := Option.some.inj found
  refine ⟨fun _ _ => ⟨someFootprint_small, ⟨by decide, by decide⟩, ⟨by decide, by decide⟩, by decide⟩, fun late _ => ?_⟩
  revert late
  decide

/-- One of the three takes any agent id for a session that is open. -/
theorem other_agent_disputed :
    (∀ sent ∈ [openSent], Valid someGateways sent) ∧
      ¬ Agree someGateways (run (State.step someGateways) initial [openSent]) someWorld (callWith "8") := by
  have refines : Refines (run Book.step (fun _ => none) [openSent]) (run (State.step someGateways) initial [openSent]) :=
    refines_run someLocal rounds_finite lowercases_ascii run_valid run_plain refines_initial
  have fields := callWith_fields (by decide : Decimal "8".toList)
  rw [agree_iff someLocal rounds_finite lowercases_ascii refines (by decide) (by decide)]
  refine ⟨run_valid, fun undisputed => ?_⟩
  have named := undisputed "8" "8453" someFootprint fields (by decide) { agentId := 7, opened := 1000 }
    (by rw [someFootprint_small, run_book]) rfl
  obtain ⟨-, -, -, same⟩ := named.before (by decide) (by decide)
  revert same
  decide

end Xcp.VerdictAgreement
