import Mathlib.Algebra.Order.Floor.Ring
import Xcp.Proofs.GatewayKillSwitch
import Xcp.Proofs.IdentityGrammar
import Xcp.Proofs.NodeSessions

/-! Sessions that three gateways are told of alike. One book says which of them are
open, and each gateway's table holds what the book does in its own terms. -/

namespace Xcp.SharedSessions
open Checked Http
open Digits (Decimal value)
open Gateway (HttpRequest LimitDecision LimitQuery Registry sevenDays)
open IdentityGrammar (Short)
open JavaScript (Engine Unicode ofJson)
open Node (isFootprint isHex isLowerHex parseBody)
open Python (Double Host Json isAscii lowerAscii lowerLetter truncate)
open Transition

/-! ### Footprints -/

section Footprints
variable {footprint : String} {digit : Char → Bool}

theorem isFootprint_iff : isFootprint digit footprint = true ↔
    ∃ letters, footprint.toList = '0' :: 'x' :: letters ∧ letters.length = 64 ∧ ∀ letter ∈ letters, digit letter = true := by
  rw [isFootprint]
  constructor
  · intro shape
    split at shape
    next letters whole =>
      rw [Bool.and_eq_true, decide_eq_true_iff, List.all_eq_true] at shape
      exact ⟨letters, whole, shape⟩
    · cases shape
  · intro ⟨letters, whole, shape⟩
    rw [whole]
    simpa using shape

theorem isHex_of_isLowerHex {letter : Char} (digit : isLowerHex letter = true) : isHex letter = true := by
  simp [isHex, digit]

theorem isHex_codes {letter : Char} (digit : isHex letter = true) :
    (48 ≤ letter.toNat ∧ letter.toNat ≤ 57) ∨ (97 ≤ letter.toNat ∧ letter.toNat ≤ 102) ∨
      (65 ≤ letter.toNat ∧ letter.toNat ≤ 70) := by
  simp only [isHex, isLowerHex, Digits.isAsciiDigit, Bool.or_eq_true, Bool.and_eq_true, decide_eq_true_eq] at digit
  omega

theorem isFootprint_hex (shape : isFootprint isLowerHex footprint = true) : isFootprint isHex footprint = true := by
  rw [isFootprint_iff] at shape ⊢
  obtain ⟨letters, whole, length, digits⟩ := shape
  exact ⟨letters, whole, length, fun letter member => isHex_of_isLowerHex (digits letter member)⟩

theorem isFootprint_ascii (shape : isFootprint isHex footprint = true) : isAscii footprint = true := by
  obtain ⟨letters, whole, -, digits⟩ := isFootprint_iff.mp shape
  rw [isAscii, whole, List.all_eq_true]
  intro letter member
  rw [decide_eq_true_iff]
  obtain rfl | rfl | member : letter = '0' ∨ letter = 'x' ∨ letter ∈ letters := by simpa using member
  · decide
  · decide
  · have codes := isHex_codes (digits letter member)
    omega

theorem lowerLetter_isLowerHex {letter : Char} (digit : isLowerHex letter = true) : lowerLetter letter = letter := by
  simp only [isLowerHex, Digits.isAsciiDigit, Bool.or_eq_true, Bool.and_eq_true, decide_eq_true_eq] at digit
  rw [lowerLetter, if_neg]
  omega

theorem isLowerHex_lowerLetter {letter : Char} (digit : isHex letter = true) : isLowerHex (lowerLetter letter) = true := by
  have codes : ∀ code < 91, (Char.ofNat (code + 32)).toNat = code + 32 := by decide
  have digits := isHex_codes digit
  by_cases upper : 65 ≤ letter.toNat ∧ letter.toNat ≤ 90
  · rw [lowerLetter, if_pos upper, isLowerHex, codes letter.toNat (by omega)]
    simp
    omega
  · rw [lowerLetter, if_neg upper]
    simp [isLowerHex, Digits.isAsciiDigit]
    omega

theorem lowerAscii_isLowerHex (shape : isFootprint isLowerHex footprint = true) : lowerAscii footprint = footprint := by
  obtain ⟨letters, whole, -, digits⟩ := isFootprint_iff.mp shape
  have kept : letters.map lowerLetter = letters := by
    conv_rhs => rw [← List.map_id letters]
    exact List.map_congr_left (fun letter member => lowerLetter_isLowerHex (digits letter member))
  have start : lowerLetter '0' = '0' ∧ lowerLetter 'x' = 'x' := by decide
  rw [lowerAscii, whole, List.map_cons, List.map_cons, kept, start.1, start.2, ← whole, String.ofList_toList]

theorem isFootprint_lowerAscii (shape : isFootprint isHex footprint = true) : isFootprint isLowerHex (lowerAscii footprint) = true := by
  rw [isFootprint_iff] at shape ⊢
  obtain ⟨letters, whole, length, digits⟩ := shape
  refine ⟨letters.map lowerLetter, ?_, by simpa using length, ?_⟩
  · rw [lowerAscii, String.toList_ofList, whole]
    rfl
  · intro letter member
    obtain ⟨upper, found, rfl⟩ := List.mem_map.mp member
    exact isLowerHex_lowerLetter (digits upper found)

end Footprints

/-! ### The book -/

structure Entry where
  agentId : Int
  opened : Rat
  revoked : Bool := false

/-- By footprint, in small letters. -/
abbrev Book := String → Option Entry

/-- What a request asks for. -/
inductive Call where
  | opens (footprint : String) (agentId : Int)
  | revokes (footprint : String)

/-- A request as it is sent to the three gateways at one time, and what each of them
consults. -/
structure Sent where
  request : HttpRequest
  call : Call
  python : Gateway.World
  gatewayTs : LimitQuery → LimitDecision
  implNode : LimitQuery → LimitDecision

def Sent.now (sent : Sent) : Rat := sent.python.now

def Book.step (book : Book) (sent : Sent) : Book :=
  match sent.call with
  | .opens footprint agentId => Function.update book (lowerAscii footprint) (some { agentId, opened := sent.now })
  | .revokes footprint => Function.update book (lowerAscii footprint)
      ((book (lowerAscii footprint)).map (fun entry => { entry with revoked := true }))

/-! ### The three gateways -/

structure Gateways where
  config : Gateway.Config
  gatewayTsToken : String
  implNodeToken : String

structure State where
  registry : Registry
  bindings : Option GatewayTs.Bindings
  sessions : Option ImplNode.Sessions

def initial : State where
  registry := fun _ => none
  bindings := some (fun _ => none)
  sessions := some (fun _ => none)

section Steps
variable [Host] [Unicode] [Engine] (gateways : Gateways)

def State.step (state : State) (sent : Sent) : State :=
  match sent.call with
  | .opens _ _ => {
      registry := Gateway.step gateways.config state.registry (sent.python, .sessionOpen sent.request)
      bindings := GatewayTs.step gateways.gatewayTsToken state.bindings
        ({ now := sent.now, meter := sent.gatewayTs }, .sessionOpen sent.request)
      sessions := ImplNode.step gateways.implNodeToken state.sessions
        ({ now := sent.now, meter := sent.implNode }, .sessionOpen sent.request) }
  | .revokes _ => {
      registry := Gateway.step gateways.config state.registry (sent.python, .adminRevoke sent.request)
      bindings := GatewayTs.step gateways.gatewayTsToken state.bindings
        ({ now := sent.now, meter := sent.gatewayTs }, .adminRevoke sent.request)
      sessions := ImplNode.step gateways.implNodeToken state.sessions
        ({ now := sent.now, meter := sent.implNode }, .adminRevoke sent.request) }

/-- The Python gateway keeps its own sessions. -/
structure Local : Prop where
  standalone : gateways.config.verifyUrl = ""
  development : gateways.config.production = false

end Steps

/-! ### Valid requests -/

/-- A whole number, or its decimal digits. -/
inductive Says : Json → Int → Prop where
  | number (number : Int) : Says (.int number) number
  | digits {text : String} (decimal : Decimal text.toList) : Says (.str text) (value text.toList)

/-- A body that every gateway reads, and the certificate it names. -/
structure Body (request : HttpRequest) (members : List (String × Json)) (footprint : String) : Prop where
  decoded : request.body = .ok (.dict members)
  present : 0 < request.bodyBytes
  short : request.bodyBytes ≤ GatewayTs.bodyCap
  named : Json.find? members "footprint" = some (.str footprint)
  shape : isFootprint isHex footprint = true

/-- The other members of the body of a `session/open`, each of its own type. -/
structure Members (members : List (String × Json)) (agentId : Int) : Prop where
  agentId : ∃ document, Json.find? members "agentId" = some document ∧ Says document agentId
  chainId : ∀ document, Json.find? members "chainId" = some document → ∃ chainId, document = .int chainId
  tier : ∀ document, Json.find? members "tier" = some document → ∃ text, document = .str text
  rails : ∀ document, Json.find? members "rails" = some document → ∃ rails, document = .int rails

/-- No limiter refuses the request, and no version of the protocol that it asks for. -/
structure Admitted [Host] (gateways : Gateways) (sent : Sent) (query : LimitQuery) : Prop where
  python : gateways.config.limits = true → (sent.python.limiter query).allowed = true
  gatewayTs : GatewayTs.negotiates sent.request = true
  implNode : ImplNode.negotiates sent.request = true

structure ValidOpen [Host] (gateways : Gateways) (sent : Sent) (footprint : String) (agentId : Int) : Prop where
  body : ∃ members, Body sent.request members footprint ∧ Members members agentId
  admitted : Admitted gateways sent (Gateway.openQuery sent.request)
  gatewayTs : (sent.gatewayTs (GatewayTs.openQuery sent.request)).allowed = true
  implNode : (sent.implNode (ImplNode.openQuery sent.request)).allowed = true

structure ValidRevoke [Host] [Unicode] (gateways : Gateways) (sent : Sent) (footprint : String) : Prop where
  body : ∃ members, Body sent.request members footprint
  admitted : Admitted gateways sent (Gateway.limitQuery {} "tools/call" "" 0 sent.request.client)
  python : Gateway.adminOk gateways.config sent.request = .ok true
  gatewayTs : GatewayTs.adminOk gateways.gatewayTsToken sent.request = true
  implNode : ImplNode.adminOk gateways.implNodeToken sent.request = true

structure Valid [Host] [Unicode] (gateways : Gateways) (sent : Sent) : Prop where
  clock : 0 ≤ sent.now
  call : match sent.call with
    | .opens footprint agentId => ValidOpen gateways sent footprint agentId
    | .revokes footprint => ValidRevoke gateways sent footprint

/-! ### Plain requests -/

/-- The agent id is one that the three gateways read, and read alike. -/
structure PlainId (gateways : Gateways) (request : HttpRequest) (agentId : Int) : Prop where
  registered : gateways.config.registrar = .chain → agentId ≠ 0
  written : ∀ members document, request.body = .ok (.dict members) → Json.find? members "agentId" = some document →
    document ≠ .int 0 ∧ ∀ text, document = .str text → text.toList.length ≤ Python.maxIntDigits

/-- A session is opened under small letters, and revoked under small letters where there
is one to revoke. -/
def Plain (gateways : Gateways) (book : Book) (sent : Sent) : Prop :=
  match sent.call with
  | .opens footprint agentId => lowerAscii footprint = footprint ∧ PlainId gateways sent.request agentId
  | .revokes footprint => (∃ entry, book (lowerAscii footprint) = some entry ∧ entry.revoked = false) →
      lowerAscii footprint = footprint

/-! ### Refinement -/

section Refinement
variable [Engine]

structure PythonEntry (entry : Entry) (binding : Gateway.Binding) : Prop where
  agentId : binding.agentId = entry.agentId
  notAfter : binding.notAfter = truncate entry.opened + sevenDays
  revoked : binding.revoked = entry.revoked

structure GatewayTsEntry (entry : Entry) (binding : GatewayTs.Binding) : Prop where
  agentId : binding.agentId = Engine.toDouble entry.agentId
  notAfter : binding.notAfter = ⌊entry.opened⌋ + 7 * 86400
  revoked : binding.revoked = entry.revoked

/-- Nothing is held of a session that is revoked. -/
structure ImplNodeEntry (entry : Entry) (session : ImplNode.Session) : Prop where
  notAfter : session.notAfter = entry.opened + 7 * 86400

def Entry.standing (entry : Entry) : Bool := !entry.revoked

/-- The tables of the three gateways hold what the book does. -/
structure Refines (book : Book) (state : State) : Prop where
  keys : ∀ key entry, book key = some entry → isFootprint isLowerHex key = true
  clock : ∀ key entry, book key = some entry → 0 ≤ entry.opened
  python : ∀ key, Option.Rel PythonEntry (book key) (state.registry (.str key))
  gatewayTs : ∃ bindings, state.bindings = some bindings ∧ ∀ key, Option.Rel GatewayTsEntry (book key) (bindings key)
  implNode : ∃ sessions, state.sessions = some sessions ∧
    ∀ key, Option.Rel ImplNodeEntry ((book key).filter Entry.standing) (sessions key)

theorem refines_initial : Refines (fun _ => none) initial where
  keys := fun _ _ found => by cases found
  clock := fun _ _ found => by cases found
  python := fun _ => .none
  gatewayTs := ⟨_, rfl, fun _ => .none⟩
  implNode := ⟨_, rfl, fun _ => .none⟩

end Refinement

section Updates
variable {α β : Type} {related : α → β → Prop} {book : String → Option α}

theorem rel_of_entry {entry : α} {held : Option β} (rel : Option.Rel related (some entry) held) :
    ∃ found, held = some found ∧ related entry found := by
  cases rel with
  | some here => exact ⟨_, rfl, here⟩

theorem rel_of_held {entry : Option α} {held : β} (rel : Option.Rel related entry (some held)) :
    ∃ found, entry = some found ∧ related found held := by
  cases rel with
  | some here => exact ⟨_, rfl, here⟩

theorem rel_update {table : String → Option β} (before : ∀ key, Option.Rel related (book key) (table key)) {key : String}
    {entry : Option α} {held : Option β} (here : Option.Rel related entry held) (other : String) :
    Option.Rel related (Function.update book key entry other) (Function.update table key held other) := by
  by_cases same : other = key
  · subst same
    simpa using here
  · simpa [Function.update_of_ne same] using before other

/-- The same of a table whose keys are documents. -/
theorem rel_update_str {table : Json → Option β} (before : ∀ key, Option.Rel related (book key) (table (.str key)))
    {key : String} {entry : Option α} {held : Option β} (here : Option.Rel related entry held) (other : String) :
    Option.Rel related (Function.update book key entry other) (Function.update table (.str key) held (.str other)) := by
  by_cases same : other = key
  · subst same
    simpa using here
  · have distinct : Json.str other ≠ .str key := by simpa using same
    simpa [Function.update_of_ne same, Function.update_of_ne distinct] using before other

theorem rel_map {change : α → α} {change' : β → β} (keeps : ∀ {entry held}, related entry held → related (change entry) (change' held))
    {entry : Option α} {held : Option β} (before : Option.Rel related entry held) :
    Option.Rel related (entry.map change) (held.map change') := by
  cases before with
  | none => exact .none
  | some here => exact .some (keeps here)

theorem filter_update {keep : α → Bool} {key : String} {entry : Option α} (other : String) :
    (Function.update book key entry other).filter keep =
      Function.update (fun key => (book key).filter keep) key (entry.filter keep) other := by
  by_cases same : other = key
  · subst same
    simp
  · simp [Function.update_of_ne same]

end Updates

/-- A session that is revoked is not revoked again. -/
theorem update_revoked {book : Book} {key : String} (revoked : ∀ entry, book key = some entry → entry.revoked = true) :
    Function.update book key ((book key).map (fun entry => { entry with revoked := true })) = book := by
  have same : (book key).map (fun entry => { entry with revoked := true }) = book key := by
    cases held : book key with
    | none => rfl
    | some entry =>
      rw [Option.map_some, ← revoked entry held]
  rw [same, Function.update_eq_self]

/-- Letters of ASCII have the small letters of ASCII. -/
def Lowercases [Unicode] : Prop := ∀ text, isAscii text = true → Unicode.toLowerCase text = lowerAscii text

/-- A whole number is rounded to a number, and to zero only where it is zero. -/
structure Rounds [Engine] : Prop where
  zero : Engine.toDouble ((0 : Int) : Rat) = .finite 0
  present : ∀ number : Int, number ≠ 0 → Engine.toDouble (number : Rat) ≠ .finite 0
  number : ∀ number : Int, Engine.toDouble (number : Rat) ≠ .nan

theorem Lowercases.footprint [Unicode] (lowercases : Lowercases) {footprint : String} (shape : isFootprint isHex footprint = true) :
    Unicode.toLowerCase footprint = lowerAscii footprint := lowercases footprint (isFootprint_ascii shape)

section Reading
variable {request : HttpRequest} {members : List (String × Json)} {footprint : String} {agentId : Int}

theorem Body.get (body : Body request members footprint) :
    (Json.dict members).get "footprint" (.str "") = .ok (.str footprint) := by
  simp [Json.get, body.named]

theorem Body.filled (body : Body request members footprint) : footprint ≠ "" := by
  obtain ⟨letters, whole, -⟩ := isFootprint_iff.mp body.shape
  rintro rfl
  cases whole

theorem Body.parse (body : Body request members footprint) {cap : Nat} (enough : GatewayTs.bodyCap ≤ cap) :
    parseBody cap request = some (.dict members) := by
  have short : ¬ cap < request.bodyBytes := not_lt.mpr (le_trans body.short enough)
  have present : request.bodyBytes ≠ 0 := Nat.ne_of_gt body.present
  rw [parseBody, if_neg short, HttpRequest.bodyOrEmpty, if_neg present, body.decoded]
  rfl

theorem Body.footprintOf [Engine] (body : Body request members footprint) :
    Node.footprintOf (.dict members) = some footprint := by
  have letters : ofJson (.str footprint) = .string footprint := rfl
  have whole : ((JavaScript.Value.string footprint).orElse (.string "")).toText = some footprint := by
    simp [body.filled, JavaScript.Value.orElse, JavaScript.Value.truthy, JavaScript.Value.toText]
  simp [Node.footprintOf, JavaScript.get_ofJson_dict, body.named, letters, whole]

/-- What the two servers in JavaScript make of an agent id. -/
theorem Says.toNumber [Engine] (rounds : Rounds) {document : Json} (told : Says document agentId) (present : document ≠ .int 0) :
    (ofJson document).truthy = true ∧ (ofJson document).toNumber = some (Engine.toDouble agentId) := by
  cases told with
  | number agentId =>
    have nonzero : agentId ≠ 0 := fun zero => present (by rw [zero])
    simp [ofJson, JavaScript.Value.truthy, JavaScript.Value.toNumber, rounds.present agentId nonzero, rounds.number agentId]
  | digits decimal =>
    simp [ofJson, JavaScript.Value.truthy, JavaScript.Value.toNumber, IdentityGrammar.text_nonempty decimal,
      Digits.javaScript_numberOfText decimal]

/-- What Python makes of it. -/
theorem Says.toInt {document : Json} (told : Says document agentId)
    (short : ∀ text, document = .str text → text.toList.length ≤ Python.maxIntDigits) : document.toInt = .ok agentId := by
  cases told with
  | number agentId => rfl
  | digits decimal => exact IdentityGrammar.intOfText_short ⟨decimal, short _ rfl⟩

end Reading

/-! ### Steps -/

section Steps
variable [Host] [Unicode] [Engine] {gateways : Gateways} {book : Book} {state : State} {sent : Sent} {footprint : String}
  {agentId : Int}

/-! A session is opened. -/

omit [Unicode] [Engine] in
theorem python_opens (own : Local gateways) (valid : ValidOpen gateways sent footprint agentId)
    (plain : PlainId gateways sent.request agentId) (registry : Registry) :
    ∃ binding, PythonEntry { agentId, opened := sent.now } binding ∧
      Gateway.step gateways.config registry (sent.python, .sessionOpen sent.request) =
        Function.update registry (.str footprint) (some binding) := by
  obtain ⟨members, body, others⟩ := valid.body
  obtain ⟨document, found, told⟩ := others.agentId
  obtain ⟨-, short⟩ := plain.written members document body.decoded found
  have named : (Json.str footprint).truthy = true := by simpa [Json.truthy] using body.filled
  have read : (Json.dict members).getInt "agentId" 0 = .ok agentId := by
    rw [Json.getInt, Json.get, found, ok_bind, Option.getD_some, told.toInt short]
  obtain ⟨rails, counted⟩ : ∃ rails, (Json.dict members).getInt "rails" 3 = .ok rails := by
    rw [Json.getInt, Json.get, ok_bind]
    cases held : Json.find? members "rails" with
    | none => exact ⟨3, rfl⟩
    | some document =>
      obtain ⟨rails, rfl⟩ := others.rails document held
      exact ⟨rails, rfl⟩
  obtain ⟨binding, response, fresh, owner, done⟩ := Gateway.sessionOpen_of_body own.standalone own.development
    valid.admitted.python body.decoded body.get named read plain.registered counted
  refine ⟨binding, ⟨owner, fresh.notAfter, fresh.unrevoked⟩, ?_⟩
  rw [Gateway.step, done, serve_ok]

theorem gatewayTs_opens (rounds : Rounds) (lowercases : Lowercases) (valid : ValidOpen gateways sent footprint agentId)
    (plain : PlainId gateways sent.request agentId) (bindings : GatewayTs.Bindings) :
    ∃ binding, GatewayTsEntry { agentId, opened := sent.now } binding ∧
      GatewayTs.step gateways.gatewayTsToken (some bindings) ({ now := sent.now, meter := sent.gatewayTs }, .sessionOpen sent.request) =
        some (Function.update bindings (lowerAscii footprint) (some binding)) := by
  obtain ⟨members, body, others⟩ := valid.body
  obtain ⟨document, found, told⟩ := others.agentId
  obtain ⟨nonzero, -⟩ := plain.written members document body.decoded found
  obtain ⟨truthy, number⟩ := told.toNumber rounds nonzero
  obtain ⟨chainId, chain⟩ : ∃ chainId, ((((Json.find? members "chainId").map ofJson).getD .undefined).orElse
      (.number (.finite 8453))).toNumber = some chainId := by
    cases held : Json.find? members "chainId" with
    | none => exact ⟨_, rfl⟩
    | some document =>
      obtain ⟨chainId, rfl⟩ := others.chainId document held
      rw [Option.map_some, Option.getD_some, JavaScript.Value.orElse]
      split <;> exact ⟨_, rfl⟩
  have read := GatewayTs.opening_of { now := sent.now, meter := sent.gatewayTs } sent.request valid.gatewayTs
    (body.parse (le_refl _)) body.named body.filled found truthy number chain
  obtain ⟨opening, accepted, number, named⟩ : ∃ opening,
      GatewayTs.accepts { now := sent.now, meter := sent.gatewayTs } sent.request = some opening ∧
        opening.agentId = Engine.toDouble agentId ∧ opening.footprint = footprint :=
    ⟨_, GatewayTs.accepts_of valid.admitted.gatewayTs read, rfl, rfl⟩
  refine ⟨opening.binding sent.now, ⟨number, rfl, rfl⟩, ?_⟩
  rw [GatewayTs.step_some, GatewayTs.handle_of_accepts accepted, GatewayTs.bind, named, lowercases.footprint body.shape]

theorem implNode_opens (lowercases : Lowercases) (valid : ValidOpen gateways sent footprint agentId)
    (sessions : ImplNode.Sessions) :
    ∃ session, ImplNodeEntry { agentId, opened := sent.now } session ∧
      ImplNode.step gateways.implNodeToken (some sessions) ({ now := sent.now, meter := sent.implNode }, .sessionOpen sent.request) =
        some (Function.update sessions (lowerAscii footprint) (some session)) := by
  obtain ⟨members, body, others⟩ := valid.body
  obtain ⟨document, found, told⟩ := others.agentId
  have parsed : ImplNode.body sent.request = .dict members := by
    rw [ImplNode.body, body.parse (by decide), Option.getD_some]
  have shape : isFootprint isLowerHex (Unicode.toLowerCase footprint) = true := by
    rw [lowercases.footprint body.shape]
    exact isFootprint_lowerAscii body.shape
  obtain ⟨number, read⟩ : ∃ number, ((((Json.find? members "agentId").map ofJson).getD .undefined).orElse
      (.number (.finite 0))).toNumber = some number := by
    rw [found, Option.map_some, Option.getD_some, JavaScript.Value.orElse]
    split
    · cases told <;> exact ⟨_, rfl⟩
    · exact ⟨_, rfl⟩
  obtain ⟨tier, text⟩ : ∃ tier, ((((Json.find? members "tier").map ofJson).getD .undefined).orElse
      (.string "A0xH0")).toText = some tier := by
    cases held : Json.find? members "tier" with
    | none => exact ⟨_, rfl⟩
    | some document =>
      obtain ⟨tier, rfl⟩ := others.tier document held
      rw [Option.map_some, Option.getD_some, JavaScript.Value.orElse]
      split <;> exact ⟨_, rfl⟩
  obtain ⟨answer, opened⟩ := ImplNode.opening_of { now := sent.now, meter := sent.implNode } sent.request valid.implNode parsed
    body.named shape read text
  refine ⟨{ agentId := number, tier, notAfter := sent.now + 7 * 86400 }, ⟨rfl⟩, ?_⟩
  rw [ImplNode.step_some, ImplNode.handle_of_accepts (ImplNode.accepts_of valid.admitted.implNode opened),
    lowercases.footprint body.shape]

/-! A session is revoked. -/

omit [Engine] in
theorem python_revokes (own : Local gateways) (valid : ValidRevoke gateways sent footprint) (registry : Registry) :
    Gateway.step gateways.config registry (sent.python, .adminRevoke sent.request) = Function.update registry (.str footprint)
      ((registry (.str footprint)).map (fun binding => { binding with revoked := true })) := by
  obtain ⟨members, body⟩ := valid.body
  have free : (!gateways.config.limits || (false && ({} : Gateway.Ctx).verified && ({} : Gateway.Ctx).binding.isSome)) = true ∨
      (sent.python.limiter (Gateway.limitQuery {} "tools/call" "" 0 sent.request.client)).allowed = true := by
    by_cases limits : gateways.config.limits = true
    · exact .inr (valid.admitted.python limits)
    · exact .inl (by simp [limits])
  have revoked : ∃ ok, registry.revoke (.str footprint) = .ok (Function.update registry (.str footprint)
      ((registry (.str footprint)).map (fun binding => { binding with revoked := true })), ok) := by
    rw [Gateway.Registry.revoke, Json.key_str, ok_bind]
    cases held : registry (.str footprint) with
    | none =>
      have same : Function.update registry (.str footprint) none = registry := by rw [← held, Function.update_eq_self]
      rw [Option.map_none, same]
      exact ⟨false, rfl⟩
    | some binding => exact ⟨true, rfl⟩
  obtain ⟨ok, revoked⟩ := revoked
  simp only [Gateway.step, Gateway.adminRevoke, valid.python, attempt_ok, ok_bind, require_true _ trivial, Gateway.limit,
    require_true _ free, body.decoded, body.get, own.standalone, if_true, revoked]
  rfl

theorem gatewayTs_revokes (lowercases : Lowercases) (valid : ValidRevoke gateways sent footprint)
    (bindings : GatewayTs.Bindings) :
    GatewayTs.step gateways.gatewayTsToken (some bindings) ({ now := sent.now, meter := sent.gatewayTs }, .adminRevoke sent.request) =
      some (GatewayTs.revoke bindings (lowerAscii footprint)) := by
  obtain ⟨members, body⟩ := valid.body
  have named : GatewayTs.namedKey sent.request = some (lowerAscii footprint) := by
    rw [GatewayTs.namedKey, body.parse (le_refl _), Option.getD_some, body.footprintOf, Option.map_eq_map, Option.map_some,
      lowercases.footprint body.shape]
  rw [GatewayTs.step_some, GatewayTs.handle_of_admin valid.admitted.gatewayTs valid.gatewayTs named]

theorem implNode_revokes (lowercases : Lowercases) (valid : ValidRevoke gateways sent footprint)
    (sessions : ImplNode.Sessions) :
    ImplNode.step gateways.implNodeToken (some sessions) ({ now := sent.now, meter := sent.implNode }, .adminRevoke sent.request) =
      some (Function.update sessions (lowerAscii footprint) none) := by
  obtain ⟨members, body⟩ := valid.body
  have parsed : ImplNode.body sent.request = .dict members := by
    rw [ImplNode.body, body.parse (by decide), Option.getD_some]
  have named : Node.footprintOf (ImplNode.body sent.request) = some footprint := by rw [parsed, body.footprintOf]
  have echoed : (ofJson (ImplNode.body sent.request)).get "footprint" = some (.string footprint) := by
    rw [parsed, JavaScript.get_ofJson_dict, body.named]
    rfl
  rw [ImplNode.step_some, ImplNode.handle_of_admin valid.admitted.implNode valid.implNode named echoed,
    lowercases.footprint body.shape]

theorem refines_opens (own : Local gateways) (rounds : Rounds) (lowercases : Lowercases) (clock : 0 ≤ sent.now)
    (called : sent.call = .opens footprint agentId) (valid : ValidOpen gateways sent footprint agentId)
    (small : lowerAscii footprint = footprint) (plain : PlainId gateways sent.request agentId) (refines : Refines book state) :
    Refines (book.step sent) (state.step gateways sent) := by
  have booked : book.step sent = Function.update book footprint (some { agentId, opened := sent.now }) := by
    rw [Book.step, called]
    simp only [small]
  have stepped : state.step gateways sent = {
      registry := Gateway.step gateways.config state.registry (sent.python, .sessionOpen sent.request)
      bindings := GatewayTs.step gateways.gatewayTsToken state.bindings
        ({ now := sent.now, meter := sent.gatewayTs }, .sessionOpen sent.request)
      sessions := ImplNode.step gateways.implNodeToken state.sessions
        ({ now := sent.now, meter := sent.implNode }, .sessionOpen sent.request) } := by
    rw [State.step, called]
  obtain ⟨members, body, -⟩ := valid.body
  obtain ⟨bindings, running, gatewayTs⟩ := refines.gatewayTs
  obtain ⟨sessions, running', implNode⟩ := refines.implNode
  obtain ⟨binding, held, python_step⟩ := python_opens own valid plain state.registry
  obtain ⟨binding', held', gatewayTs_step⟩ := gatewayTs_opens rounds lowercases valid plain bindings
  obtain ⟨session, held'', implNode_step⟩ := implNode_opens lowercases valid sessions
  rw [booked, stepped, python_step, running, gatewayTs_step, running', implNode_step, small]
  have shape : isFootprint isLowerHex footprint = true := by
    rw [← small]
    exact isFootprint_lowerAscii body.shape
  constructor
  · intro key entry found
    by_cases here : key = footprint
    · rwa [here]
    · rw [Function.update_of_ne here] at found
      exact refines.keys key entry found
  · intro key entry found
    by_cases here : key = footprint
    · rw [here, Function.update_self] at found
      rw [← Option.some.inj found]
      exact clock
    · rw [Function.update_of_ne here] at found
      exact refines.clock key entry found
  · exact rel_update_str refines.python (.some held)
  · exact ⟨_, rfl, rel_update gatewayTs (.some held')⟩
  · refine ⟨_, rfl, fun key => ?_⟩
    rw [filter_update]
    exact rel_update implNode (.some held'') key

theorem refines_revokes (own : Local gateways) (lowercases : Lowercases)
    (called : sent.call = .revokes footprint) (valid : ValidRevoke gateways sent footprint)
    (plain : (∃ entry, book (lowerAscii footprint) = some entry ∧ entry.revoked = false) → lowerAscii footprint = footprint)
    (refines : Refines book state) : Refines (book.step sent) (state.step gateways sent) := by
  have booked : book.step sent = Function.update book (lowerAscii footprint)
      ((book (lowerAscii footprint)).map (fun entry => { entry with revoked := true })) := by
    rw [Book.step, called]
  have stepped : state.step gateways sent = {
      registry := Gateway.step gateways.config state.registry (sent.python, .adminRevoke sent.request)
      bindings := GatewayTs.step gateways.gatewayTsToken state.bindings
        ({ now := sent.now, meter := sent.gatewayTs }, .adminRevoke sent.request)
      sessions := ImplNode.step gateways.implNodeToken state.sessions
        ({ now := sent.now, meter := sent.implNode }, .adminRevoke sent.request) } := by
    rw [State.step, called]
  obtain ⟨bindings, running, gatewayTs⟩ := refines.gatewayTs
  obtain ⟨sessions, running', implNode⟩ := refines.implNode
  rw [booked, stepped, python_revokes own valid state.registry, running, gatewayTs_revokes lowercases valid bindings, running',
    implNode_revokes lowercases valid sessions]
  have origin {key : String} {entry : Entry} (found : Function.update book (lowerAscii footprint)
      ((book (lowerAscii footprint)).map (fun entry => { entry with revoked := true })) key = some entry) :
      ∃ before, book key = some before ∧ before.opened = entry.opened := by
    by_cases here : key = lowerAscii footprint
    · rw [here, Function.update_self, Option.map_eq_some_iff] at found
      obtain ⟨before, held, rfl⟩ := found
      exact ⟨before, by rw [here, held], rfl⟩
    · rw [Function.update_of_ne here] at found
      exact ⟨entry, found, rfl⟩
  constructor
  · intro key entry found
    obtain ⟨before, held, -⟩ := origin found
    exact refines.keys key before held
  · intro key entry found
    obtain ⟨before, held, same⟩ := origin found
    rw [← same]
    exact refines.clock key before held
  · by_cases small : lowerAscii footprint = footprint
    · rw [small]
      exact rel_update_str refines.python (rel_map (fun held => ⟨held.agentId, held.notAfter, rfl⟩) (refines.python footprint))
    · rw [update_revoked (fun entry held => by simpa using fun standing => small (plain ⟨entry, held, standing⟩))]
      have absent : book footprint = none := by
        rw [Option.eq_none_iff_forall_ne_some]
        intro entry held
        exact small (lowerAscii_isLowerHex (refines.keys footprint entry held))
      have unknown : state.registry (.str footprint) = none := by
        have related := refines.python footprint
        rw [absent] at related
        cases held : state.registry (.str footprint) with
        | none => rfl
        | some binding => simp [held] at related
      have same : Function.update state.registry (.str footprint) none = state.registry := by
        rw [← unknown, Function.update_eq_self]
      rw [unknown, Option.map_none, same]
      exact refines.python
  · exact ⟨_, rfl, rel_update gatewayTs (rel_map (fun held => ⟨held.agentId, held.notAfter, rfl⟩) (gatewayTs _))⟩
  · refine ⟨_, rfl, fun key => ?_⟩
    have gone : ((book (lowerAscii footprint)).map (fun entry => { entry with revoked := true })).filter Entry.standing = none := by
      cases book (lowerAscii footprint) <;> rfl
    rw [filter_update, gone]
    exact rel_update implNode .none key

/-- What valid and plain requests do to the gateways, they do to the book. -/
theorem refines_step (own : Local gateways) (rounds : Rounds) (lowercases : Lowercases) (valid : Valid gateways sent)
    (plain : Plain gateways book sent) (refines : Refines book state) :
    Refines (book.step sent) (state.step gateways sent) := by
  have call := valid.call
  rw [Plain] at plain
  cases called : sent.call with
  | opens footprint agentId =>
    rw [called] at call plain
    exact refines_opens own rounds lowercases valid.clock called call plain.1 plain.2 refines
  | revokes footprint =>
    rw [called] at call plain
    exact refines_revokes own lowercases called call plain refines

theorem refines_run (own : Local gateways) (rounds : Rounds) (lowercases : Lowercases) {events : List Sent}
    (valid : ∀ sent ∈ events, Valid gateways sent) (plain : Meets Book.step (Plain gateways) book events)
    (refines : Refines book state) : Refines (run Book.step book events) (run (State.step gateways) state events) := by
  induction events generalizing book state with
  | nil => exact refines
  | cons sent rest ih =>
    obtain ⟨first, others⟩ := List.forall_mem_cons.mp valid
    exact ih others plain.2 (refines_step own rounds lowercases first plain.1 refines)

end Steps

end Xcp.SharedSessions
