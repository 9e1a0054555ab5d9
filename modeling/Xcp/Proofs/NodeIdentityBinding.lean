import Xcp.Proofs.IdentityGrammar
import Xcp.Proofs.NodeSessions
import Xcp.Proofs.VersionAgreement

/-! The agent id of a header and the one its session was opened with. One of the two
gateways in JavaScript compares them as doubles, the other one does not compare them. -/

namespace Xcp.NodeIdentity
open JavaScript
open Digits (Decimal value)
open Gateway (HttpRequest)
open Node (Request World isFootprint isHex isLowerHex parseBody)
open Python (Double Json splitOn)
open Transition

/-! ### Ids as they are written -/

/-- Numbers of any size, none of them rounded. -/
@[reducible] def exactEngine : Engine where
  parse := fun _ => none
  toDouble := .finite
  numberText := fun number =>
    match number with
    | .finite value => if value.den = 1 then toString value.num else "NaN"
    | _ => "NaN"

/-- The integer in a document that `Number` reads there, up to rounding. -/
def exactId (document : Json) : Option Int :=
  match @Value.toNumber exactEngine (@ofJson exactEngine document) with
  | some (.finite value) => if value.den = 1 then some value.num else none
  | _ => none

example : exactId (.int 9007199254740993) = some 9007199254740993 := by decide

theorem exactId_int (number : Int) : exactId (.int number) = some number := by
  have read : @Value.toNumber exactEngine (@ofJson exactEngine (.int number)) = some (.finite number) := rfl
  rw [exactId, read]
  simp

/-- The agent id in a body, which is zero in effect where it is absent. -/
def writtenId (body : Json) : Json :=
  match body with
  | .dict members => (Json.find? members "agentId").getD .null
  | _ => .null

/-- With what id the session under a key was opened last. -/
def openedWith (opens : World × Request → Option (String × Json)) (key : String) (events : List (World × Request)) :
    Option Json :=
  (events.filterMap opens).reverse.lookup key

section OpenedWith
variable {opens : World × Request → Option (String × Json)} {key : String} {past : List (World × Request)}
  {event : World × Request}

theorem openedWith_same {document : Json} (opened : opens event = some (key, document)) :
    openedWith opens key (past ++ [event]) = some document := by
  simp [openedWith, opened]

theorem openedWith_other (unopened : ∀ document, opens event ≠ some (key, document)) :
    openedWith opens key (past ++ [event]) = openedWith opens key past := by
  rw [openedWith, List.filterMap_append, List.reverse_append]
  cases found : opens event with
  | none => simp [found, openedWith]
  | some opened =>
    obtain ⟨other, document⟩ := opened
    have distinct : (key == other) = false := by
      apply beq_eq_false_iff_ne.mpr
      rintro rfl
      exact unopened document found
    simp [found, List.lookup_cons, distinct, openedWith]

end OpenedWith

/-- The header's id is, digit for digit, the one with which the session was opened. -/
def SameId [Unicode] (opens : World × Request → Option (String × Json)) (events : List (World × Request))
    (agentId footprint : String) : Prop :=
  ∃ document, openedWith opens (Unicode.toLowerCase footprint) events = some document ∧
    exactId document = some (value agentId.toList : Int)

end Xcp.NodeIdentity

namespace Xcp.GatewayTs
open JavaScript
open Digits (Decimal value)
open Node (Request World isFootprint isLowerHex parseBody)
open NodeIdentity
open Python (Json splitOn)
open Transition

variable [Unicode] [Engine]

/-- The key and the written id of a session that a request opens. -/
def opens : World × Request → Option (String × Json)
  | (world, .sessionOpen request) => (accepts world request).map (fun opening =>
      (Unicode.toLowerCase opening.footprint, writtenId ((parseBody bodyCap request).getD .null)))
  | _ => none

/-- Every entry has, rounded, the id that its session was opened with. -/
def Recorded (past : List (World × Request)) (process : Option Bindings) : Prop :=
  ∀ bindings, process = some bindings → ∀ key binding, bindings key = some binding →
    ∃ document, openedWith opens key past = some document ∧ (ofJson document).toNumber = some binding.agentId

theorem opens_binds {adminToken : String} {event : World × Request} {opening : Opening}
    (write : written adminToken event = some (.binds opening)) :
    ∃ document, opens event = some (Unicode.toLowerCase opening.footprint, document) ∧
      (ofJson document).toNumber = some opening.agentId := by
  obtain ⟨world, request⟩ := event
  cases request with
  | sessionOpen request =>
    simp only [written, Option.map_eq_some_iff, Write.binds.injEq] at write
    obtain ⟨accepted, read, rfl⟩ := write
    obtain ⟨members, agentId, footprint, parsed, found, number, -, -⟩ := opening_ok (accepts_ok read).2
    refine ⟨agentId, ?_, number⟩
    simp [opens, read, parsed, writtenId, found]
  | sessionClose request =>
    simp only [written, Option.ite_none_right_eq_some, Option.map_eq_some_iff, reduceCtorEq, and_false, exists_false] at write
  | adminRevoke request =>
    simp only [written, Option.ite_none_right_eq_some, Option.map_eq_some_iff, reduceCtorEq, and_false, exists_false] at write
  | governed request => cases write

theorem opens_none (adminToken : String) {event : World × Request}
    (silent : ∀ opening, written adminToken event ≠ some (.binds opening)) : opens event = none := by
  obtain ⟨world, request⟩ := event
  cases request with
  | sessionOpen request =>
    cases read : accepts world request with
    | none => simp [opens, read]
    | some opening => exact absurd (by simp [written, read]) (silent opening)
  | sessionClose request => rfl
  | adminRevoke request => rfl
  | governed request => rfl

theorem recorded_step {adminToken : String} {past : List (World × Request)} {process : Option Bindings}
    (recorded : Recorded past process) (event : World × Request) : Recorded (past ++ [event]) (step adminToken process event) := by
  intro after done key binding stored
  obtain ⟨bindings, rfl, handled⟩ := step_eq_some done
  rw [handle_eq handled] at stored
  cases write : written adminToken event with
  | none =>
    rw [write] at stored
    have unopened : opens event = none := opens_none adminToken (by simp [write])
    rw [openedWith_other (by simp [unopened])]
    exact recorded bindings rfl key binding stored
  | some wrote =>
    simp only [write] at stored
    cases wrote with
    | binds opening =>
      obtain ⟨document, opened, number⟩ := opens_binds write
      by_cases here : key = Unicode.toLowerCase opening.footprint
      · subst here
        obtain rfl : opening.binding event.1.now = binding := by simpa [Write.key, Write.entry] using stored
        exact ⟨document, openedWith_same opened, number⟩
      · rw [Write.key, Function.update_of_ne here] at stored
        rw [openedWith_other (by simpa [opened] using fun same => absurd same.symm here)]
        exact recorded bindings rfl key binding stored
    | revokes revoked =>
      have unopened : opens event = none := opens_none adminToken (by simp [write])
      rw [openedWith_other (by simp [unopened])]
      by_cases here : key = revoked
      · subst here
        obtain ⟨entry, held, rfl⟩ : ∃ entry, bindings key = some entry ∧ { entry with revoked := true } = binding := by
          simpa [Write.key, Write.entry] using stored
        exact recorded bindings rfl key entry held
      · rw [Write.key, Function.update_of_ne here] at stored
        exact recorded bindings rfl key binding stored

theorem recorded_run (adminToken : String) (events : List (World × Request)) :
    Recorded events (run (step adminToken) (some (fun _ => none)) events) := by
  have initial : Recorded [] (some (fun _ => none)) := by
    intro bindings start key binding stored
    obtain rfl := Option.some.inj start
    cases stored
  have keeps (past : List (World × Request)) (event : World × Request)
      (recorded : Recorded past (run (step adminToken) (some (fun _ => none)) past)) :
      Recorded (past ++ [event]) (step adminToken (run (step adminToken) (some (fun _ => none)) past) event) :=
    recorded_step recorded event
  exact run_history initial keeps events

/-! ### What binds an id -/

variable (events : List (World × Request)) (bindings : Bindings) (now : Rat) (header : String)

/-- A verified header has the id that the session of its footprint was opened with. -/
def BindsId : Prop :=
  ∀ agentId chainId footprint, splitOn header ';' = [agentId, chainId, footprint] →
    (∃ identity, parseIdentity bindings now header = .ok identity) → SameId opens events agentId footprint

/-- Nothing but the two ids is wrong with a header, and they round to the same double. -/
structure Rounds (agentId chainId footprint : String) : Prop where
  fields : splitOn header ';' = [agentId, chainId, footprint]
  decimal : Decimal agentId.toList
  chain : Decimal chainId.toList
  shape : isFootprint isLowerHex footprint = true
  live : ∃ binding, Live bindings now (Unicode.toLowerCase footprint) binding
  same : ∃ document number, openedWith opens (Unicode.toLowerCase footprint) events = some document ∧
    (ofJson document).toNumber = some number ∧ strictlyEqual (Engine.toDouble (value agentId.toList : Rat)) number = true

/-- No two ids that differ are rounded to one double. -/
def Distinct : Prop :=
  ∀ agentId chainId footprint, Rounds events bindings now header agentId chainId footprint → SameId opens events agentId footprint

variable {events bindings now header}

theorem verified_iff_rounds (recorded : Recorded events (some bindings)) {agentId chainId footprint : String}
    (fields : splitOn header ';' = [agentId, chainId, footprint]) :
    (∃ identity, parseIdentity bindings now header = .ok identity) ↔
      Rounds events bindings now header agentId chainId footprint := by
  constructor
  · intro ⟨identity, parsed⟩
    obtain ⟨agentId', chainId', fields', -, verified⟩ := parseIdentity_ok_iff.mp parsed
    obtain ⟨rfl, rfl, rfl⟩ : agentId = agentId' ∧ chainId = chainId' ∧ footprint = identity.footprint := by
      simpa [fields] using fields'
    obtain ⟨document, opened, number⟩ := recorded bindings rfl _ _ verified.live.stored
    exact {
      fields
      decimal := verified.decimal
      chain := verified.chain
      shape := verified.shape
      live := ⟨identity.binding, verified.live⟩
      same := ⟨document, identity.binding.agentId, opened, number, verified.same⟩ }
  · intro rounds
    obtain ⟨binding, live⟩ := rounds.live
    obtain ⟨document, number, opened, read, same⟩ := rounds.same
    obtain ⟨document', opened', read'⟩ := recorded bindings rfl _ _ live.stored
    obtain rfl : document = document' := Option.some.inj (opened.symm.trans opened')
    obtain rfl : number = binding.agentId := Option.some.inj (read.symm.trans read')
    have verified : Verified bindings now agentId chainId footprint binding :=
      ⟨rounds.decimal, rounds.chain, rounds.shape, live, same⟩
    exact ⟨_, verified.parses fields⟩

theorem bindsId_iff (recorded : Recorded events (some bindings)) :
    BindsId events bindings now header ↔ Distinct events bindings now header := by
  constructor
  · intro binds agentId chainId footprint rounds
    exact binds agentId chainId footprint rounds.fields ((verified_iff_rounds recorded rounds.fields).mpr rounds)
  · intro distinct agentId chainId footprint fields verified
    exact distinct agentId chainId footprint ((verified_iff_rounds recorded fields).mp verified)

/-- Ids that doubles hold as they are, no two of them are confused. -/
theorem distinct_of_small (exact : VersionAgreement.Exact)
    (small : ∀ agentId chainId footprint, splitOn header ';' = [agentId, chainId, footprint] → value agentId.toList ≤ 2 ^ 53)
    (opened : ∀ key document, openedWith opens key events = some document →
      ∃ number : Int, document = .int number ∧ number.natAbs ≤ 2 ^ 53) : Distinct events bindings now header := by
  intro agentId chainId footprint rounds
  obtain ⟨document, number, found, read, same⟩ := rounds.same
  obtain ⟨written, rfl, fits⟩ := opened _ _ found
  have told : Engine.toDouble (value agentId.toList : Rat) = .finite (value agentId.toList : Int) :=
    exact (value agentId.toList) (small _ _ _ rounds.fields)
  have kept : .finite (written : Rat) = number := by
    rw [← exact written fits]
    exact Option.some.inj read
  rw [told, ← kept, JavaScript.strictlyEqual, Bool.and_eq_true, decide_eq_true_iff] at same
  have equal : (value agentId.toList : Int) = written := by exact_mod_cast Python.Double.finite.inj same.1
  exact ⟨.int written, found, by rw [exactId_int, equal]⟩

end Xcp.GatewayTs

namespace Xcp.ImplNode
open JavaScript
open Digits (Decimal value)
open Node (Request World isFootprint isHex)
open NodeIdentity
open Python (Json splitOn)
open Transition

variable [Unicode] [Engine]

def opens : World × Request → Option (String × Json)
  | (world, .sessionOpen request) => (accepts world request).map (fun opened => (opened.1, writtenId (body request)))
  | _ => none

/-- Every session was opened, with some id. -/
def Recorded (past : List (World × Request)) (process : Option Sessions) : Prop :=
  ∀ sessions, process = some sessions → ∀ key session, sessions key = some session →
    ∃ document, openedWith opens key past = some document

theorem opens_eq_none (adminToken : String) {event : World × Request}
    (silent : ∀ key session, written adminToken event ≠ some (key, some session)) : opens event = none := by
  obtain ⟨world, request⟩ := event
  cases request with
  | sessionOpen request =>
    cases read : accepts world request with
    | none => simp [opens, read]
    | some opened => exact absurd (by simp [written, read]) (silent opened.1 opened.2)
  | sessionClose request => rfl
  | adminRevoke request => rfl
  | governed request => rfl

theorem opens_written {adminToken key : String} {event : World × Request} {session : Session}
    (write : written adminToken event = some (key, some session)) : ∃ document, opens event = some (key, document) := by
  obtain ⟨world, request⟩ := event
  cases request with
  | sessionOpen request =>
    obtain ⟨opened, read, same⟩ := Option.map_eq_some_iff.mp write
    obtain ⟨rfl, -⟩ := Prod.mk.inj same
    exact ⟨writtenId (body request), by simp [opens, read]⟩
  | adminRevoke request =>
    simp only [written, Option.ite_none_right_eq_some, Option.map_eq_some_iff, Prod.mk.injEq, reduceCtorEq, and_false,
      exists_false] at write
  | sessionClose request => cases write
  | governed request => cases write

theorem recorded_step {adminToken : String} {past : List (World × Request)} {process : Option Sessions}
    (recorded : Recorded past process) (event : World × Request) : Recorded (past ++ [event]) (step adminToken process event) := by
  intro after done key session stored
  obtain ⟨sessions, rfl, handled⟩ := Option.bind_eq_some_iff.mp done
  rw [handle_eq handled] at stored
  cases write : written adminToken event with
  | none =>
    rw [write] at stored
    have unopened : opens event = none := opens_eq_none adminToken (by simp [write])
    rw [openedWith_other (by simp [unopened])]
    exact recorded sessions rfl key session stored
  | some wrote =>
    obtain ⟨other, entry⟩ := wrote
    simp only [write] at stored
    by_cases here : key = other
    · subst here
      obtain rfl : entry = some session := by simpa using stored
      obtain ⟨document, opened⟩ := opens_written write
      exact ⟨document, openedWith_same opened⟩
    · rw [Function.update_of_ne here] at stored
      rw [openedWith_other]
      · exact recorded sessions rfl key session stored
      · intro document opened
        cases entry with
        | none =>
          have unopened : opens event = none := opens_eq_none adminToken (by simp [write])
          rw [unopened] at opened
          cases opened
        | some entry =>
          obtain ⟨document', opened'⟩ := opens_written write
          exact here (congrArg Prod.fst (Option.some.inj (opened.symm.trans opened')))

theorem recorded_run (adminToken : String) (events : List (World × Request)) :
    Recorded events (run (step adminToken) (some (fun _ => none)) events) := by
  have initial : Recorded [] (some (fun _ => none)) := by
    intro sessions start key session stored
    obtain rfl := Option.some.inj start
    cases stored
  have keeps (past : List (World × Request)) (event : World × Request)
      (recorded : Recorded past (run (step adminToken) (some (fun _ => none)) past)) :
      Recorded (past ++ [event]) (step adminToken (run (step adminToken) (some (fun _ => none)) past) event) :=
    recorded_step recorded event
  exact run_history initial keeps events

variable (events : List (World × Request)) (sessions : Sessions) (now : Rat) (header : String)

def BindsId : Prop :=
  ∀ agentId chainId footprint, splitOn header ';' = [agentId, chainId, footprint] →
    (∃ identity, parseIdentity sessions now header = .ok identity) → SameId opens events agentId footprint

/-- Nothing but the two ids can be wrong with a header. -/
structure Named (agentId chainId footprint : String) : Prop where
  fields : splitOn header ';' = [agentId, chainId, footprint]
  decimal : Decimal agentId.toList
  shape : isFootprint isHex footprint = true
  live : ∃ session, sessions (Unicode.toLowerCase footprint) = some session ∧ now ≤ session.notAfter

/-- The header is refused for something else, or tells the id. -/
def Told : Prop :=
  ∀ agentId chainId footprint document, Named sessions now header agentId chainId footprint →
    openedWith opens (Unicode.toLowerCase footprint) events = some document →
    exactId document = some (value agentId.toList : Int)

variable {events sessions now header}

theorem verified_iff_named {agentId chainId footprint : String} (fields : splitOn header ';' = [agentId, chainId, footprint]) :
    (∃ identity, parseIdentity sessions now header = .ok identity) ↔ Named sessions now header agentId chainId footprint := by
  constructor
  · intro ⟨identity, parsed⟩
    obtain ⟨agentId', chainId', session, fields', -, -, verified⟩ := parseIdentity_ok_iff.mp parsed
    obtain ⟨rfl, rfl, rfl⟩ : agentId = agentId' ∧ chainId = chainId' ∧ footprint = identity.footprint := by
      simpa [fields] using fields'
    exact ⟨fields, verified.decimal, verified.shape, session, verified.stored, verified.current⟩
  · intro named
    obtain ⟨session, stored, current⟩ := named.live
    have verified : Verified sessions now agentId footprint session := ⟨named.decimal, named.shape, stored, current⟩
    exact ⟨_, verified.parses fields⟩

theorem bindsId_iff (recorded : Recorded events (some sessions)) :
    BindsId events sessions now header ↔ Told events sessions now header := by
  constructor
  · intro binds agentId chainId footprint document named opened
    obtain ⟨document', opened', same⟩ := binds agentId chainId footprint named.fields ((verified_iff_named named.fields).mpr named)
    obtain rfl : document = document' := Option.some.inj (opened.symm.trans opened')
    exact same
  · intro told agentId chainId footprint fields verified
    have named := (verified_iff_named fields).mp verified
    obtain ⟨session, stored, -⟩ := named.live
    obtain ⟨document, opened⟩ := recorded sessions rfl _ session stored
    exact ⟨document, opened, told agentId chainId footprint document named opened⟩

end Xcp.ImplNode

namespace Xcp.NodeIdentity
open JavaScript
open Digits (Decimal)
open Gateway (HttpRequest)
open Node (Request World isFootprint isLowerHex parseBody)
open Python (Double Json splitOn)
open Transition

/-- After every run, a verified header has the id of its session exactly where the one
gateway has no two ids to confuse and the other is told the right one. -/
theorem verified_id_iff [Unicode] [Engine] (adminToken : String) (events : List (World × Request)) (now : Rat) (header : String) :
    (∀ bindings, run (GatewayTs.step adminToken) (some (fun _ => none)) events = some bindings →
      (GatewayTs.BindsId events bindings now header ↔ GatewayTs.Distinct events bindings now header)) ∧
    (∀ sessions, run (ImplNode.step adminToken) (some (fun _ => none)) events = some sessions →
      (ImplNode.BindsId events sessions now header ↔ ImplNode.Told events sessions now header)) := by
  constructor
  · intro bindings reached
    have recorded := GatewayTs.recorded_run adminToken events
    rw [reached] at recorded
    exact GatewayTs.bindsId_iff recorded
  · intro sessions reached
    have recorded := ImplNode.recorded_run adminToken events
    rw [reached] at recorded
    exact ImplNode.bindsId_iff recorded

/-! ### Runs -/

/-- The whole number of 53 binary digits that is nearest, of two the even one. -/
def nearest (number : Nat) : Nat :=
  let unit := 2 ^ (number.log2 - 52)
  let below := number / unit
  let rest := number % unit
  unit * if 2 * rest < unit ∨ 2 * rest = unit ∧ below % 2 = 0 then below else below + 1

/-- Whole numbers are rounded. -/
scoped instance roundingEngine : Engine where
  parse := fun _ => none
  toDouble := fun value =>
    if value.den = 1 then
      if 1024 ≤ (nearest value.num.natAbs).log2 then .infinite (value < 0)
      else .finite (value.num.sign * nearest value.num.natAbs : Int)
    else .finite value
  numberText := fun _ => ""

scoped instance asciiUnicode : Unicode where
  toLowerCase := Python.lowerAscii

def someFootprint : String := "0x" ++ String.ofList (List.replicate 64 'a')

def someMembers (agentId : Int) : List (String × Json) :=
  [("agentId", .int agentId), ("chainId", .int 8453), ("footprint", .str someFootprint)]

def openRequest (agentId : Int) : HttpRequest where
  client := "203.0.113.7"
  bodyBytes := 120
  body := .ok (.dict (someMembers agentId))

def someWorld : World where
  now := 1000
  meter := fun _ => { allowed := true }

abbrev openEvent (agentId : Int) : World × Request := (someWorld, .sessionOpen (openRequest agentId))

def headerOf (agentId : String) : String := agentId ++ ";8453;" ++ someFootprint

theorem someFootprint_filled : someFootprint ≠ "" := by decide

theorem someFootprint_lower : Unicode.toLowerCase someFootprint = someFootprint := by decide

section Opened
variable {agentId : Int}

theorem someMembers_agentId : Json.find? (someMembers agentId) "agentId" = some (.int agentId) := rfl

theorem someMembers_footprint : Json.find? (someMembers agentId) "footprint" = some (.str someFootprint) := by
  simp [Json.find?, someMembers]

theorem someMembers_chainId : Json.find? (someMembers agentId) "chainId" = some (.int 8453) := by
  simp [Json.find?, someMembers]

theorem someMembers_tier : Json.find? (someMembers agentId) "tier" = none := by
  simp [Json.find?, someMembers]

variable (present : (ofJson (.int agentId)).truthy = true)
include present

theorem gatewayTs_open : ∃ opening, GatewayTs.accepts someWorld (openRequest agentId) = some opening ∧
    opening.agentId = Engine.toDouble agentId ∧ opening.footprint = someFootprint := by
  have chain : ((((Json.find? (someMembers agentId) "chainId").map ofJson).getD .undefined).orElse
      (.number (.finite 8453))).toNumber = some (Engine.toDouble ((8453 : Int) : Rat)) := by
    rw [someMembers_chainId]
    rfl
  have read := GatewayTs.opening_of someWorld (openRequest agentId) rfl rfl someMembers_footprint
    someFootprint_filled someMembers_agentId present rfl chain
  exact ⟨_, GatewayTs.accepts_of (GatewayTs.negotiates_of_silent rfl) read, rfl, rfl⟩

theorem gatewayTs_run : ∃ bindings binding,
    run (GatewayTs.step "") (some (fun _ => none)) [openEvent agentId] = some bindings ∧
    GatewayTs.Live bindings 1000 someFootprint binding ∧ binding.agentId = Engine.toDouble agentId := by
  obtain ⟨opening, accepted, number, footprint⟩ := gatewayTs_open present
  have handled : run (GatewayTs.step "") (some (fun _ => none)) [openEvent agentId] =
      some (GatewayTs.bind (fun _ => none) someWorld.now opening) := by
    rw [run_cons, run_nil, GatewayTs.step_some, GatewayTs.handle_of_accepts accepted]
  refine ⟨_, opening.binding 1000, handled, ?_, number⟩
  exact {
    stored := by simp [GatewayTs.bind, footprint, someFootprint_lower, someWorld]
    standing := rfl
    current := by simp [GatewayTs.Opening.binding] }

theorem openedWith_gatewayTs : openedWith GatewayTs.opens someFootprint [openEvent agentId] = some (.int agentId) := by
  obtain ⟨opening, accepted, -, footprint⟩ := gatewayTs_open present
  have written : writtenId ((parseBody GatewayTs.bodyCap (openRequest agentId)).getD .null) = .int agentId := rfl
  have opened : GatewayTs.opens (openEvent agentId) = some (someFootprint, .int agentId) := by
    rw [GatewayTs.opens, accepted, Option.map_some, footprint, someFootprint_lower, written]
  have last : openedWith GatewayTs.opens someFootprint ([] ++ [openEvent agentId]) = some (.int agentId) := openedWith_same opened
  exact last

theorem implNode_open : ImplNode.accepts someWorld (openRequest agentId) =
    some (someFootprint, { agentId := Engine.toDouble agentId, tier := "A0xH0", notAfter := 1000 + 7 * 86400 }) := by
  have shape : isFootprint isLowerHex (Unicode.toLowerCase someFootprint) = true := by
    rw [someFootprint_lower]
    decide
  have number : ((((Json.find? (someMembers agentId) "agentId").map ofJson).getD .undefined).orElse
      (.number (.finite 0))).toNumber = some (Engine.toDouble agentId) := by
    rw [someMembers_agentId, Option.map_some, Option.getD_some, Value.orElse, if_pos present]
    rfl
  have tier : ((((Json.find? (someMembers agentId) "tier").map ofJson).getD .undefined).orElse
      (.string "A0xH0")).toText = some "A0xH0" := by
    rw [someMembers_tier]
    rfl
  have short : (openRequest agentId).bodyBytes ≤ ImplNode.bodyCap := by norm_num [openRequest, ImplNode.bodyCap]
  obtain ⟨answer, read⟩ := ImplNode.opening_of someWorld (openRequest agentId) rfl rfl someMembers_footprint shape number tier
  rw [someFootprint_lower] at read
  exact ImplNode.accepts_of (ImplNode.negotiates_of_silent short rfl) read

theorem implNode_run : ∃ sessions session,
    run (ImplNode.step "") (some (fun _ => none)) [openEvent agentId] = some sessions ∧
    sessions someFootprint = some session ∧ session.notAfter = 1000 + 7 * 86400 := by
  have handled : run (ImplNode.step "") (some (fun _ => none)) [openEvent agentId] = some (Function.update (fun _ => none)
      someFootprint (some { agentId := Engine.toDouble agentId, tier := "A0xH0", notAfter := 1000 + 7 * 86400 })) := by
    rw [run_cons, run_nil, ImplNode.step_some, ImplNode.handle_of_accepts (implNode_open present)]
  exact ⟨_, _, handled, Function.update_self .., rfl⟩

theorem openedWith_implNode : openedWith ImplNode.opens someFootprint [openEvent agentId] = some (.int agentId) := by
  have written : writtenId (ImplNode.body (openRequest agentId)) = .int agentId := rfl
  have opened : ImplNode.opens (openEvent agentId) = some (someFootprint, .int agentId) := by
    rw [ImplNode.opens, implNode_open present, Option.map_some, written]
  have last : openedWith ImplNode.opens someFootprint ([] ++ [openEvent agentId]) = some (.int agentId) := openedWith_same opened
  exact last

end Opened

theorem fields_headerOf {agentId : String} (decimal : Decimal agentId.toList) :
    splitOn (headerOf agentId) ';' = [agentId, "8453", someFootprint] := by
  have letters : (headerOf agentId).toList = agentId.toList ++ ';' :: ("8453".toList ++ ';' :: someFootprint.toList) := by
    simp [headerOf, String.toList_append]
  have plain : ';' ∉ agentId.toList := IdentityGrammar.decimal_plain decimal
  rw [splitOn, letters, IdentityGrammar.splitOn_three plain (by decide) (by decide)]
  simp

theorem verified_id_iff_seven : ∃ bindings sessions,
    run (GatewayTs.step "") (some (fun _ => none)) [openEvent 7] = some bindings ∧
    run (ImplNode.step "") (some (fun _ => none)) [openEvent 7] = some sessions ∧
    GatewayTs.BindsId [openEvent 7] bindings 1000 (headerOf "7") ∧ ImplNode.BindsId [openEvent 7] sessions 1000 (headerOf "7") := by
  have present : (ofJson (.int 7)).truthy = true := by decide
  have decimal : Decimal "7".toList := by decide
  have fields := fields_headerOf decimal
  obtain ⟨bindings, -, reached, -, -⟩ := gatewayTs_run present
  obtain ⟨sessions, -, reached', -, -⟩ := implNode_run present
  obtain ⟨first, second⟩ := verified_id_iff "" [openEvent 7] 1000 (headerOf "7")
  have told {opens : World × Request → Option (String × Json)} {agentId chainId footprint : String}
      (opened : openedWith opens someFootprint [openEvent 7] = some (.int 7))
      (found : splitOn (headerOf "7") ';' = [agentId, chainId, footprint]) : SameId opens [openEvent 7] agentId footprint := by
    obtain ⟨rfl, rfl, rfl⟩ : "7" = agentId ∧ "8453" = chainId ∧ someFootprint = footprint := by simpa [fields] using found
    exact ⟨.int 7, by rw [someFootprint_lower, opened], by decide⟩
  refine ⟨bindings, sessions, reached, reached', (first bindings reached).mpr ?_, (second sessions reached').mpr ?_⟩
  · intro agentId chainId footprint rounds
    exact told (openedWith_gatewayTs present) rounds.fields
  · intro agentId chainId footprint document named opened
    obtain ⟨document', opened', same⟩ := told (openedWith_implNode present) named.fields
    obtain rfl : document = document' := Option.some.inj (opened.symm.trans opened')
    exact same

/-- Two ids that differ by one are the same double, and the other gateway takes any id. -/
theorem other_id_verified :
    (∃ bindings, run (GatewayTs.step "") (some (fun _ => none)) [openEvent 9007199254740993] = some bindings ∧
      ¬ GatewayTs.BindsId [openEvent 9007199254740993] bindings 1000 (headerOf "9007199254740992")) ∧
    (∃ sessions, run (ImplNode.step "") (some (fun _ => none)) [openEvent 7] = some sessions ∧
      ¬ ImplNode.BindsId [openEvent 7] sessions 1000 (headerOf "8")) := by
  constructor
  · have present : (ofJson (.int 9007199254740993)).truthy = true := by decide
    have decimal : Decimal "9007199254740992".toList := by decide
    have fields := fields_headerOf decimal
    obtain ⟨bindings, binding, reached, live, number⟩ := gatewayTs_run present
    refine ⟨bindings, reached, fun binds => ?_⟩
    have verified : GatewayTs.Verified bindings 1000 "9007199254740992" "8453" someFootprint binding := {
      decimal
      chain := by decide
      shape := by decide
      live := by rwa [someFootprint_lower]
      same := by
        rw [number]
        decide }
    obtain ⟨document, opened, same⟩ := binds _ _ _ fields ⟨_, verified.parses fields⟩
    rw [someFootprint_lower, openedWith_gatewayTs present, Option.some.injEq] at opened
    rw [← opened] at same
    revert same
    decide
  · have present : (ofJson (.int 7)).truthy = true := by decide
    have decimal : Decimal "8".toList := by decide
    have fields := fields_headerOf decimal
    obtain ⟨sessions, session, reached, stored, expiry⟩ := implNode_run present
    refine ⟨sessions, reached, fun binds => ?_⟩
    have verified : ImplNode.Verified sessions 1000 "8" someFootprint session := {
      decimal
      shape := by decide
      stored := by rw [someFootprint_lower, stored]
      current := by norm_num [expiry] }
    obtain ⟨document, opened, same⟩ := binds _ _ _ fields ⟨_, verified.parses fields⟩
    rw [someFootprint_lower, openedWith_implNode present, Option.some.injEq] at opened
    rw [← opened] at same
    revert same
    decide

end Xcp.NodeIdentity
