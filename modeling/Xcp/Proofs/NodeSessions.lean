import Xcp.Gateway.Bindings

/-! What one request writes to the session table of either gateway in JavaScript, and
which headers they take for verified. -/

namespace Xcp.GatewayTs
open JavaScript
open Digits (Decimal value)
open Gateway (HttpRequest)
open Node (Request World isDecimal isFootprint isLowerHex parseBody)
open Python (Json splitOn)

/-- A version of the protocol is shared with the caller. -/
def negotiates (request : HttpRequest) : Bool := (negotiate (Node.header request "xcp-accept-versions")).toOption.isSome

variable {bindings after : Bindings} {world : World} {request : HttpRequest}

/-- A caller that says nothing is served. -/
theorem negotiates_of_silent (silent : Node.header request "xcp-accept-versions" = "") : negotiates request = true := by
  rw [negotiates, silent]
  decide

theorem negotiated_ok {handler : Option (Bindings × Node.Answer)}
    (done : Prod.fst <$> negotiated bindings request handler = some after) :
    (negotiates request = true ∧ ∃ answer, handler = some (after, answer)) ∨ (negotiates request = false ∧ after = bindings) := by
  rw [negotiated] at done
  rw [negotiates]
  cases version : negotiate (Node.header request "xcp-accept-versions") with
  | error reason =>
    rw [version] at done
    exact .inr ⟨rfl, (Option.some.inj done).symm⟩
  | ok shared =>
    simp only [version, Option.map_eq_map, Option.map_eq_some_iff] at done
    obtain ⟨⟨table, answer⟩, handled, rfl⟩ := done
    exact .inl ⟨rfl, answer, handled⟩

theorem negotiated_of {handler : Option (Bindings × Node.Answer)} (shared : negotiates request = true) :
    negotiated bindings request handler = handler := by
  rw [negotiates] at shared
  rw [negotiated]
  cases version : negotiate (Node.header request "xcp-accept-versions") with
  | error reason =>
    rw [version] at shared
    cases shared
  | ok version => rfl

/-! ### Writes -/

variable [Unicode]

inductive Write where
  | binds (opening : Opening)
  | revokes (key : String)

def Write.key : Write → String
  | .binds opening => Unicode.toLowerCase opening.footprint
  | .revokes key => key

/-- What the table holds for the key of a write, after it. -/
def Write.entry (bindings : Bindings) (now : Rat) : Write → Option Binding
  | .binds opening => some (opening.binding now)
  | .revokes key => (bindings key).map (fun binding => { binding with revoked := true })

variable [Engine] {adminToken : String}

/-- What a session is opened with, unless the request is refused. -/
def accepts (world : World) (request : HttpRequest) : Option Opening :=
  match negotiates request, opening world request with
  | true, some (.ok opening) => some opening
  | _, _ => none

def written (adminToken : String) : World × Request → Option Write
  | (world, .sessionOpen request) => (accepts world request).map .binds
  | (_, .sessionClose request) => if negotiates request then (namedKey request).map .revokes else none
  | (_, .adminRevoke request) =>
    if negotiates request && adminOk adminToken request then (namedKey request).map .revokes else none
  | (_, .governed _) => none

theorem sessionOpen_ok {answer : Node.Answer} (done : sessionOpen world bindings request = some (after, answer))
    (shared : negotiates request = true) :
    after = match accepts world request with
      | some opening => bind bindings world.now opening
      | none => bindings := by
  rw [sessionOpen] at done
  rw [accepts, shared]
  cases read : opening world request with
  | none =>
    rw [read] at done
    cases done
  | some result =>
    cases result with
    | error refusal =>
      simp only [read, Option.pure_def, Option.bind_eq_bind, Option.bind_some, Option.some.injEq, Prod.mk.injEq] at done
      exact done.1.symm
    | ok opening =>
      simp only [read, Option.pure_def, Option.bind_eq_bind, Option.bind_some, Option.some.injEq, Prod.mk.injEq] at done
      exact done.1.symm

/-- The table changes where the request writes, and nowhere else. -/
theorem handle_eq {event : World × Request} (done : handle adminToken bindings event = some after) :
    after = match written adminToken event with
      | some write => Function.update bindings write.key (write.entry bindings event.1.now)
      | none => bindings := by
  obtain ⟨world, request⟩ := event
  cases request with
  | governed request => exact (Option.some.inj done).symm
  | sessionOpen request =>
    rw [written]
    obtain ⟨shared, answer, handled⟩ | ⟨refused, same⟩ := negotiated_ok done
    · rw [sessionOpen_ok handled shared]
      cases accepts world request <;> rfl
    · rw [accepts, refused, same]
      rfl
  | sessionClose request =>
    rw [written]
    obtain ⟨shared, answer, handled⟩ | ⟨refused, same⟩ := negotiated_ok done
    · rw [sessionClose, Option.bind_eq_bind, Option.bind_eq_some_iff] at handled
      obtain ⟨key, named, stored⟩ := handled
      rw [if_pos shared, named]
      exact (congrArg Prod.fst (Option.some.inj stored)).symm
    · simp [refused, same]
  | adminRevoke request =>
    rw [written]
    obtain ⟨shared, answer, handled⟩ | ⟨refused, same⟩ := negotiated_ok done
    · rw [adminRevoke] at handled
      by_cases admin : adminOk adminToken request = true
      · rw [admin, Bool.not_true, if_neg Bool.false_ne_true, Option.bind_eq_bind, Option.bind_eq_some_iff] at handled
        obtain ⟨key, named, stored⟩ := handled
        rw [if_pos (by simp [shared, admin]), named]
        exact (congrArg Prod.fst (Option.some.inj stored)).symm
      · rw [Bool.not_eq_true] at admin
        rw [admin, Bool.not_false, if_pos rfl] at handled
        rw [if_neg (by simp [admin])]
        exact (congrArg Prod.fst (Option.some.inj handled)).symm
    · simp [refused, same]

@[simp] theorem step_some (event : World × Request) : step adminToken (some bindings) event = handle adminToken bindings event := rfl

theorem step_eq_some {process : Option Bindings} {event : World × Request} (done : step adminToken process event = some after) :
    ∃ bindings, process = some bindings ∧ handle adminToken bindings event = some after :=
  Option.bind_eq_some_iff.mp done

/-! ### Sessions that a request opens -/

omit [Unicode] in
theorem accepts_ok {opening : Opening} (accepted : accepts world request = some opening) :
    negotiates request = true ∧ GatewayTs.opening world request = some (.ok opening) := by
  rw [accepts] at accepted
  split at accepted
  next found shared read =>
    rw [Option.some.inj accepted] at read
    exact ⟨shared, read⟩
  next => cases accepted

omit [Unicode] in
/-- What an accepted body says of the agent and of the footprint. -/
theorem opening_ok {opening : Opening} (read : GatewayTs.opening world request = some (.ok opening)) :
    ∃ members agentId footprint, parseBody bodyCap request = some (.dict members) ∧
      Json.find? members "agentId" = some agentId ∧ (ofJson agentId).toNumber = some opening.agentId ∧
      Json.find? members "footprint" = some footprint ∧ (ofJson footprint).toText = some opening.footprint := by
  by_cases metered : (world.meter (openQuery request)).allowed = true
  · cases parsed : parseBody bodyCap request with
    | none =>
      simp [GatewayTs.opening, metered, parsed] at read
    | some document =>
      simp only [GatewayTs.opening, metered, parsed, Bool.not_true, Bool.false_eq_true, if_false, Option.bind_eq_bind,
        Option.bind_eq_some_iff, Option.pure_def] at read
      obtain ⟨footprint, footprint_read, agentId, agentId_read, read⟩ := read
      by_cases missing : (!footprint.truthy || !agentId.truthy) = true
      · rw [if_pos missing] at read
        cases read
      · rw [if_neg missing] at read
        simp only [Bool.or_eq_true, Bool.not_eq_true', not_or, Bool.not_eq_false] at missing
        obtain ⟨members, written, rfl, found, rfl⟩ := get_ofJson_truthy agentId_read missing.2
        obtain ⟨members', named, same, found', rfl⟩ := get_ofJson_truthy footprint_read missing.1
        obtain rfl := Json.dict.inj same
        simp only [Option.bind_eq_some_iff] at read
        obtain ⟨number, number_read, chainId, _, chainId', _, text, text_read, tier, _, root, _, rails, _, stored⟩ := read
        obtain rfl := Except.ok.inj (Option.some.inj stored)
        exact ⟨members, written, named, rfl, found, number_read, found', text_read⟩
  · simp [GatewayTs.opening, metered] at read

omit [Unicode] in
/-- A body with an agent and a footprint is accepted. -/
theorem opening_of (world : World) (request : HttpRequest) {members : List (String × Json)} {agentId : Json}
    {footprint : String} {number chainId : Python.Double}
    (metered : (world.meter (openQuery request)).allowed = true) (parsed : parseBody bodyCap request = some (.dict members))
    (named : Json.find? members "footprint" = some (.str footprint)) (filled : footprint ≠ "")
    (written : Json.find? members "agentId" = some agentId) (present : (ofJson agentId).truthy = true)
    (read : (ofJson agentId).toNumber = some number)
    (chain : ((((Json.find? members "chainId").map ofJson).getD .undefined).orElse (.number (.finite 8453))).toNumber = some chainId) :
    GatewayTs.opening world request = some (.ok {
      agentId := number, chainId, footprint
      tier := ((Json.find? members "tier").map ofJson).getD .undefined
      mandateRoot := ((Json.find? members "mandateRoot").map ofJson).getD .undefined
      rails := ((Json.find? members "rails").map ofJson).getD .undefined }) := by
  have letters : ofJson (.str footprint) = .string footprint := rfl
  have text : (Value.string footprint).truthy = true := by simpa [Value.truthy] using filled
  simp [GatewayTs.opening, metered, parsed, get_ofJson_dict, named, written, present, read, chain, letters, text,
    Value.toText]

theorem handle_of_accepts {opening : Opening} (accepted : accepts world request = some opening) :
    handle adminToken bindings (world, .sessionOpen request) = some (bind bindings world.now opening) := by
  obtain ⟨shared, read⟩ := accepts_ok accepted
  rw [handle, negotiated_of shared, sessionOpen, read]
  rfl

theorem handle_of_admin {key : String} (shared : negotiates request = true) (admin : adminOk adminToken request = true)
    (named : namedKey request = some key) :
    handle adminToken bindings (world, .adminRevoke request) = some (revoke bindings key) := by
  rw [handle, negotiated_of shared, adminRevoke, admin, Bool.not_true, if_neg Bool.false_ne_true, named]
  rfl

omit [Unicode] in
theorem accepts_of {opening : Opening} (shared : negotiates request = true)
    (read : GatewayTs.opening world request = some (.ok opening)) : accepts world request = some opening := by
  rw [accepts, shared, read]

/-! ### Verified headers -/

/-- The table holds a session that is neither revoked nor over. -/
structure Live (bindings : Bindings) (now : Rat) (key : String) (binding : Binding) : Prop where
  stored : bindings key = some binding
  standing : binding.revoked = false
  current : ⌊now⌋ ≤ binding.notAfter

omit [Engine] in
theorem verify_eq_some {now : Rat} {footprint : String} {binding : Binding} :
    verify bindings now footprint = some binding ↔ Live bindings now (Unicode.toLowerCase footprint) binding := by
  rw [verify]
  constructor
  · intro found
    cases stored : bindings (Unicode.toLowerCase footprint) with
    | none => simp [stored] at found
    | some entry =>
      simp only [stored] at found
      by_cases revoked : entry.revoked = true
      · simp [revoked] at found
      · by_cases past : entry.notAfter < ⌊now⌋
        · simp [past] at found
        · rw [if_neg revoked, if_neg past] at found
          obtain rfl := Option.some.inj found
          exact ⟨stored, by simpa using revoked, not_lt.mp past⟩
  · intro live
    simp [live.stored, live.standing, live.current]

/-- What is checked of the three fields of a header. -/
structure Verified (bindings : Bindings) (now : Rat) (agentId chainId footprint : String) (binding : Binding) : Prop where
  decimal : Decimal agentId.toList
  chain : Decimal chainId.toList
  shape : isFootprint isLowerHex footprint = true
  live : Live bindings now (Unicode.toLowerCase footprint) binding
  same : strictlyEqual (Engine.toDouble (value agentId.toList : Rat)) binding.agentId = true

theorem parseIdentity_ok_iff {now : Rat} {header : String} {identity : Identity} :
    parseIdentity bindings now header = .ok identity ↔
      ∃ agentId chainId, splitOn header ';' = [agentId, chainId, identity.footprint] ∧
        identity.agentId = numberOfText agentId ∧
        Verified bindings now agentId chainId identity.footprint identity.binding := by
  rw [parseIdentity]
  constructor
  · intro parsed
    split at parsed
    · cases parsed
    · split at parsed
      next agentId chainId footprint split =>
        simp only [isDecimal, Bool.or_eq_true, Bool.not_eq_true', decide_eq_false_iff_not, ← not_and_or] at parsed
        split at parsed
        · cases parsed
        next decimals =>
          rw [not_not] at decimals
          split at parsed
          · cases parsed
          next shape =>
            split at parsed
            · cases parsed
            next binding found =>
              split at parsed
              · cases parsed
              next same =>
                obtain rfl := Except.ok.inj parsed
                refine ⟨agentId, chainId, split, rfl, decimals.1, decimals.2, by simpa using shape, verify_eq_some.mp found, ?_⟩
                rw [← Digits.javaScript_numberOfText decimals.1]
                simpa using same
      · cases parsed
  · intro ⟨agentId, chainId, split, number, verified⟩
    have filled : header ≠ "" := by
      rintro rfl
      simp [splitOn] at split
    rw [if_neg filled, split]
    have found := verify_eq_some.mpr verified.live
    have same := verified.same
    rw [← Digits.javaScript_numberOfText verified.decimal] at same
    simp only [isDecimal, verified.decimal, verified.chain, verified.shape, found, same, decide_true, Bool.not_true,
      Bool.or_self, Bool.false_eq_true, if_false, Except.ok.injEq]
    rw [← number]

theorem Verified.parses {now : Rat} {header agentId chainId footprint : String} {binding : Binding}
    (verified : Verified bindings now agentId chainId footprint binding)
    (fields : splitOn header ';' = [agentId, chainId, footprint]) :
    parseIdentity bindings now header = .ok { agentId := numberOfText agentId, footprint, binding } :=
  parseIdentity_ok_iff.mpr ⟨agentId, chainId, fields, rfl, verified⟩

end Xcp.GatewayTs

namespace Xcp.ImplNode
open JavaScript
open Digits (Decimal)
open Gateway (HttpRequest)
open Node (Request World footprintOf isDecimal isFootprint isHex isLowerHex)
open Python (Json splitOn)

/-- The whole request is read, and a version of the protocol shared with the caller. -/
def negotiates (request : HttpRequest) : Bool :=
  request.bodyBytes ≤ bodyCap && (negotiate (Node.header request "xcp-accept-versions")).isSome

variable {sessions after : Sessions} {world : World} {request : HttpRequest}

theorem negotiates_of_silent (short : request.bodyBytes ≤ bodyCap)
    (silent : Node.header request "xcp-accept-versions" = "") : negotiates request = true := by
  have served : (negotiate "").isSome = true := by decide
  rw [negotiates, silent, served, decide_eq_true short]
  rfl

theorem negotiated_ok {handler : Option (Sessions × Node.Answer)}
    (done : Prod.fst <$> negotiated sessions request handler = some after) :
    (negotiates request = true ∧ ∃ answer, handler = some (after, answer)) ∨ (negotiates request = false ∧ after = sessions) := by
  rw [negotiated] at done
  rw [negotiates]
  by_cases long : bodyCap < request.bodyBytes
  · rw [if_pos long] at done
    exact .inr ⟨by simp [not_le.mpr long], (Option.some.inj done).symm⟩
  · rw [if_neg long] at done
    cases version : negotiate (Node.header request "xcp-accept-versions") with
    | none =>
      rw [version] at done
      exact .inr ⟨by simp, (Option.some.inj done).symm⟩
    | some shared =>
      simp only [version, Option.map_eq_map, Option.map_map, Option.map_eq_some_iff] at done
      obtain ⟨⟨table, answer⟩, handled, rfl⟩ := done
      exact .inl ⟨by simpa using not_lt.mp long, answer, handled⟩

theorem negotiated_of {handler : Option (Sessions × Node.Answer)} (shared : negotiates request = true) :
    Prod.fst <$> negotiated sessions request handler = Prod.fst <$> handler := by
  rw [negotiates, Bool.and_eq_true, decide_eq_true_iff] at shared
  obtain ⟨version, found⟩ := Option.isSome_iff_exists.mp shared.2
  rw [negotiated, if_neg (not_lt.mpr shared.1), found]
  cases handler <;> rfl

/-! ### Writes -/

variable [Unicode] [Engine] {adminToken : String}

/-- The session that is opened and its key, unless the request is refused. -/
def accepts (world : World) (request : HttpRequest) : Option (String × Session) :=
  match negotiates request, opening world request with
  | true, some (.ok (key, session, _)) => some (key, session)
  | _, _ => none

/-- The key that is written, and what is held there afterwards. -/
def written (adminToken : String) : World × Request → Option (String × Option Session)
  | (world, .sessionOpen request) => (accepts world request).map (fun (key, session) => (key, some session))
  | (_, .adminRevoke request) =>
    if negotiates request && adminOk adminToken request then
      (footprintOf (body request)).map (fun footprint => (Unicode.toLowerCase footprint, none))
    else none
  | (_, .sessionClose _) | (_, .governed _) => none

theorem sessionOpen_ok {answer : Node.Answer} (done : sessionOpen world sessions request = some (after, answer))
    (shared : negotiates request = true) :
    after = match accepts world request with
      | some (key, session) => Function.update sessions key (some session)
      | none => sessions := by
  rw [sessionOpen] at done
  rw [accepts, shared]
  cases read : opening world request with
  | none =>
    rw [read] at done
    cases done
  | some result =>
    cases result with
    | error refusal =>
      simp only [read, Option.pure_def, Option.bind_eq_bind, Option.bind_some, Option.some.injEq, Prod.mk.injEq] at done
      exact done.1.symm
    | ok opened =>
      obtain ⟨key, session, opened⟩ := opened
      simp only [read, Option.pure_def, Option.bind_eq_bind, Option.bind_some, Option.some.injEq, Prod.mk.injEq] at done
      exact done.1.symm

theorem handle_eq {event : World × Request} (done : handle adminToken sessions event = some after) :
    after = match written adminToken event with
      | some (key, entry) => Function.update sessions key entry
      | none => sessions := by
  obtain ⟨world, request⟩ := event
  cases request with
  | governed request => exact (Option.some.inj done).symm
  | sessionClose request => exact (Option.some.inj done).symm
  | sessionOpen request =>
    rw [written]
    obtain ⟨shared, answer, handled⟩ | ⟨refused, same⟩ := negotiated_ok done
    · rw [sessionOpen_ok handled shared]
      cases accepts world request <;> rfl
    · rw [accepts, refused, same]
      rfl
  | adminRevoke request =>
    rw [written]
    obtain ⟨shared, answer, handled⟩ | ⟨refused, same⟩ := negotiated_ok done
    · rw [adminRevoke] at handled
      by_cases admin : adminOk adminToken request = true
      · simp only [admin, Bool.not_true, Bool.false_eq_true, if_false, Option.bind_eq_bind, Option.bind_eq_some_iff] at handled
        obtain ⟨footprint, read, named, _, stored⟩ := handled
        rw [if_pos (by simp [shared, admin]), read]
        exact (congrArg Prod.fst (Option.some.inj stored)).symm
      · rw [Bool.not_eq_true] at admin
        rw [admin, Bool.not_false, if_pos rfl] at handled
        rw [if_neg (by simp [admin])]
        exact (congrArg Prod.fst (Option.some.inj handled)).symm
    · simp [refused, same]

/-- A body with a footprint is accepted. -/
theorem opening_of (world : World) (request : HttpRequest) {members : List (String × Json)} {footprint tier : String}
    {number : Python.Double}
    (metered : (world.meter (openQuery request)).allowed = true) (parsed : body request = .dict members)
    (named : Json.find? members "footprint" = some (.str footprint))
    (shape : isFootprint isLowerHex (Unicode.toLowerCase footprint) = true)
    (read : ((((Json.find? members "agentId").map ofJson).getD .undefined).orElse (.number (.finite 0))).toNumber = some number)
    (text : ((((Json.find? members "tier").map ofJson).getD .undefined).orElse (.string "A0xH0")).toText = some tier) :
    ∃ answer, opening world request =
      some (.ok (Unicode.toLowerCase footprint, { agentId := number, tier, notAfter := world.now + 7 * 86400 }, answer)) := by
  have whole : ((Value.string footprint).orElse (.string "")).toText = some footprint := by
    by_cases filled : footprint = ""
    · simp [filled, Value.orElse, Value.truthy, Value.toText]
    · simp [filled, Value.orElse, Value.truthy, Value.toText]
  have letters : ofJson (.str footprint) = .string footprint := rfl
  simp [opening, footprintOf, metered, parsed, get_ofJson_dict, named, letters, whole, shape, read, text]

@[simp] theorem step_some (event : World × Request) : step adminToken (some sessions) event = handle adminToken sessions event := rfl

theorem handle_of_accepts {key : String} {session : Session} (accepted : accepts world request = some (key, session)) :
    handle adminToken sessions (world, .sessionOpen request) = some (Function.update sessions key (some session)) := by
  rw [accepts] at accepted
  split at accepted
  next found answer shared read =>
    obtain ⟨rfl, rfl⟩ := Prod.mk.inj (Option.some.inj accepted)
    rw [handle, negotiated_of shared, sessionOpen, read]
    rfl
  next => cases accepted

theorem handle_of_admin {footprint : String} {value : Value} (shared : negotiates request = true)
    (admin : adminOk adminToken request = true) (named : footprintOf (body request) = some footprint)
    (echoed : (ofJson (body request)).get "footprint" = some value) :
    handle adminToken sessions (world, .adminRevoke request) =
      some (Function.update sessions (Unicode.toLowerCase footprint) none) := by
  rw [handle, negotiated_of shared, adminRevoke, admin, Bool.not_true, if_neg Bool.false_ne_true, named, echoed]
  rfl

theorem accepts_of {key : String} {session : Session} {answer : Node.Answer} (shared : negotiates request = true)
    (read : opening world request = some (.ok (key, session, answer))) : accepts world request = some (key, session) := by
  rw [accepts, shared, read]

/-! ### Verified headers -/

/-- What is checked of a header: nothing of its second field, and of the first one only
that it is a number. -/
structure Verified (sessions : Sessions) (now : Rat) (agentId footprint : String) (session : Session) : Prop where
  decimal : Decimal agentId.toList
  shape : isFootprint isHex footprint = true
  stored : sessions (Unicode.toLowerCase footprint) = some session
  current : now ≤ session.notAfter

theorem parseIdentity_ok_iff {now : Rat} {header : String} {identity : Identity} :
    parseIdentity sessions now header = .ok identity ↔
      ∃ agentId chainId session, splitOn header ';' = [agentId, chainId, identity.footprint] ∧
        identity.agentId = numberOfText agentId ∧ identity.tier = session.tier ∧
        Verified sessions now agentId identity.footprint session := by
  rw [parseIdentity]
  constructor
  · intro parsed
    split at parsed
    · cases parsed
    · split at parsed
      next agentId chainId footprint split =>
        simp only [isDecimal, Bool.or_eq_true, Bool.not_eq_true', decide_eq_false_iff_not] at parsed
        split at parsed
        · cases parsed
        next checked =>
          rw [not_or, not_not, Bool.not_eq_false] at checked
          split at parsed
          · cases parsed
          next session found =>
            split at parsed
            · cases parsed
            next past =>
              obtain rfl := Except.ok.inj parsed
              exact ⟨agentId, chainId, session, split, rfl, rfl, checked.1, checked.2, found, not_lt.mp past⟩
      · cases parsed
  · intro ⟨agentId, chainId, session, split, number, tier, verified⟩
    have filled : header ≠ "" := by
      rintro rfl
      simp [splitOn] at split
    rw [if_neg filled, split]
    simp only [isDecimal, verified.decimal, verified.shape, verified.stored, not_lt.mpr verified.current, decide_true,
      Bool.not_true, Bool.or_self, Bool.false_eq_true, if_false, Except.ok.injEq]
    rw [← number, ← tier]

theorem Verified.parses {now : Rat} {header agentId chainId footprint : String} {session : Session}
    (verified : Verified sessions now agentId footprint session) (fields : splitOn header ';' = [agentId, chainId, footprint]) :
    parseIdentity sessions now header = .ok { agentId := numberOfText agentId, tier := session.tier, footprint } :=
  parseIdentity_ok_iff.mpr ⟨agentId, chainId, session, fields, rfl, rfl, verified⟩

end Xcp.ImplNode
