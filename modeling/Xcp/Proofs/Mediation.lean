import Xcp.Gateway.Tickets

/-! Mediation of governed calls. The endpoint for tool calls passes every gate;
the other three leave gates out, and hold exactly when those would have passed. -/

namespace Xcp.Gateway
open Checked Python Http Eth

/-- What a request asks for, as the gates are to see it. -/
structure Action where
  ctx : Ctx
  scope : String
  args : Json

inductive Endpoint where
  | a2tCall | a2aDelegate | t2tPipe | toolRelay
deriving DecidableEq, Repr

/-- The response says that the action is authorised. -/
def Authorises (response : Response) : Prop :=
  response.body.get "authorized" = .ok (.bool true) ∨ response.body.get "chained" = .ok (.bool true)

def Acts (served : Served) : Prop := served.sent.isSome = true ∨ Authorises served.response

theorem get_dict {body value : Json} {key : String} {default : Json} (found : body.get key default = .ok value) :
    ∃ members, body = .dict members := by
  cases body with
  | dict members => exact ⟨members, rfl⟩
  | _ => cases found

section Endpoints
variable [Host] [Packages] (node : Node) (network : Network) (tables : Tables) (request : HttpRequest)

def handle : Endpoint → Handler Served
  | .a2tCall => a2tCall node network tables request
  | .a2aDelegate => a2aDelegate node network tables request
  | .t2tPipe => t2tPipe node network tables request
  | .toolRelay => toolRelay node network tables request

/-- The action of a governed request; only a tool call carries arguments. -/
def governedAction (scopeOf : Json → Raises String) (argsOf : Json → Raises Json) : Handler Action := do
  let ctx ← attempt (parseCtx node.toConfig network.toWorld tables.registry request)
  let body ← attempt request.bodyOrEmpty
  let scope ← attempt (scopeOf body)
  let args ← attempt (argsOf body)
  return { ctx, scope, args }

def Relay.action (relay : Relay) : Action where
  ctx := relay.ctx
  scope := toolScope relay.tool
  args := relay.args

def actionOf : Endpoint → Handler Action
  | .a2tCall => governedAction node network tables request a2tScope (fun body => body.get "arguments" (.dict []))
  | .a2aDelegate => governedAction node network tables request a2aScope (fun _ => .ok (.dict []))
  | .t2tPipe => governedAction node network tables request t2tScope (fun _ => .ok (.dict []))
  | .toolRelay => Relay.action <$> admitRelay node network tables request

/-- The three gates are open for an action. -/
structure Mediated (action : Action) : Prop where
  mandate : ∃ why, checkMandate node.toConfig network.toWorld (request.header "xcp-mandate") action.ctx.binding
    action.scope = .ok (true, why)
  policy : PolicyAllows node action.ctx action.scope (action.args.orElse (.dict []))
  firewall : FirewallAllows node action.args

/-- Whatever the endpoint forwards or authorises has passed the gates. -/
def Mediates (endpoint : Endpoint) : Prop :=
  ∀ served, handle node network tables request endpoint = .ok served → Acts served →
    ∃ action, actionOf node network tables request endpoint = .ok action ∧ Mediated node network request action

/-- The call of a relay reaches a tool server or another peer. -/
def Routes (relay : Relay) : Prop :=
  ∃ served, routeMcp node network tables.federation relay.server relay.tool relay.args relay.ctx
    node.relayCredential = .ok served ∧ served.sent.isSome = true

/-- Each gate that the endpoint leaves out would be open, where the endpoint's
own checks let the request pass. -/
def SkippedOpen : Endpoint → Prop
  | .a2tCall => True
  | .a2aDelegate => ∀ governed, govern node network tables.registry request a2aScope = .ok governed →
    PolicyAllows node governed.ctx governed.scope (.dict [])
  | .t2tPipe => ∀ governed, govern node network tables.registry request t2tScope = .ok governed →
    PolicyAllows node governed.ctx governed.scope (.dict [])
  | .toolRelay => ∀ relay, admitRelay node network tables request = .ok relay → Routes node network tables relay →
    Mediated node network request relay.action

end Endpoints

/-! ### The checks that the governed endpoints share -/

section Governed
variable [Host] {node : Node} {network : Network} {tables : Tables} {request : HttpRequest}
  {scopeOf : Json → Raises String} {governed : Governed}

theorem govern_ok (done : govern node network tables.registry request scopeOf = .ok governed) :
    parseCtx node.toConfig network.toWorld tables.registry request = .ok governed.ctx ∧
      request.bodyOrEmpty = .ok governed.body ∧ scopeOf governed.body = .ok governed.scope ∧
      (node.enforces = true → ∃ why, checkMandate node.toConfig network.toWorld (request.header "xcp-mandate")
        governed.ctx.binding governed.scope = .ok (true, why)) := by
  simp only [govern, bind_eq_ok, require_eq_ok, attempt_eq_ok, pure_eq_ok, Prod.exists] at done
  obtain ⟨_, _, ctx, parsed, _, _, _, _, body, read, scope, derived, _, _, accepted, why, checked, _, allowed, rfl⟩ :=
    done
  refine ⟨parsed, read, derived, ?_⟩
  intro enforced
  refine ⟨why, ?_⟩
  rw [checked, allowed enforced]

theorem governedAction_eq (done : govern node network tables.registry request scopeOf = .ok governed)
    {argsOf : Json → Raises Json} {args : Json} (given : argsOf governed.body = .ok args) :
    governedAction node network tables request scopeOf argsOf =
      .ok { ctx := governed.ctx, scope := governed.scope, args } := by
  obtain ⟨parsed, read, derived, _⟩ := govern_ok done
  simp [governedAction, parsed, read, derived, given, ok_bind, pure, Except.pure]

theorem firewallAllows_none : FirewallAllows node (.dict []) := by
  intro _ given
  cases given

/-- The endpoints that authorise without a policy check, in terms of one. -/
theorem authorises_iff (enforced : node.enforces = true) {result : Handler Served}
    (answers : ∀ answer, result = .ok answer →
      ∃ governed, govern node network tables.registry request scopeOf = .ok governed)
    (authorises : ∀ governed, govern node network tables.registry request scopeOf = .ok governed →
      ∃ answer, result = .ok answer ∧ Acts answer) :
    (∀ answer, result = .ok answer → Acts answer → ∃ action,
        governedAction node network tables request scopeOf (fun _ => .ok (.dict [])) = .ok action ∧
          Mediated node network request action) ↔
      ∀ governed, govern node network tables.registry request scopeOf = .ok governed →
        PolicyAllows node governed.ctx governed.scope (.dict []) := by
  constructor
  · intro mediates governed done
    obtain ⟨answer, same, acts⟩ := authorises governed done
    obtain ⟨action, derived, mediated⟩ := mediates _ same acts
    have asked : governedAction node network tables request scopeOf (fun _ => .ok (.dict [])) =
        .ok { ctx := governed.ctx, scope := governed.scope, args := .dict [] } := governedAction_eq done rfl
    rw [asked] at derived
    cases derived
    exact mediated.policy
  · intro allows answer same _
    obtain ⟨governed, done⟩ := answers answer same
    refine ⟨_, governedAction_eq done rfl, ?_⟩
    exact ⟨(govern_ok done).2.2.2 enforced, allows governed done, firewallAllows_none⟩

end Governed

/-! ### The endpoints -/

section Endpoints
variable [Host] [Packages] {node : Node} {network : Network} {tables : Tables} {request : HttpRequest}

theorem a2tCall_mediates (enforced : node.enforces = true) : Mediates node network tables request .a2tCall := by
  intro served done _
  simp only [handle, a2tCall, bind_eq_ok, attempt_eq_ok] at done
  obtain ⟨governed, governs, server, _, tool, _, _, _, given, read, _, allowed, args, readArgs, _, scanned, _⟩ := done
  refine ⟨{ ctx := governed.ctx, scope := governed.scope, args }, governedAction_eq governs readArgs, ?_⟩
  have policy : PolicyAllows node governed.ctx governed.scope (given.orElse (.dict [])) := policyCheck_ok.mp allowed
  -- an absent field is read as null for the policy and as no arguments for the firewall
  have same : given.orElse (.dict []) = args.orElse (.dict []) := by
    obtain ⟨members, body⟩ := get_dict read
    simp only [body, Json.get, Except.ok.injEq] at read readArgs
    cases found : Json.find? members "arguments" with
    | none =>
      rw [found] at read readArgs
      rw [← read, ← readArgs]
      rfl
    | some value =>
      rw [found] at read readArgs
      rw [← read, ← readArgs]
      rfl
  rw [same] at policy
  exact ⟨(govern_ok governs).2.2.2 enforced, policy, (argFirewall_ok enforced).mp scanned⟩

theorem t2tPipe_iff (enforced : node.enforces = true) :
    Mediates node network tables request .t2tPipe ↔ SkippedOpen node network tables request .t2tPipe := by
  apply authorises_iff enforced
  · intro answer done
    simp only [handle, t2tPipe, bind_eq_ok] at done
    obtain ⟨governed, governs, _⟩ := done
    exact ⟨governed, governs⟩
  · intro governed governs
    have derived := (govern_ok governs).2.2.1
    simp only [t2tScope, bind_eq_ok] at derived
    obtain ⟨_, read, _⟩ := derived
    obtain ⟨members, body⟩ := get_dict read
    simp only [handle, t2tPipe, governs, body, Json.get, ok_bind, attempt_ok]
    exact ⟨_, rfl, .inr (.inr rfl)⟩

theorem a2aDelegate_iff (enforced : node.enforces = true) :
    Mediates node network tables request .a2aDelegate ↔ SkippedOpen node network tables request .a2aDelegate := by
  apply authorises_iff enforced
  · intro answer done
    simp only [handle, a2aDelegate, bind_eq_ok] at done
    obtain ⟨governed, governs, _⟩ := done
    exact ⟨governed, governs⟩
  · intro governed governs
    have derived := (govern_ok governs).2.2.1
    simp only [a2aScope, bind_eq_ok] at derived
    obtain ⟨_, read, _⟩ := derived
    obtain ⟨members, body⟩ := get_dict read
    simp only [handle, a2aDelegate, governs, body, Json.get, ok_bind, attempt_ok]
    split
    · exact ⟨_, rfl, .inr (.inl rfl)⟩
    · split
      · exact ⟨_, rfl, .inr (.inl rfl)⟩
      · exact ⟨_, rfl, .inr (.inl rfl)⟩

theorem relayToPeer_sent {federation : Option Federation} {server tool args : Json} {ctx : Ctx} {served : Served}
    (done : relayToPeer node network federation server tool args ctx = .ok (some served)) :
    served.sent.isSome = true := by
  cases federation with
  | none => cases done
  | some federation =>
    simp only [relayToPeer, bind_eq_ok] at done
    obtain ⟨chosen, _, done⟩ := done
    split at done
    · cases done
    · split at done
      · cases done
      · simp only [bind_eq_ok] at done
        obtain ⟨ticket, _, done⟩ := done
        split at done
        · cases done
        · split at done
          · cases done
            rfl
          · cases done
            rfl

theorem routeMcp_sent {federation : Option Federation} {server tool args : Json} {ctx : Ctx} {credential : String}
    {served : Served} (done : routeMcp node network federation server tool args ctx credential = .ok served)
    (acts : Acts served) : served.sent.isSome = true := by
  simp only [routeMcp, bind_eq_ok] at done
  obtain ⟨url, _, done⟩ := done
  split at done
  · unfold fallback at done
    split at done
    · rw [map_eq_ok] at done
      obtain ⟨relayed, asked, rfl⟩ := done
      cases relayed with
      | none => exact acts.resolve_right (by rintro (said | said) <;> cases said)
      | some served => exact relayToPeer_sent asked
    · cases done
      exact acts.resolve_right (by rintro (said | said) <;> cases said)
  · cases done
    rfl

theorem toolRelay_iff :
    Mediates node network tables request .toolRelay ↔ SkippedOpen node network tables request .toolRelay := by
  constructor
  · intro mediates relay admitted ⟨served, routed, sent⟩
    have done : handle node network tables request .toolRelay = .ok served := by
      simp [handle, toolRelay, admitted, ok_bind, routed]
    obtain ⟨action, asked, mediated⟩ := mediates served done (.inl sent)
    simp only [actionOf, admitted] at asked
    cases asked
    exact mediated
  · intro opened served done acts
    simp only [handle, toolRelay, bind_eq_ok] at done
    obtain ⟨relay, admitted, routed⟩ := done
    refine ⟨relay.action, ?_, ?_⟩
    · simp only [actionOf, admitted]
      rfl
    · exact opened relay admitted ⟨served, routed, routeMcp_sent routed acts⟩

/-- In a gateway that enforces, an endpoint mediates a request exactly when the
gates it leaves out would be open for it, or its own checks refuse it. The
endpoint for tool calls leaves none out. -/
theorem mediates_iff (enforced : node.enforces = true) (endpoint : Endpoint) :
    Mediates node network tables request endpoint ↔ SkippedOpen node network tables request endpoint := by
  cases endpoint with
  | a2tCall => exact iff_of_true (a2tCall_mediates enforced) trivial
  | a2aDelegate => exact a2aDelegate_iff enforced
  | t2tPipe => exact t2tPipe_iff enforced
  | toolRelay => exact toolRelay_iff

end Endpoints

/-! ### A pipe past the policy -/

section Pipe

local instance pipeHost : Host :=
  asciiHost [("m", .dict [("notAfter", .int 5000), ("mandateScope", .list [.str "t2t:*"])])]

/-- No hash and no account is asked for here. -/
local instance pipePackages : Packages where
  keccak := id
  encode := fun _ => raise (.package "ValidationError") ""
  recover := fun _ _ => raise (.package "BadSignature") ""
  sign := fun _ _ => raise (.package "ValidationError") ""

/-- `anyone MUST NOT t2t:* [costly]` -/
def noPipes : Language.Policy where
  name := "policy"
  version := "1"
  rules := [{ id := "r1", subject := "*", action := "t2t:*", effect := Language.Effect.deny, reversibility := .costly }]

def openNode : Node where
  limits := false

def governedNode : Node := { openNode with policy := some noPipes }

def quiet : Network where
  now := 1000
  limiter := fun _ => { allowed := true }
  verifier := fun _ _ => raise (.package "ConnectError") ""
  resolve := fun _ => raise (.package "EgressDenied") ""
  postUpstream := fun _ _ _ => raise (.package "ConnectError") ""
  postPeer := fun _ _ => raise (.package "ConnectError") ""
  getRecord := fun _ _ => raise (.package "ConnectError") ""
  certificate := fun _ _ => raise (.package "ConnectError") ""
  choose := fun _ => 0
  nonce := ""

def oneSession : Tables where
  registry := Function.update (fun _ => none) (.str "0xab") (some
    { agentId := 7, footprint := .str "0xab", mandateRoot := .str "0x00", rails := 3, notAfter := 5000,
      tier := "A2xH2" })

def pipeRequest : HttpRequest where
  headers := [("xcp-agent-identity", "7;8453;0xab"), ("xcp-mandate", "m")]
  bodyBytes := 30
  body := .ok (.dict [("src", .str "crm"), ("dst", .str "mail")])

theorem mediates_openNode : Mediates openNode quiet oneSession pipeRequest .t2tPipe := by
  refine (mediates_iff ?_ .t2tPipe).mpr ?_
  · rfl
  · intro governed _ policy loaded
    cases loaded

/-- The pipe is authorised although the policy forbids all of them. -/
theorem pipe_past_policy : ¬ Mediates governedNode quiet oneSession pipeRequest .t2tPipe := by
  intro mediates
  have chained : (handle governedNode quiet oneSession pipeRequest .t2tPipe).toOption.any
      (fun served => served.response.body.get "chained" = .ok (.bool true)) = true := by
    decide +kernel
  have forbidden : (actionOf governedNode quiet oneSession pipeRequest .t2tPipe).toOption.any (fun action =>
      (policyRequest action.ctx action.scope (action.args.orElse (.dict []))).toOption.any
        (fun asked => (Language.evaluate noPipes asked).allowed)) = false := by
    decide +kernel
  obtain ⟨answer, served, chained⟩ := ok_of_any chained
  obtain ⟨action, asked, mediated⟩ := mediates answer served (.inr (.inr (of_decide_eq_true chained)))
  obtain ⟨request, made, allowed⟩ := mediated.policy noPipes rfl
  simp [asked, made, allowed, Except.toOption] at forbidden

end Pipe

end Xcp.Gateway
