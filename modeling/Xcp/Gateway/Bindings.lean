import Mathlib.Data.Rat.Floor
import Xcp.Gateway.Session
import Xcp.Protocol.Version
import Xcp.Library.Digits
import Xcp.Library.Eth
import Xcp.Library.Sha256
import Xcp.Library.Transition

/-! The session tables of the two gateways in JavaScript. A handler that throws has
no result, and the process ends with it. -/

namespace Xcp.Node
open JavaScript
open Gateway (HttpRequest LimitDecision LimitQuery)
open Python (Json dropStart startsWith)

/-- What a server consults while it handles one request: the clock and its limiter. -/
structure World where
  now : Rat
  meter : LimitQuery → LimitDecision

structure Answer where
  body : Value
  status : Nat := 200

/-- Any other request looks its session up and writes none. -/
inductive Request where
  | sessionOpen (request : HttpRequest)
  | sessionClose (request : HttpRequest)
  | adminRevoke (request : HttpRequest)
  | governed (request : HttpRequest)

/-- The HTTP server of Node takes optional white space from the ends of a field, which
is empty where it is absent. -/
def header (request : HttpRequest) (name : String) : String := Protocol.stripOws (request.header name)

/-- `JSON.parse(body || "{}")`, with integers as they are written. It throws for a
body over the limit too. -/
def parseBody (cap : Nat) (request : HttpRequest) : Option Json :=
  if cap < request.bodyBytes then none else request.bodyOrEmpty.toOption

/-- `/^\d+$/.test(text)`. -/
def isDecimal (text : String) : Bool := Digits.Decimal text.toList

def isLowerHex (letter : Char) : Bool := Digits.isAsciiDigit letter || (97 ≤ letter.toNat && letter.toNat ≤ 102)

def isHex (letter : Char) : Bool := isLowerHex letter || (65 ≤ letter.toNat && letter.toNat ≤ 70)

/-- `0x` and 64 letters, which the pattern wants to be hexadecimal digits. -/
def isFootprint (digit : Char → Bool) (text : String) : Bool :=
  match text.toList with
  | '0' :: 'x' :: letters => letters.length = 64 && letters.all digit
  | _ => false

def failure (text : String) (status : Nat) : Answer := { body := .object [("error", .string text)], status }

/-- `createHash("sha256").update(text).digest("hex").slice(0, 32)`. -/
def sessionId (text : String) : String :=
  String.ofList ((Python.toHex (Sha256.sha256 (Eth.utf8 text))).toList.take 32)

/-- `body.footprint || ""` as a text. -/
def footprintOf [Engine] (body : Json) : Option String := do
  let footprint ← (ofJson body).get "footprint"
  (footprint.orElse (.string "")).toText

variable [Unicode]

/-- No token means that nobody is the administrator. -/
def adminOk (adminToken : String) (request : HttpRequest) : Bool :=
  let hdr := header request "authorization"
  let presented := if startsWith (Unicode.toLowerCase hdr) "bearer " then dropStart hdr 7 else ""
  adminToken ≠ "" && presented = adminToken

end Xcp.Node

namespace Xcp.GatewayTs
open JavaScript
open Gateway (HttpRequest LimitQuery)
open Node (Answer Request World failure footprintOf isDecimal isFootprint isLowerHex parseBody)
open Python (Double splitOn)

/-! ### Session registry -/

structure Binding where
  agentId : Double
  chainId : Double
  footprint : String
  tier : Value
  mandateRoot : Value
  rails : Value
  notAfter : Int
  revoked : Bool := false

/-- What `bind` is called with. -/
structure Opening where
  agentId : Double
  chainId : Double
  footprint : String
  tier : Value
  mandateRoot : Value
  rails : Value

/-- By footprint, in small letters. -/
abbrev Bindings := String → Option Binding

def zeroRoot : String := "0x" ++ String.ofList (List.replicate 64 '0')

def Opening.binding (opening : Opening) (now : Rat) : Binding where
  agentId := opening.agentId
  chainId := opening.chainId
  footprint := opening.footprint
  tier := opening.tier.orElse (.string "A0xH0")
  mandateRoot := opening.mandateRoot.orElse (.string zeroRoot)
  rails := opening.rails.coalesce (.number (.finite 3))
  notAfter := ⌊now⌋ + 7 * 86400

variable [Unicode]

def bind (bindings : Bindings) (now : Rat) (opening : Opening) : Bindings :=
  Function.update bindings (Unicode.toLowerCase opening.footprint) (some (opening.binding now))

def verify (bindings : Bindings) (now : Rat) (footprint : String) : Option Binding :=
  match bindings (Unicode.toLowerCase footprint) with
  | none => none
  | some binding =>
    if binding.revoked then none
    else if binding.notAfter < ⌊now⌋ then none
    else some binding

/-- `bindings.get(key)`, and `revoked = true` where there is one. -/
def revoke (bindings : Bindings) (key : String) : Bindings :=
  Function.update bindings key ((bindings key).map (fun binding => { binding with revoked := true }))

/-! ### Identity -/

variable [Engine]

structure Identity where
  agentId : Double
  footprint : String
  binding : Binding

/-- The fields are not trimmed, and the footprint is in small letters. -/
def parseIdentity (bindings : Bindings) (now : Rat) (header : String) : Except String Identity :=
  if header = "" then .error "no identity header"
  else
    match splitOn header ';' with
    | [agentId, chainId, footprint] =>
      if !isDecimal agentId || !isDecimal chainId then .error "malformed identity header"
      else if !isFootprint isLowerHex footprint then .error "malformed certificate footprint"
      else
        match verify bindings now footprint with
        | none => .error "footprint is not bound to any session"
        | some binding =>
          if !strictlyEqual (numberOfText agentId) binding.agentId then .error "agent does not match the bound session"
          else .ok { agentId := numberOfText agentId, footprint, binding }
    | _ => .error "malformed identity header"

/-! ### Endpoints -/

def bodyCap : Nat := 64 * 1024

def openQuery (request : HttpRequest) : LimitQuery where
  agentKey := "|" ++ if request.client = "" then "anon" else request.client
  tier := ""
  method := "tools/list"
  scope := ""
  bodyBytes := 0

/-- An answer at once, or what the session is opened with. -/
def opening (world : World) (request : HttpRequest) : Option (Except Answer Opening) :=
  let metered := world.meter (openQuery request)
  if !metered.allowed then
    some (.error { body := .object [("error", .string s!"XCP rate limit: {metered.reason}"), ("limit", .string metered.limit)]
                   status := 429 })
  else
    match parseBody bodyCap request with
    | none => some (.error (failure "invalid request body" 400))
    | some document => do
      let body := ofJson document
      let footprint ← body.get "footprint"
      let agentId ← body.get "agentId"
      if !footprint.truthy || !agentId.truthy then
        return .error (failure "agentId and footprint are required" 400)
      else do
        let number ← agentId.toNumber
        let chainId ← body.get "chainId"
        let chainId ← (chainId.orElse (.number (.finite 8453))).toNumber
        let footprint ← footprint.toText
        let tier ← body.get "tier"
        let mandateRoot ← body.get "mandateRoot"
        let rails ← body.get "rails"
        return .ok { agentId := number, chainId, footprint, tier, mandateRoot, rails }

def opened (binding : Binding) : Answer where
  body := .object [("sessionId", .string (Node.sessionId binding.footprint)), ("agentId", .number binding.agentId),
    ("mandateRoot", binding.mandateRoot), ("rails", binding.rails), ("tier", binding.tier),
    ("notAfter", .number (.finite binding.notAfter))]

def sessionOpen (world : World) (bindings : Bindings) (request : HttpRequest) : Option (Bindings × Answer) := do
  match ← opening world request with
  | .error answer => return (bindings, answer)
  | .ok opening => return (bind bindings world.now opening, opened (opening.binding world.now))

/-- The footprint that a request names in its body, of which a malformed one is empty. -/
def namedKey (request : HttpRequest) : Option String :=
  Unicode.toLowerCase <$> footprintOf ((parseBody bodyCap request).getD (.dict []))

def sessionClose (bindings : Bindings) (request : HttpRequest) : Option (Bindings × Answer) := do
  let key ← namedKey request
  return (revoke bindings key, { body := .object [("closed", .bool true)] })

def adminOk (adminToken : String) (request : HttpRequest) : Bool := Node.adminOk adminToken request

def adminRevoke (adminToken : String) (bindings : Bindings) (request : HttpRequest) : Option (Bindings × Answer) :=
  if !adminOk adminToken request then
    some (bindings, failure
      "administrative endpoints require a bearer token; set XCP_ADMIN_TOKEN on the gateway" 401)
  else do
    let key ← namedKey request
    return (revoke bindings key, { body := .object [("revoked", .bool (bindings key).isSome)] })

def unsupported (reason : String) : Answer where
  body := .object [("error", .string s!"XCP version negotiation failed: {reason}"),
    ("supported", .array (protocolVersions.map .string))]
  status := 400

/-- Version negotiation runs before anything else. -/
def negotiated (bindings : Bindings) (request : HttpRequest) (handler : Option (Bindings × Answer)) :
    Option (Bindings × Answer) :=
  match negotiate (Node.header request "xcp-accept-versions") with
  | .error reason => some (bindings, unsupported reason)
  | .ok _ => handler

/-! ### Runs -/

/-- The table after a request, as long as the process is there. -/
def handle (adminToken : String) (bindings : Bindings) : World × Request → Option Bindings
  | (world, .sessionOpen request) => Prod.fst <$> negotiated bindings request (sessionOpen world bindings request)
  | (_, .sessionClose request) => Prod.fst <$> negotiated bindings request (sessionClose bindings request)
  | (_, .adminRevoke request) => Prod.fst <$> negotiated bindings request (adminRevoke adminToken bindings request)
  | (_, .governed _) => some bindings

def step (adminToken : String) (process : Option Bindings) (event : World × Request) : Option Bindings :=
  process.bind (fun bindings => handle adminToken bindings event)

end Xcp.GatewayTs

namespace Xcp.ImplNode
open JavaScript
open Gateway (HttpRequest LimitQuery)
open Node (Answer Request World failure footprintOf isDecimal isFootprint isHex isLowerHex parseBody)
open Python (Double splitOn)

/-! ### Sessions -/

structure Session where
  agentId : Double
  tier : String
  notAfter : Rat

/-- By footprint, in small letters. -/
abbrev Sessions := String → Option Session

structure Identity where
  agentId : Double
  tier : String
  footprint : String

variable [Unicode] [Engine]

/-- The second field is not looked at, and the first one is not compared. -/
def parseIdentity (sessions : Sessions) (now : Rat) (header : String) : Except String Identity :=
  if header = "" then .error "no identity header"
  else
    match splitOn header ';' with
    | [agentId, _, footprint] =>
      if !isDecimal agentId || !isFootprint isHex footprint then .error "malformed identity header"
      else
        match sessions (Unicode.toLowerCase footprint) with
        | none => .error "footprint is not bound to any session"
        | some session =>
          if session.notAfter < now then .error "session has expired"
          else .ok { agentId := numberOfText agentId, tier := session.tier, footprint }
    | _ => .error "malformed identity header"

/-! ### Endpoints -/

/-- Requests that are longer are cut off. -/
def bodyCap : Nat := 24 * 1024 * 1024

/-- What is no document counts as the empty one. -/
def body (request : HttpRequest) : Python.Json := (parseBody bodyCap request).getD (.dict [])

def openQuery (request : HttpRequest) : LimitQuery where
  agentKey := "anon:" ++ if request.client = "" then "anon" else request.client
  tier := ""
  method := "tools/list"
  scope := ""
  bodyBytes := request.bodyBytes

/-- An answer at once, or the session and the footprint it is kept under. -/
def opening (world : World) (request : HttpRequest) : Option (Except Answer (String × Session × Answer)) :=
  let metered := world.meter (openQuery request)
  if !metered.allowed then some (.error (failure s!"XCP rate limit: {metered.reason}" 429))
  else do
    let footprint ← footprintOf (body request)
    let key := Unicode.toLowerCase footprint
    if !isFootprint isLowerHex key then return .error (failure "a 32-byte footprint is required" 400)
    else do
      let document := ofJson (body request)
      let agentId ← document.get "agentId"
      let agentId ← (agentId.orElse (.number (.finite 0))).toNumber
      let tier ← document.get "tier"
      let claimed := tier.orElse (.string "A0xH0")
      let text ← claimed.toText
      return .ok (key, { agentId, tier := text, notAfter := world.now + 7 * 86400 },
        { body := .object [("sessionId", .string (Node.sessionId key)), ("tier", claimed)] })

def sessionOpen (world : World) (sessions : Sessions) (request : HttpRequest) : Option (Sessions × Answer) := do
  match ← opening world request with
  | .error answer => return (sessions, answer)
  | .ok (key, session, answer) => return (Function.update sessions key (some session), answer)

def adminOk (adminToken : String) (request : HttpRequest) : Bool := Node.adminOk adminToken request

def adminRevoke (adminToken : String) (sessions : Sessions) (request : HttpRequest) : Option (Sessions × Answer) :=
  if !adminOk adminToken request then
    some (sessions, failure "administrative endpoints require a bearer token" 401)
  else do
    let footprint ← footprintOf (body request)
    let named ← (ofJson (body request)).get "footprint"
    let key := Unicode.toLowerCase footprint
    return (Function.update sessions key none,
      { body := .object [("revoked", .bool (sessions key).isSome), ("footprint", named)] })

def unsupported : Answer where
  body := .object [("error", .string "XCP version negotiation failed"), ("supported", .array (protocolVersions.map .string))]
  status := 400

/-- A request that is cut off has no answer. -/
def negotiated (sessions : Sessions) (request : HttpRequest) (handler : Option (Sessions × Answer)) :
    Option (Sessions × Option Answer) :=
  if bodyCap < request.bodyBytes then some (sessions, none)
  else match negotiate (Node.header request "xcp-accept-versions") with
  | none => some (sessions, some unsupported)
  | some _ => handler.map (fun (sessions, answer) => (sessions, some answer))

/-! ### Runs -/

/-- The table after a request, as long as the process is there. There is no endpoint
that closes a session. -/
def handle (adminToken : String) (sessions : Sessions) : World × Request → Option Sessions
  | (world, .sessionOpen request) => Prod.fst <$> negotiated sessions request (sessionOpen world sessions request)
  | (_, .adminRevoke request) => Prod.fst <$> negotiated sessions request (adminRevoke adminToken sessions request)
  | (_, .sessionClose _) | (_, .governed _) => some sessions

def step (adminToken : String) (process : Option Sessions) (event : World × Request) : Option Sessions :=
  process.bind (fun sessions => handle adminToken sessions event)

end Xcp.ImplNode
