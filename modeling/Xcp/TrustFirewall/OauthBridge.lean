import Xcp.Library.Dict
import Xcp.Library.PythonText

/-! Mandates that are derived from a grant of OAuth. The claims of the grant were
validated elsewhere. `now` is the instant that the caller gave, or else that of
the clock. -/

namespace Xcp.OauthBridge
open Checked Python

def grantError {α : Type} (text : String) : Raises α := raise (.package "GrantError") text

structure Grant where
  sub : String := ""
  scope : String := ""
  exp : Int := 0
  clientId : String := ""
  act : Json := .null

/-- The scopes of a grant are delimited by spaces. -/
def Grant.scopes (grant : Grant) : List String := (splitOn grant.scope ' ').filter (· ≠ "")

/-- The actors nested in a claim, the outermost first, of which so many are looked at. -/
def actors [Host] (node : Json) : Nat → List String
  | 0 => []
  | count + 1 =>
    match node with
    | .dict members =>
      let sub := field members "sub"
      let inner := actors (field members "act") count
      if sub.truthy then sub.toStr :: inner else inner
    | _ => []

def Grant.actorChain [Host] (grant : Grant) : List String := actors grant.act 16

/-! ### Scopes -/

abbrev ScopeMap := Dict String (List String)

def defaultScopeMap : ScopeMap where
  entries :=
    [("read", ["mcp:tools/search", "mcp:tools/fetch", "mcp:resources/read"]),
     ("write", ["mcp:tools/create", "mcp:tools/update"]),
     ("tools", ["mcp:tools/*"]),
     ("payments", ["pay:x402/*"])]
  distinct := by decide

def passthroughPrefixes : List String := ["mcp:", "pay:", "a2a:"]

def passesThrough (prefixes : List String) (scope : String) : Bool := prefixes.any (startsWith scope)

/-- `scope_map or DEFAULT_SCOPE_MAP`: an empty map counts as none. -/
def mapInForce (scopeMap : Option ScopeMap) : ScopeMap :=
  match scopeMap with
  | some map => if map.entries = [] then defaultScopeMap else map
  | none => defaultScopeMap

/-- What a scope of the grant is translated to: nothing, where it is not in the map
and is no XCP scope already. -/
def conveys (map : ScopeMap) (prefixes : List String) (scope : String) : List String :=
  match map.get? scope with
  | some images => images
  | none => if passesThrough prefixes scope then [scope] else []

/-- Each text once, where it is first. -/
def distinctTexts (seen : List String) : List String → List String
  | [] => []
  | text :: rest =>
    if text ∈ seen then distinctTexts seen rest else text :: distinctTexts (text :: seen) rest

def mapScopes (grant : Grant) (scopeMap : Option ScopeMap) (prefixes : List String := passthroughPrefixes) : List String :=
  distinctTexts [] (grant.scopes.flatMap (conveys (mapInForce scopeMap) prefixes))

theorem mem_distinctTexts {seen texts : List String} {text : String} :
    text ∈ distinctTexts seen texts ↔ text ∈ texts ∧ text ∉ seen := by
  induction texts generalizing seen with
  | nil => simp [distinctTexts]
  | cons first rest ih =>
    rw [distinctTexts]
    split
    next known =>
      rw [ih, List.mem_cons]
      constructor
      · intro ⟨member, fresh⟩
        exact ⟨.inr member, fresh⟩
      · rintro ⟨rfl | member, fresh⟩
        · exact absurd known fresh
        · exact ⟨member, fresh⟩
    next fresh =>
      rw [List.mem_cons, ih, List.mem_cons, List.mem_cons]
      constructor
      · rintro (rfl | ⟨member, other⟩)
        · exact ⟨.inl rfl, fresh⟩
        · exact ⟨.inr member, fun known => other (.inr known)⟩
      · rintro ⟨rfl | member, other⟩
        · exact .inl rfl
        · by_cases same : text = first
          · exact .inl same
          · exact .inr ⟨member, fun known => known.elim same other⟩

theorem mem_mapScopes {grant : Grant} {scopeMap : Option ScopeMap} {prefixes : List String} {scope : String} :
    scope ∈ mapScopes grant scopeMap prefixes ↔
      ∃ granted ∈ grant.scopes, scope ∈ conveys (mapInForce scopeMap) prefixes granted := by
  simp [mapScopes, mem_distinctTexts]

/-! ### Mandates -/

structure Mandate where
  mandateId : String
  principal : String
  mandateScope : List String
  notAfter : Int
  derivedFrom : String := "oauth2"
  delegationPath : List String
  proof : List String := []
  signature : String := ""
deriving DecidableEq, Repr

def Mandate.toDict (mandate : Mandate) : Json :=
  .dict [("mandateId", .str mandate.mandateId), ("principal", .str mandate.principal),
    ("mandateScope", .list (mandate.mandateScope.map Json.str)), ("notAfter", .int mandate.notAfter),
    ("derivedFrom", .str mandate.derivedFrom), ("delegationPath", .list (mandate.delegationPath.map Json.str)),
    ("proof", .list (mandate.proof.map Json.str)), ("signature", .str mandate.signature)]

/-- What is requested of what is allowed: an intersection, never a union. -/
def wantedScopes (requestedScope : Option (List String)) (allowed : List String) : List String :=
  match requestedScope with
  | some requested => allowed.filter requested.contains
  | none => allowed

theorem mem_wantedScopes {requestedScope : Option (List String)} {allowed : List String} {scope : String} :
    scope ∈ wantedScopes requestedScope allowed ↔
      scope ∈ allowed ∧ ∀ requested, requestedScope = some requested → scope ∈ requested := by
  cases requestedScope <;> simp [wantedScopes]

variable [Host]

/-- A mandate from a validated grant. What is requested is intersected with what
the grant conveys, and the mandate does not outlive the grant. -/
def deriveMandate (grant : Grant) (requestedScope : Option (List String)) (maxTtl now : Int) (scopeMap : Option ScopeMap) :
    Raises Mandate := do
  let allowed := mapScopes grant scopeMap
  let wanted := wantedScopes requestedScope allowed
  if grant.sub = "" then grantError "grant has no subject; a mandate must name a principal"
  else if grant.exp ≠ 0 ∧ grant.exp ≤ now then grantError "grant has expired"
  else if allowed = [] then
    grantError ("grant conveys no XCP-recognised scope; refusing to issue a mandate " ++
      "that would permit nothing while appearing to permit something")
  else if wanted = [] then grantError "requested scope is disjoint from the grant"
  else
    let client := if grant.clientId = "" then "client" else grant.clientId
    return {
      mandateId := s!"oauth:{client}:{now}"
      principal := grant.sub
      mandateScope := wanted
      notAfter := if grant.exp = 0 then now + maxTtl else min (now + maxTtl) grant.exp
      delegationPath := grant.actorChain }

/-- What of a mandate the grant does not convey. -/
def scopeProblems (allowed : List String) (scopes : List Json) : Raises (List String) := do
  let problems ← scopes.mapM (fun scope => do
    let _ ← scope.key
    return problemIf (!(allowed.map Json.str).contains scope)
      s!"mandate scope {Host.repr scope} is not conveyed by the grant")
  return problems.flatten

/-- Where a mandate, which may be anyone's, exceeds its grant. -/
def widens (grant : Grant) (mandate : Json) (scopeMap : Option ScopeMap) : Raises (List String) := do
  let scopes ← mandate.get "mandateScope"
  let scopes ← (scopes.orElse (.list [])).toList
  let beyond ← scopeProblems (mapScopes grant scopeMap) scopes
  let principal ← mandate.get "principal"
  let notAfter ← mandate.get "notAfter"
  let outlives ← andThen (grant.exp ≠ 0) (do
    let notAfter ← (notAfter.orElse (.int 0)).toInt
    return grant.exp < notAfter)
  return beyond ++
    problemIf (principal.truthy && grant.sub ≠ "" && !principal.same (.str grant.sub))
      "mandate names a principal the grant does not" ++
    problemIf outlives "mandate outlives the grant it derives from"

end Xcp.OauthBridge
