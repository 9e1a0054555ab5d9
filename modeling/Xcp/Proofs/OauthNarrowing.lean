import Xcp.TrustFirewall.OauthBridge

/-! What a mandate that was derived from a grant may do. An empty scope map is
replaced by the default one. -/

namespace Xcp.OauthBridge
open Checked Python

section Narrowing
variable [Host]

/-- What derivation has established about a mandate. -/
structure Derived (grant : Grant) (requestedScope : Option (List String)) (maxTtl now : Int) (scopeMap : Option ScopeMap)
    (mandate : Mandate) : Prop where
  named : grant.sub ≠ ""
  unexpired : ¬ (grant.exp ≠ 0 ∧ grant.exp ≤ now)
  principal : mandate.principal = grant.sub
  scopes : ∀ scope, scope ∈ mandate.mandateScope ↔
    scope ∈ mapScopes grant scopeMap ∧ ∀ requested, requestedScope = some requested → scope ∈ requested
  notAfter : mandate.notAfter = if grant.exp = 0 then now + maxTtl else min (now + maxTtl) grant.exp

theorem deriveMandate_derived {grant : Grant} {requestedScope : Option (List String)} {maxTtl now : Int}
    {scopeMap : Option ScopeMap} {mandate : Mandate}
    (derived : deriveMandate grant requestedScope maxTtl now scopeMap = .ok mandate) :
    Derived grant requestedScope maxTtl now scopeMap mandate := by
  simp only [deriveMandate, grantError, raise] at derived
  split at derived
  · cases derived
  next named =>
    split at derived
    · cases derived
    next unexpired =>
      split at derived
      · cases derived
      · split at derived
        · cases derived
        · obtain rfl := Except.ok.inj derived
          exact { named, unexpired, principal := rfl, scopes := fun _ => mem_wantedScopes, notAfter := rfl }

/-- A mandate is derived for whoever names a subject, is not expired and conveys
something that is requested. -/
theorem deriveMandate_ok {grant : Grant} {requestedScope : Option (List String)} (maxTtl : Int) {now : Int}
    {scopeMap : Option ScopeMap} {scope : String} (named : grant.sub ≠ "") (unexpired : ¬ (grant.exp ≠ 0 ∧ grant.exp ≤ now))
    (conveyed : scope ∈ mapScopes grant scopeMap) (asked : ∀ requested, requestedScope = some requested → scope ∈ requested) :
    ∃ mandate, deriveMandate grant requestedScope maxTtl now scopeMap = .ok mandate := by
  have some := List.ne_nil_of_mem conveyed
  have wanted := List.ne_nil_of_mem (mem_wantedScopes.mpr ⟨conveyed, asked⟩)
  simp only [deriveMandate, if_neg named, if_neg unexpired, if_neg some]
  exact ⟨_, if_neg wanted⟩

/-! ### The supplied map -/

/-- The map that the caller supplied, or the default one where there is none. -/
def suppliedMap (scopeMap : Option ScopeMap) : ScopeMap := scopeMap.getD defaultScopeMap

/-- A scope that the grant conveys under the supplied map: the image of one of its
scopes, or a pass-through scope of the grant that has no entry. -/
def Conveyed (grant : Grant) (map : ScopeMap) (scope : String) : Prop :=
  ∃ granted ∈ grant.scopes, (∃ images, map.get? granted = some images ∧ scope ∈ images) ∨
    map.get? granted = none ∧ passesThrough passthroughPrefixes granted = true ∧ scope = granted

omit [Host] in
theorem mem_conveys {map : ScopeMap} {prefixes : List String} {granted scope : String} :
    scope ∈ conveys map prefixes granted ↔ (∃ images, map.get? granted = some images ∧ scope ∈ images) ∨
      map.get? granted = none ∧ passesThrough prefixes granted = true ∧ scope = granted := by
  unfold conveys
  cases map.get? granted with
  | some images => simp
  | none =>
    by_cases passes : passesThrough prefixes granted = true <;> simp [passes]

/-- A mandate that is no wider than its grant. -/
structure Narrower (grant : Grant) (requestedScope : Option (List String)) (scopeMap : Option ScopeMap) (mandate : Mandate) :
    Prop where
  conveyed : ∀ scope ∈ mandate.mandateScope, Conveyed grant (suppliedMap scopeMap) scope
  asked : ∀ requested, requestedScope = some requested → ∀ scope ∈ mandate.mandateScope, scope ∈ requested
  lifetime : grant.exp ≠ 0 → mandate.notAfter ≤ grant.exp

/-- The map is not the empty one, or nothing can be derived, or all that the default
map would add and is requested are scopes of the grant. -/
def Harmless (grant : Grant) (requestedScope : Option (List String)) (now : Int) (scopeMap : Option ScopeMap) : Prop :=
  (∃ map, scopeMap = some map ∧ map.entries = []) → grant.sub ≠ "" → ¬ (grant.exp ≠ 0 ∧ grant.exp ≤ now) →
    ∀ granted ∈ grant.scopes, ∀ images, defaultScopeMap.get? granted = some images → ∀ image ∈ images,
      (∀ requested, requestedScope = some requested → image ∈ requested) → image ∈ grant.scopes

omit [Host] in
theorem mapInForce_eq (scopeMap : Option ScopeMap) :
    mapInForce scopeMap = suppliedMap scopeMap ∨
      (∃ map, scopeMap = some map ∧ map.entries = []) ∧ mapInForce scopeMap = defaultScopeMap := by
  cases scopeMap with
  | none => exact .inl rfl
  | some map =>
    by_cases empty : map.entries = []
    · exact .inr ⟨⟨map, rfl, empty⟩, if_pos empty⟩
    · exact .inl (if_neg empty)

omit [Host] in
theorem suppliedMap_get?_of_empty {scopeMap : Option ScopeMap} (empty : ∃ map, scopeMap = some map ∧ map.entries = [])
    (scope : String) : (suppliedMap scopeMap).get? scope = none := by
  obtain ⟨map, rfl, empty⟩ := empty
  rw [suppliedMap, Option.getD_some, Dict.get?, empty, Dict.look]

omit [Host] in
/-- All that the default map translates to are XCP scopes. -/
theorem default_passesThrough {granted image : String} {images : List String}
    (found : defaultScopeMap.get? granted = some images) (member : image ∈ images) :
    passesThrough passthroughPrefixes image = true := by
  have every : ∀ entry ∈ defaultScopeMap.entries, ∀ image ∈ entry.2, passesThrough passthroughPrefixes image = true := by
    decide
  exact every (granted, images) (Dict.mem_entries.mpr found) image member

/-- Derivation narrows exactly where no empty map lets the default one add to the
grant. -/
theorem deriveMandate_narrower_iff (grant : Grant) (requestedScope : Option (List String)) (maxTtl now : Int)
    (scopeMap : Option ScopeMap) :
    (∀ mandate, deriveMandate grant requestedScope maxTtl now scopeMap = .ok mandate →
      Narrower grant requestedScope scopeMap mandate) ↔ Harmless grant requestedScope now scopeMap := by
  constructor
  · intro narrower empty named unexpired granted member images found image inside asked
    have inForce : mapInForce scopeMap = defaultScopeMap := by
      obtain ⟨map, rfl, empty⟩ := empty
      exact if_pos empty
    have conveyed : image ∈ mapScopes grant scopeMap := by
      refine mem_mapScopes.mpr ⟨granted, member, mem_conveys.mpr (.inl ⟨images, ?_, inside⟩)⟩
      rw [inForce, found]
    obtain ⟨mandate, derived⟩ := deriveMandate_ok maxTtl named unexpired conveyed asked
    have held := ((deriveMandate_derived derived).scopes image).mpr ⟨conveyed, asked⟩
    obtain ⟨other, source, ⟨_, mapped, _⟩ | ⟨_, _, rfl⟩⟩ := (narrower mandate derived).conveyed image held
    · rw [suppliedMap_get?_of_empty empty] at mapped
      cases mapped
    · exact source
  · intro harmless mandate derived
    have made := deriveMandate_derived derived
    refine { conveyed := ?_, asked := ?_, lifetime := ?_ }
    · intro scope held
      obtain ⟨conveyed, asked⟩ := (made.scopes scope).mp held
      obtain ⟨granted, member, inside⟩ := mem_mapScopes.mp conveyed
      obtain same | ⟨empty, same⟩ := mapInForce_eq scopeMap
      · exact ⟨granted, member, mem_conveys.mp (same ▸ inside)⟩
      · rw [same] at inside
        have unmapped := suppliedMap_get?_of_empty empty
        obtain ⟨images, found, image⟩ | ⟨_, passes, rfl⟩ := mem_conveys.mp inside
        · have source := harmless empty made.named made.unexpired granted member images found scope image asked
          exact ⟨scope, source, .inr ⟨unmapped scope, default_passesThrough found image, rfl⟩⟩
        · exact ⟨scope, member, .inr ⟨unmapped scope, passes, rfl⟩⟩
    · intro requested given scope held
      exact ((made.scopes scope).mp held).2 requested given
    · intro expires
      rw [made.notAfter, if_neg expires]
      exact min_le_right ..

/-! ### The stand-alone check -/

theorem scopeProblems_nil {allowed scopes : List String} (subset : ∀ scope ∈ scopes, scope ∈ allowed) :
    scopeProblems allowed (scopes.map Json.str) = .ok [] := by
  have none : (scopes.map Json.str).mapM (fun scope => do
      let _ ← scope.key
      return problemIf (!(allowed.map Json.str).contains scope)
        s!"mandate scope {Host.repr scope} is not conveyed by the grant") =
      (.ok (scopes.map (fun _ => [])) : Raises (List (List String))) := by
    rw [mapM_eq_ok, List.forall₂_map_left_iff, List.forall₂_map_right_iff, List.forall₂_same]
    intro scope member
    have known : (allowed.map Json.str).contains (.str scope) = true := by
      simpa using subset scope member
    rw [Json.key_str, ok_bind, known]
    rfl
  rw [scopeProblems, none, ok_bind, pure_eq_ok]
  simp

/-- The stand-alone check finds nothing in what was derived. -/
theorem widens_derived {grant : Grant} {requestedScope : Option (List String)} {maxTtl now : Int} {scopeMap : Option ScopeMap}
    {mandate : Mandate} (derived : deriveMandate grant requestedScope maxTtl now scopeMap = .ok mandate) :
    widens grant mandate.toDict scopeMap = .ok [] := by
  have made := deriveMandate_derived derived
  have scopes : (Json.list (mandate.mandateScope.map Json.str)).orElse (.list []) =
      .list (mandate.mandateScope.map Json.str) := by
    cases mandate.mandateScope <;> rfl
  have beyond := scopeProblems_nil (fun scope held => ((made.scopes scope).mp held).1)
  have sub : (Json.str grant.sub).same (.str grant.sub) = true := (Json.same_str ..).mpr rfl
  have number : ((Json.int mandate.notAfter).orElse (.int 0)).toInt = .ok mandate.notAfter := by
    by_cases zero : mandate.notAfter = 0
    · rw [zero]
      rfl
    · simp [Json.orElse, Json.truthy, zero, Json.toInt]
  have lasts : andThen (grant.exp ≠ 0) (.ok (decide (grant.exp < mandate.notAfter)) : Raises Bool) = .ok false := by
    rw [andThen_eq_false, decide_eq_true_eq, Except.ok.injEq, decide_eq_false_iff_not, not_lt, made.notAfter]
    intro expires
    rw [if_neg expires]
    exact min_le_right ..
  have held : mandate.toDict.get "mandateScope" = .ok (.list (mandate.mandateScope.map Json.str)) := rfl
  have principal : mandate.toDict.get "principal" = .ok (.str mandate.principal) := rfl
  have notAfter : mandate.toDict.get "notAfter" = .ok (.int mandate.notAfter) := rfl
  rw [widens, held, ok_bind, scopes, Json.toList, ok_bind, beyond, ok_bind, principal, ok_bind, notAfter, ok_bind, number]
  change (andThen (grant.exp ≠ 0) (.ok (decide (grant.exp < mandate.notAfter))) >>= _) = _
  rw [lasts, ok_bind, made.principal, sub]
  simp [problemIf]

end Narrowing

/-! ### An empty map -/

section Emptied

local instance emptiedHost : Host := asciiHost []

def readGrant : Grant where
  sub := "user@corp.example"
  scope := "read"
  exp := 2000
  clientId := "agent-42"

/-- Under a map without entries a grant to read lets its mandate search. -/
theorem empty_map_widens :
    ∃ mandate, deriveMandate readGrant none 600 1000 (some {}) = .ok mandate ∧ "mcp:tools/search" ∈ mandate.mandateScope ∧
      ¬ Narrower readGrant none (some {}) mandate := by
  have named : readGrant.sub ≠ "" := by decide
  have unexpired : ¬ (readGrant.exp ≠ 0 ∧ readGrant.exp ≤ 1000) := by decide
  have conveyed : "mcp:tools/search" ∈ mapScopes readGrant (some {}) := by decide
  obtain ⟨mandate, derived⟩ : ∃ mandate, deriveMandate readGrant none 600 1000 (some {}) = .ok mandate :=
    deriveMandate_ok 600 named unexpired conveyed nofun
  have held : "mcp:tools/search" ∈ mandate.mandateScope :=
    ((deriveMandate_derived derived).scopes _).mpr ⟨conveyed, nofun⟩
  refine ⟨mandate, derived, held, ?_⟩
  intro narrower
  obtain ⟨granted, member, ⟨images, mapped, _⟩ | ⟨_, _, rfl⟩⟩ := narrower.conveyed _ held
  · cases mapped
  · exact absurd member (by decide)

end Emptied

end Xcp.OauthBridge

/-! Which of the actors of a grant the delegation path of a mandate lists. Sixteen
are looked at, whether they name a subject or not. -/

namespace Xcp.OauthBridge
open Checked Python

mutual
/-- What the actors nested in a claim call their subjects, the outermost first,
however deep they are. -/
def subjects : Json → List Json
  | .dict members => field members "sub" :: subjectsWithin members
  | _ => []
termination_by structural node => node

/-- The subjects of the actor that is nested in one with these members. -/
def subjectsWithin : List (String × Json) → List Json
  | [] => []
  | (name, value) :: rest => if name = "act" then subjects value else subjectsWithin rest
termination_by structural members => members
end

theorem subjectsWithin_eq (members : List (String × Json)) : subjectsWithin members = subjects (field members "act") := by
  induction members with
  | nil => rfl
  | cons member rest ih =>
    obtain ⟨name, value⟩ := member
    rw [subjectsWithin, ih]
    by_cases nested : name = "act"
    · simp [field, Json.find?, nested]
    · simp [field, Json.find?, nested]

variable [Host]

theorem actors_eq (node : Json) (count : Nat) :
    actors node count = (((subjects node).take count).filter Json.truthy).map Json.toStr := by
  induction count generalizing node with
  | zero => rfl
  | succ count ih =>
    cases node with
    | dict members =>
      rw [actors, subjects, subjectsWithin_eq, List.take_succ_cons, List.filter_cons]
      simp only [ih]
      split
      · rfl
      · rfl
    | _ => rfl

theorem deriveMandate_path {grant : Grant} {requestedScope : Option (List String)} {maxTtl now : Int}
    {scopeMap : Option ScopeMap} {mandate : Mandate}
    (derived : deriveMandate grant requestedScope maxTtl now scopeMap = .ok mandate) :
    mandate.delegationPath = (((subjects grant.act).take 16).filter Json.truthy).map Json.toStr := by
  rw [← actors_eq]
  simp only [deriveMandate, grantError, raise] at derived
  split at derived
  · cases derived
  · split at derived
    · cases derived
    · split at derived
      · cases derived
      · split at derived
        · cases derived
        · obtain rfl := Except.ok.inj derived
          rfl

omit [Host] in
/-- What is kept of the first items is all that is kept, where nothing is kept of
the others. -/
theorem filter_take_eq_filter {α : Type} {keep : α → Bool} {items : List α} {count : Nat} :
    ((items.take count).filter keep).length = (items.filter keep).length ↔ ∀ item ∈ items.drop count, keep item = false := by
  have split : items.filter keep = (items.take count).filter keep ++ (items.drop count).filter keep := by
    rw [← List.filter_append, List.take_append_drop]
  rw [split, List.length_append, Nat.left_eq_add, List.length_eq_zero_iff, List.filter_eq_nil_iff]
  simp

/-- The path begins with the outermost subjects. It names every subject exactly
where no actor below the sixteenth names one, and every actor exactly where there
are no more than sixteen and each names a subject. -/
theorem path_complete_iff {grant : Grant} {requestedScope : Option (List String)} {maxTtl now : Int}
    {scopeMap : Option ScopeMap} {mandate : Mandate}
    (derived : deriveMandate grant requestedScope maxTtl now scopeMap = .ok mandate) :
    mandate.delegationPath <+: ((subjects grant.act).filter Json.truthy).map Json.toStr ∧
    (mandate.delegationPath = ((subjects grant.act).filter Json.truthy).map Json.toStr ↔
      ∀ sub ∈ (subjects grant.act).drop 16, sub.truthy = false) ∧
    (mandate.delegationPath = (subjects grant.act).map Json.toStr ↔
      (subjects grant.act).length ≤ 16 ∧ ∀ sub ∈ subjects grant.act, sub.truthy = true) := by
  rw [deriveMandate_path derived]
  generalize subjects grant.act = subs
  refine ⟨?_, ?_, ?_⟩
  · apply List.IsPrefix.map
    apply List.IsPrefix.filter
    exact List.take_prefix 16 subs
  · rw [← filter_take_eq_filter]
    constructor
    · intro same
      simpa using congrArg List.length same
    · intro length
      have whole := ((List.take_prefix 16 subs).filter Json.truthy).eq_of_length length
      rw [whole]
  · constructor
    · intro same
      have length := congrArg List.length same
      simp only [List.length_map] at length
      have kept := List.length_filter_le Json.truthy (subs.take 16)
      have taken := List.length_take_le 16 subs
      have few : subs.length ≤ 16 := by omega
      rw [List.take_of_length_le few, List.length_filter_eq_length_iff] at length
      exact ⟨few, length⟩
    · rintro ⟨few, named⟩
      rw [List.take_of_length_le few, List.filter_eq_self.mpr named]

/-! ### A grant of sixteen wrappers -/

/-- Actors under one another, the outermost first. -/
def nest (members : List (List (String × Json))) : Json :=
  members.foldr (fun members inner => .dict (members ++ [("act", inner)])) .null

/-- An actor below others of which none names a subject. -/
def wrapped (depth : Nat) : Grant where
  sub := "user"
  scope := "read"
  act := nest (List.replicate depth [] ++ [[("sub", .str "relay")]])

omit [Host] in
theorem wrapped_derives (depth : Nat) :
    ∃ mandate, @deriveMandate (asciiHost []) (wrapped depth) none 60 1000 none = .ok mandate := by
  have conveyed : "mcp:tools/search" ∈ mapScopes { scope := "read" } none := by decide +kernel
  apply @deriveMandate_ok (asciiHost [])
  · exact show "user" ≠ "" by decide
  · exact fun expired => expired.1 rfl
  · exact conveyed
  · intro requested given
    cases given

omit [Host] in
/-- Below fifteen wrappers an actor is listed. -/
theorem path_complete_wrapped : ∃ mandate, @deriveMandate (asciiHost []) (wrapped 15) none 60 1000 none = .ok mandate ∧
    mandate.delegationPath = ((subjects (wrapped 15).act).filter Json.truthy).map (@Json.toStr (asciiHost [])) := by
  obtain ⟨mandate, derived⟩ := wrapped_derives 15
  have above : ∀ sub ∈ (subjects (wrapped 15).act).drop 16, sub.truthy = false := by decide +kernel
  exact ⟨mandate, derived, (@path_complete_iff (asciiHost []) _ _ _ _ _ _ derived).2.1.mpr above⟩

omit [Host] in
/-- Below sixteen wrappers an actor is hidden. -/
theorem actor_hidden : ¬ ∀ grant mandate, @deriveMandate (asciiHost []) grant none 60 1000 none = .ok mandate →
    mandate.delegationPath = ((subjects grant.act).filter Json.truthy).map (@Json.toStr (asciiHost [])) := by
  intro complete
  obtain ⟨mandate, derived⟩ := wrapped_derives 16
  have listed := complete _ _ derived
  rw [@deriveMandate_path (asciiHost []) _ _ _ _ _ _ derived] at listed
  exact absurd listed (by decide +kernel)

end Xcp.OauthBridge
