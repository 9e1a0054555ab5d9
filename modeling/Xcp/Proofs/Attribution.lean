import Mathlib
import Xcp.Gateway.Gates
import Xcp.Gateway.Calls

/-! Whose a verified request is. The agent id of the header is what travels on,
and the binding's id is compared with it only where both are there. -/

namespace Xcp.Gateway
open Checked Python Protocol

section Requests
variable [Host]

/-- What is metered, judged and forwarded for a request is the agent of a binding. -/
structure Attributed (ctx : Ctx) (binding : Binding) : Prop where
  metered : ∀ method scope bodyBytes client,
    (limitQuery ctx method scope bodyBytes client).agentKey = meterKey (.int binding.agentId)
  judged : ∀ action args request, policyRequest ctx action args = .ok request →
    request.subject = ((Json.int binding.agentId).orElse (.str "anonymous")).toStr
  forwarded : identityHeader ctx = identityHeader { ctx with agentId := .int binding.agentId }

/-- Every verified request that has a binding is the agent's of that binding. -/
def AttributesAll (config : Config) (world : World) (registry : Registry) (request : HttpRequest) : Prop :=
  ∀ ctx binding, parseCtx config world registry request = .ok ctx → ctx.verified = true →
    ctx.binding = some binding → Attributed ctx binding

/-! ### One context -/

theorem policyRequest_subject {ctx : Ctx} {action : String} {args : Json} {request : Language.Request}
    (asked : policyRequest ctx action args = .ok request) :
    request.subject = (ctx.agentId.orElse (.str "anonymous")).toStr := by
  simp only [policyRequest, bind_eq_ok, pure_eq_ok] at asked
  obtain ⟨_, _, _, _, _, _, _, _, _, _, rfl⟩ := asked
  rfl

theorem identityHeader_inj (ctx : Ctx) {first second : Int}
    (same : identityHeader { ctx with agentId := .int first } = identityHeader { ctx with agentId := .int second }) :
    first = second := by
  simp only [identityHeader, Json.toStr, String.append_left_inj] at same
  exact Int.repr_inj.mp same

/-- A verified context is attributed to its binding exactly when the ids agree. -/
theorem attributed_iff {ctx : Ctx} {binding : Binding} {agentId : Int} (verified : ctx.verified = true)
    (bound : ctx.binding = some binding) (named : ctx.agentId = .int agentId) :
    Attributed ctx binding ↔ agentId = binding.agentId := by
  constructor
  · intro attributed
    apply identityHeader_inj ctx
    rw [← attributed.forwarded, ← named]
  · intro same
    rw [same] at named
    refine ⟨?_, ?_, ?_⟩
    · intro method scope bodyBytes client
      simp [limitQuery, verified, bound, named]
    · intro action args request asked
      rw [policyRequest_subject asked, named]
    · rw [← named]

/-! ### Verification -/

/-- The live binding of a footprint, as the verifier or the registry has it. -/
def boundTo (config : Config) (world : World) (registry : Registry) (footprint : String) : Option Binding :=
  if config.verifyUrl ≠ "" then
    match readVerifier world (.str footprint) with
    | .ok (.ok binding) => some binding
    | _ => none
  else (registry (.str footprint)).filter (·.valid world.now)

/-- When the id of the header is found to be another's. A verifier's id that is
zero is compared with none. -/
def Mismatch (config : Config) (binding : Binding) (agentId : Int) : Prop :=
  agentId ≠ 0 ∧ binding.agentId ≠ agentId ∧ (config.verifyUrl ≠ "" → binding.agentId ≠ 0)

section Verification
variable {config : Config} {world : World} {registry : Registry} {request : HttpRequest} {binding : Binding}

theorem verifySession_bound {footprint : String} {agentId : Int} :
    (∃ verdict, verifySession config world registry (.str footprint) agentId = .ok verdict ∧ verdict.ok = true ∧
      verdict.binding = some binding) ↔
      boundTo config world registry footprint = some binding ∧ ¬ Mismatch config binding agentId := by
  unfold verifySession boundTo Mismatch
  split
  next external =>
    cases readVerifier world (.str footprint) with
    | error exception => simp
    | ok answer =>
      cases answer with
      | error reason => simp
      | ok found =>
        dsimp only
        split
        next other =>
          simp only [Except.ok.injEq, exists_eq_left', Bool.false_eq_true, false_and, Option.some.injEq, false_iff,
            not_and]
          rintro rfl kept
          exact kept other.2.1 other.2.2 (fun _ => other.1)
        next kept =>
          simp only [Except.ok.injEq, exists_eq_left', true_and, Option.some.injEq, iff_self_and]
          rintro rfl ⟨named, other, known⟩
          exact kept ⟨known external, named, other⟩
  next standalone =>
    rw [Json.key_str, ok_bind]
    cases registry (.str footprint) with
    | none => simp [pure, Except.pure]
    | some found =>
      dsimp only
      by_cases live : found.valid world.now = true
      · by_cases other : agentId ≠ 0 ∧ found.agentId ≠ agentId
        · simp only [live, Bool.not_true, Bool.false_eq_true, if_false, if_pos other, pure, Except.pure, Except.ok.injEq,
            exists_eq_left', false_and, false_iff, Option.filter_some, if_true, Option.some.injEq, not_and]
          rintro rfl kept
          exact kept other.1 other.2 (fun external => absurd external standalone)
        · simp only [live, Bool.not_true, Bool.false_eq_true, if_false, if_neg other, pure, Except.pure, Except.ok.injEq,
            exists_eq_left', true_and, Option.filter_some, if_true, Option.some.injEq, iff_self_and]
          rintro rfl ⟨named, mismatch, _⟩
          exact other ⟨named, mismatch⟩
      · simp [live, pure, Except.pure]
        rintro rfl valid
        exact absurd valid live

/-! ### Requests -/

/-- A header that names no agent is for a binding without one; with a verifier,
the other way round too. -/
def ClaimsBound (config : Config) (world : World) (registry : Registry) (request : HttpRequest) : Prop :=
  ∀ ident binding, tryParse (request.header "xcp-agent-identity") = .ok (.ok ident) →
    boundTo config world registry ident.footprint = some binding →
    (ident.agentId = 0 → binding.agentId = 0) ∧ (config.verifyUrl ≠ "" → binding.agentId = 0 → ident.agentId = 0)

theorem parseCtx_bound {ctx : Ctx} :
    (parseCtx config world registry request = .ok ctx ∧ ctx.verified = true ∧ ctx.binding = some binding) →
      ∃ ident, tryParse (request.header "xcp-agent-identity") = .ok (.ok ident) ∧ ctx.agentId = .int ident.agentId ∧
        boundTo config world registry ident.footprint = some binding ∧ ¬ Mismatch config binding ident.agentId := by
  intro ⟨parsed, verified, bound⟩
  simp only [parseCtx, bind_eq_ok] at parsed
  obtain ⟨header, read, parsed⟩ := parsed
  cases header with
  | error reason =>
    cases parsed
    cases verified
  | ok ident =>
    simp only [bind_eq_ok, pure_eq_ok] at parsed
    obtain ⟨verdict, answered, rfl⟩ := parsed
    exact ⟨ident, read, rfl, verifySession_bound.mp ⟨verdict, answered, verified, bound⟩⟩

theorem parseCtx_of_bound {ident : AgentIdentityHeader}
    (read : tryParse (request.header "xcp-agent-identity") = .ok (.ok ident))
    (bound : boundTo config world registry ident.footprint = some binding)
    (kept : ¬ Mismatch config binding ident.agentId) :
    ∃ ctx, parseCtx config world registry request = .ok ctx ∧ ctx.verified = true ∧ ctx.binding = some binding ∧
      ctx.agentId = .int ident.agentId := by
  obtain ⟨verdict, answered, ok, found⟩ := verifySession_bound.mpr ⟨bound, kept⟩
  refine ⟨{ agentId := .int ident.agentId, chainId := .int ident.chainId, footprint := .str ident.footprint,
            verified := verdict.ok, reason := verdict.reason, binding := verdict.binding }, ?_, ok, found, rfl⟩
  simp only [parseCtx, read, ok_bind, answered]
  rfl

/-- Verified requests are attributed to their bindings exactly when no header
without an agent id is for a binding with one and, with a verifier, no header
with one for a binding without. -/
theorem attributesAll_iff : AttributesAll config world registry request ↔ ClaimsBound config world registry request := by
  constructor
  · intro attributes ident binding read bound
    have agrees (kept : ¬ Mismatch config binding ident.agentId) : ident.agentId = binding.agentId := by
      obtain ⟨ctx, parsed, verified, found, named⟩ := parseCtx_of_bound read bound kept
      exact (attributed_iff verified found named).mp (attributes ctx binding parsed verified found)
    refine ⟨?_, ?_⟩
    · intro none
      rw [← agrees (fun mismatch => mismatch.1 none), none]
    · intro external none
      rw [agrees (fun mismatch => mismatch.2.2 external none), none]
  · intro claims ctx binding parsed verified found
    obtain ⟨ident, read, named, bound, kept⟩ := parseCtx_bound ⟨parsed, verified, found⟩
    rw [attributed_iff verified found named]
    obtain ⟨unnamed, unknown⟩ := claims ident binding read bound
    by_contra other
    have given : ident.agentId ≠ 0 := fun none => other (by rw [none, unnamed none])
    exact kept ⟨given, Ne.symm other, fun external none => given (unknown external none)⟩

end Verification
end Requests

/-! ### A header without an agent id -/

section Unnamed

local instance unnamedHost : Host := asciiHost []

def localGateway : Config := {}

def unasked : World where
  now := 1000
  limiter := fun _ => { allowed := true }
  verifier := fun _ _ => raise (.package "ConnectError") ""

def sevens : Registry :=
  Function.update (fun _ => none) (.str "0xab") (some
    { agentId := 7, footprint := .str "0xab", mandateRoot := .str "0x00", rails := 3, notAfter := 5000 })

def unnamedRequest : HttpRequest := { headers := [("xcp-agent-identity", "0;8453;0xab")] }

theorem unnamed_not_attributed : ¬ AttributesAll localGateway unasked sevens unnamedRequest := by
  intro attributes
  have read : tryParse (unnamedRequest.header "xcp-agent-identity") = .ok (.ok ⟨0, 8453, "0xab"⟩) := by decide
  have bound : (boundTo localGateway unasked sevens "0xab").isSome = true := by decide
  obtain ⟨binding, found⟩ := Option.isSome_iff_exists.mp bound
  obtain ⟨ctx, parsed, verified, held, named⟩ := parseCtx_of_bound read found (fun mismatch => mismatch.1 rfl)
  have zero : 0 = binding.agentId := (attributed_iff verified held named).mp (attributes ctx binding parsed verified held)
  have seven : (boundTo localGateway unasked sevens "0xab").all (·.agentId = 7) = true := by decide
  simp [found, ← zero] at seven

end Unnamed

end Xcp.Gateway
