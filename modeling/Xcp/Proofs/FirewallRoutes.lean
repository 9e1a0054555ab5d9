import Xcp.Proofs.Credentials
import Xcp.TrustFirewall.Firewall

/-! The routes that a request can take through the firewall, and the decision at
the end of each. -/

namespace Xcp.Firewall
open Checked Python Eth Stateless

/-- A request, the server it is for, and the time at which it comes. -/
structure Call where
  headers : Dict String String
  body : List Nat
  serverHost : String
  now : Int
  /-- The nonce for a credential that has none. -/
  drawn : String

section Call
variable [Host]

def Call.request (call : Call) : McpRequest := McpRequest.fromHeaders call.headers call.body

def Call.method (call : Call) : String := call.request.method

def Call.scope (call : Call) : String := call.request.scope

variable [JsonDecoder]

def Call.credential (call : Call) : Raises (Option RequestCredential) := call.request.credential call.drawn

/-- A credential is read from the header that it was written to. -/
theorem Call.credential_carried (readsBack : ReadsBack) {call : Call} {cred : RequestCredential} (plain : cred.Plain)
    (carried : call.request.headers.get? hXcpCredential = some (settle "" cred.toHeader)) :
    call.credential = .ok (some cred) := by
  obtain ⟨header, written, given, read⟩ := RequestCredential.fromHeader_toHeader readsBack plain
  rw [written, settle_ok] at carried
  rw [Call.credential, McpRequest.credential, carried, Option.getD_some, if_neg given, read]
  rfl

end Call

namespace TrustFirewall

section Verified
variable [Host] [Packages]

/-- What the firewall finds wrong with a credential. -/
def problems (firewall : TrustFirewall) (call : Call) (cred : RequestCredential) : Raises (List String) :=
  verify cred call.method call.request.name call.body call.now "" firewall.maxCredentialTtl

variable [JsonDecoder]

def answer (firewall : TrustFirewall) (call : Call) : Raises Decision :=
  firewall.decide call.headers call.body call.serverHost call.now call.drawn

end Verified

/-! ### Terms -/

/-- Some call of this kind may reach the server. -/
theorem reachability_deny {agentTier : Int} {klass : ServerClass} {readOnly : Bool} :
    (reachability agentTier klass readOnly).1 ≠ .deny ↔ readOnly = true ∨ klass ≠ .unknown ∧ 1 ≤ agentTier := by
  cases klass <;> cases readOnly <;> by_cases free : agentTier < 1 <;> simp [reachability, free]
  all_goals omega

theorem reachability_allow {agentTier : Int} {klass : ServerClass} {readOnly : Bool} :
    (reachability agentTier klass readOnly).1 = .allow ↔ klass ≠ .unknown ∧ (readOnly = true ∨ 1 ≤ agentTier) := by
  cases klass <;> cases readOnly <;> by_cases free : agentTier < 1 <;> simp [reachability, free]
  all_goals omega

/-- What binds is not restricted to reading. -/
theorem reachability_full {agentTier : Int} {klass : ServerClass} {readOnly : Bool}
    (allowed : (reachability agentTier klass readOnly).1 = .allow) :
    (reachability agentTier klass readOnly).2.2.1.maxScope = "full" := by
  revert allowed
  cases klass <;> cases readOnly <;> by_cases free : agentTier < 1 <;> simp [reachability, free]

/-- Nothing is paid but for what binds. -/
theorem reachability_settlement {agentTier : Int} {klass : ServerClass} {readOnly : Bool}
    (unbound : (reachability agentTier klass readOnly).1 ≠ .allow) : (reachability agentTier klass readOnly).2.1 = "none" := by
  revert unbound
  cases klass <;> cases readOnly <;> by_cases free : agentTier < 1 <;> simp [reachability, free]

/-! ### Decisions -/

section Decisions
variable (firewall : TrustFirewall) (scope : String) (klass : ServerClass) (warnings checks : List String)

theorem decideAnonymous_effect : (firewall.decideAnonymous scope klass warnings checks).effect =
    if firewall.posture = "observe" then .observe else .deny := by
  unfold decideAnonymous
  split <;> rfl

theorem decideAnonymous_settlement : (firewall.decideAnonymous scope klass warnings checks).settlement = "none" := by
  unfold decideAnonymous
  split <;> rfl

theorem decideAnonymous_maxScope (observed : firewall.posture = "observe") :
    (firewall.decideAnonymous scope klass warnings checks).obligations.maxScope = "read" := by
  rw [decideAnonymous, if_pos observed]

variable (tier : Json) (first : String) (others : List String)

theorem decideInvalid_effect : (firewall.decideInvalid tier first others scope klass warnings checks).effect =
    if firewall.posture = "observe" then .observe else .deny := by
  unfold decideInvalid
  split <;> rfl

theorem decideInvalid_settlement :
    (firewall.decideInvalid tier first others scope klass warnings checks).settlement = "none" := by
  unfold decideInvalid
  split <;> rfl

theorem decideInvalid_maxScope (observed : firewall.posture = "observe") :
    (firewall.decideInvalid tier first others scope klass warnings checks).obligations.maxScope = "read" := by
  rw [decideInvalid, if_pos observed]

variable [Host] (cred : RequestCredential) (terms : Effect × String × Obligations × String) (granted readOnly : Bool)

/-- How a graded call is decided: the scope first, then the terms, and last what
observing makes of them. -/
theorem decideGraded_grade :
    ((firewall.decideGraded cred terms granted readOnly scope klass warnings checks).effect,
      (firewall.decideGraded cred terms granted readOnly scope klass warnings checks).settlement) =
    if granted = false ∨ terms.2.2.1.maxScope = "read" ∧ readOnly = false then (.deny, "none")
    else if firewall.posture = "observe" ∧ terms.1 = .allow then (.observe, "none") else (terms.1, terms.2.1) := by
  obtain ⟨effect, settlement, ob, note⟩ := terms
  cases granted with
  | false => simp [decideGraded]
  | true =>
    by_cases writes : ob.maxScope = "read" ∧ readOnly = false
    · simp [decideGraded, writes]
    · by_cases lowered : firewall.posture = "observe" ∧ effect = .allow
      · simp [decideGraded, writes, lowered]
      · simp [decideGraded, writes, lowered]

theorem decideGraded_effect : (firewall.decideGraded cred terms granted readOnly scope klass warnings checks).effect =
    if granted = false ∨ terms.2.2.1.maxScope = "read" ∧ readOnly = false then .deny
    else if firewall.posture = "observe" ∧ terms.1 = .allow then .observe else terms.1 := by
  have grade := congrArg Prod.fst (firewall.decideGraded_grade scope klass warnings checks cred terms granted readOnly)
  simpa only [apply_ite Prod.fst] using grade

theorem decideGraded_settlement : (firewall.decideGraded cred terms granted readOnly scope klass warnings checks).settlement =
    if granted = false ∨ terms.2.2.1.maxScope = "read" ∧ readOnly = false then "none"
    else if firewall.posture = "observe" ∧ terms.1 = .allow then "none" else terms.2.1 := by
  have grade := congrArg Prod.snd (firewall.decideGraded_grade scope klass warnings checks cred terms granted readOnly)
  simpa only [apply_ite Prod.snd] using grade

theorem decideGraded_obligations :
    (firewall.decideGraded cred terms granted readOnly scope klass warnings checks).obligations = terms.2.2.1 := by
  obtain ⟨effect, settlement, ob, note⟩ := terms
  cases granted with
  | false => rfl
  | true =>
    by_cases writes : ob.maxScope = "read" ∧ readOnly = false
    · simp [decideGraded, writes]
    · simp [decideGraded, writes]

theorem decideValid_ok {method : String} {decision : Decision} :
    firewall.decideValid cred method scope klass warnings checks = .ok decision ↔
      ∃ agentTier, agentTierOf cred.tier = .ok agentTier ∧
        ∃ granted, (if (reachability agentTier klass (isReadOnly method)).1 = .deny then .ok true
          else firewall.scopeGranted cred.tier scope) = .ok granted ∧
        firewall.decideGraded cred (reachability agentTier klass (isReadOnly method)) granted (isReadOnly method) scope klass
          warnings checks = decision := by
  simp only [decideValid, bind_eq_ok, pure_eq_ok]

end Decisions

/-! ### Routes -/

section Routes
variable [Host] [Packages] [JsonDecoder] (firewall : TrustFirewall) {call : Call}

theorem answer_blank (unnamed : call.method = "") :
    ∃ decision, firewall.answer call = .ok decision ∧ decision.effect = .deny ∧ decision.settlement = "none" := by
  have blank : (McpRequest.fromHeaders call.headers call.body).method = "" := unnamed
  simp only [answer, decide, if_pos blank]
  exact ⟨_, rfl, rfl, rfl⟩

variable (named : call.method ≠ "")
include named

theorem answer_unreadable {exception : Exception} (unreadable : call.credential = .error exception) :
    ∃ decision, firewall.answer call = .ok decision ∧ decision.effect = .deny ∧ decision.settlement = "none" := by
  have given : (McpRequest.fromHeaders call.headers call.body).method ≠ "" := named
  have read : (McpRequest.fromHeaders call.headers call.body).credential call.drawn = .error exception := unreadable
  simp only [answer, decide, if_neg given, read]
  exact ⟨_, rfl, rfl, rfl⟩

theorem answer_anonymous (absent : call.credential = .ok none) :
    ∃ warnings checks, firewall.answer call =
      .ok (firewall.decideAnonymous call.scope (firewall.classOf call.serverHost) warnings checks) := by
  have given : (McpRequest.fromHeaders call.headers call.body).method ≠ "" := named
  have read : (McpRequest.fromHeaders call.headers call.body).credential call.drawn = .ok none := absent
  simp only [answer, decide, if_neg given, read]
  exact ⟨_, _, rfl⟩

variable {cred : RequestCredential} (carried : call.credential = .ok (some cred))
include carried

theorem answer_raises {exception : Exception} (raised : firewall.problems call cred = .error exception) :
    firewall.answer call = .error exception := by
  have given : (McpRequest.fromHeaders call.headers call.body).method ≠ "" := named
  have read : (McpRequest.fromHeaders call.headers call.body).credential call.drawn = .ok (some cred) := carried
  simp only [problems, Call.method, Call.request] at raised
  simp only [answer, decide, if_neg given, read, raised]

theorem answer_invalid {first : String} {others : List String} (found : firewall.problems call cred = .ok (first :: others)) :
    ∃ warnings checks, firewall.answer call =
      .ok (firewall.decideInvalid cred.tier first others call.scope (firewall.classOf call.serverHost) warnings checks) := by
  have given : (McpRequest.fromHeaders call.headers call.body).method ≠ "" := named
  have read : (McpRequest.fromHeaders call.headers call.body).credential call.drawn = .ok (some cred) := carried
  simp only [problems, Call.method, Call.request] at found
  simp only [answer, decide, if_neg given, read, found]
  exact ⟨_, _, rfl⟩

theorem answer_valid (clean : firewall.problems call cred = .ok []) :
    ∃ warnings checks, firewall.answer call =
      firewall.decideValid cred call.method call.scope (firewall.classOf call.serverHost) warnings checks := by
  have given : (McpRequest.fromHeaders call.headers call.body).method ≠ "" := named
  have read : (McpRequest.fromHeaders call.headers call.body).credential call.drawn = .ok (some cred) := carried
  simp only [problems, Call.method, Call.request] at clean
  simp only [answer, decide, if_neg given, read, clean]
  exact ⟨_, _, rfl⟩

omit named carried

/-- The ways through the firewall. -/
inductive Route (firewall : TrustFirewall) (call : Call) : Prop
  /-- There is no method, or the credential cannot be read. -/
  | refused {decision : Decision} (answered : firewall.answer call = .ok decision) (denied : decision.effect = .deny)
      (unpaid : decision.settlement = "none")
  | anonymous (named : call.method ≠ "") (absent : call.credential = .ok none) {warnings checks : List String}
      (answered : firewall.answer call =
        .ok (firewall.decideAnonymous call.scope (firewall.classOf call.serverHost) warnings checks))
  | raises (named : call.method ≠ "") {cred : RequestCredential} (carried : call.credential = .ok (some cred))
      {exception : Exception} (raised : firewall.problems call cred = .error exception)
      (answered : firewall.answer call = .error exception)
  | invalid (named : call.method ≠ "") {cred : RequestCredential} (carried : call.credential = .ok (some cred))
      {first : String} {others : List String} (found : firewall.problems call cred = .ok (first :: others))
      {warnings checks : List String}
      (answered : firewall.answer call =
        .ok (firewall.decideInvalid cred.tier first others call.scope (firewall.classOf call.serverHost) warnings checks))
  | valid (named : call.method ≠ "") {cred : RequestCredential} (carried : call.credential = .ok (some cred))
      (clean : firewall.problems call cred = .ok []) {warnings checks : List String}
      (answered : firewall.answer call =
        firewall.decideValid cred call.method call.scope (firewall.classOf call.serverHost) warnings checks)

theorem route (firewall : TrustFirewall) (call : Call) : Route firewall call := by
  by_cases unnamed : call.method = ""
  · obtain ⟨decision, answered, denied, unpaid⟩ := answer_blank firewall unnamed
    exact .refused answered denied unpaid
  · cases carried : call.credential with
    | error exception =>
      obtain ⟨decision, answered, denied, unpaid⟩ := answer_unreadable firewall unnamed carried
      exact .refused answered denied unpaid
    | ok found =>
      cases found with
      | none =>
        obtain ⟨warnings, checks, answered⟩ := answer_anonymous firewall unnamed carried
        exact .anonymous unnamed carried answered
      | some cred =>
        cases checked : firewall.problems call cred with
        | error exception => exact .raises unnamed carried checked (answer_raises firewall unnamed carried checked)
        | ok problems =>
          cases problems with
          | cons first others =>
            obtain ⟨warnings, checks, answered⟩ := answer_invalid firewall unnamed carried checked
            exact .invalid unnamed carried checked answered
          | nil =>
            obtain ⟨warnings, checks, answered⟩ := answer_valid firewall unnamed carried checked
            exact .valid unnamed carried checked answered

end Routes

end TrustFirewall

end Xcp.Firewall
