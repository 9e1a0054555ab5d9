import Xcp.Gateway.Session
import Xcp.Library.Transition

/-! The kill switch of the gateway's local registry. A revoked footprint is
refused until `session/open`, which asks nobody, binds it again. -/

namespace Xcp.Gateway
open Checked Python Http Transition

/-- A `session/open` that passes its checks and names the footprint. -/
structure Opens (config : Config) (world : World) (request : HttpRequest) (footprint : Json) : Prop where
  development : config.production = false
  admitted : config.limits = true → (world.limiter (openQuery request)).allowed = true
  named : footprint.truthy = true
  document : ∃ body agentId rails, request.body = .ok body ∧ body.get "footprint" (.str "") = .ok footprint ∧
    body.getInt "agentId" 0 = .ok agentId ∧ (config.registrar = .chain → agentId ≠ 0) ∧
    body.getInt "rails" 3 = .ok rails

structure Fresh (now : Rat) (binding : Binding) : Prop where
  unrevoked : binding.revoked = false
  notAfter : binding.notAfter = truncate now + sevenDays

theorem Fresh.valid {now : Rat} {binding : Binding} (fresh : Fresh now binding) : binding.valid now = true := by
  have later : truncate now < truncate now + sevenDays := by
    unfold sevenDays
    omega
  simp [Binding.valid, fresh.unrevoked, fresh.notAfter, later]

/-! ### What the endpoints write -/

section Writes
variable {config : Config} {world : World} {registry after : Registry} {request : HttpRequest}

theorem bind_ok {now : Rat} {agentId rails : Int} {footprint mandateRoot : Json} {tier : String} {binding : Binding}
    (done : registry.bind now agentId footprint mandateRoot rails tier = .ok (after, binding)) :
    ∃ key, footprint.key = .ok key ∧ after = Function.update registry key (some binding) ∧ Fresh now binding := by
  simp only [Registry.bind, bind_eq_ok, pure_eq_ok, Prod.mk.injEq] at done
  obtain ⟨key, hashed, rfl, rfl⟩ := done
  exact ⟨key, hashed, rfl, rfl, rfl⟩

theorem bind_str (registry : Registry) (now : Rat) (agentId : Int) (footprint : String) (mandateRoot : Json)
    (rails : Int) (tier : String) :
    ∃ binding, Fresh now binding ∧ binding.agentId = agentId ∧ registry.bind now agentId (.str footprint) mandateRoot rails tier =
      .ok (Function.update registry (.str footprint) (some binding), binding) := by
  let binding : Binding :=
    { agentId, footprint := .str footprint, mandateRoot := mandateRoot.orElse zeroRoot, rails,
      notAfter := truncate now + min sevenDays sevenDays, tier }
  exact ⟨binding, ⟨rfl, rfl⟩, rfl, rfl⟩

theorem revoke_ok {footprint : Json} {ok : Bool} (done : registry.revoke footprint = .ok (after, ok)) :
    after = registry ∧ ok = false ∨ ∃ key binding, footprint.key = .ok key ∧ registry key = some binding ∧
      after = Function.update registry key (some { binding with revoked := true }) := by
  simp only [Registry.revoke, bind_eq_ok] at done
  obtain ⟨key, hashed, done⟩ := done
  split at done
  next binding held =>
    cases done
    exact .inr ⟨key, binding, hashed, held, rfl⟩
  next =>
    cases done
    exact .inl ⟨rfl, rfl⟩

variable [Host]

theorem openLocal_ok {body footprint : Json} {agentId : Int} {response : Response}
    (done : openLocal config world registry body footprint agentId = .ok (after, response)) :
    (∃ rails, body.getInt "rails" 3 = .ok rails) ∧
    ∃ key binding, footprint.key = .ok key ∧ after = Function.update registry key (some binding) ∧
      Fresh world.now binding := by
  simp only [openLocal, bind_eq_ok, attempt_eq_ok, pure_eq_ok, Prod.exists, Prod.mk.injEq] at done
  obtain ⟨_, _, _, _, rails, counted, _, binding, bound, rfl, _⟩ := done
  exact ⟨⟨rails, counted⟩, (bind_ok bound).imp fun key made => ⟨binding, made⟩⟩

theorem openExternal_ok {footprint : Json} {agentId : Int} {response : Response}
    (done : openExternal config world registry footprint agentId = .ok (after, response)) : after = registry := by
  simp only [openExternal, bind_eq_ok, pure_eq_ok, Prod.mk.injEq] at done
  obtain ⟨_, _, _, _, _, _, rfl, _⟩ := done
  rfl

theorem sessionOpen_ok {response : Response}
    (done : sessionOpen config world registry request = .ok (after, response)) :
    after = registry ∨ ∃ footprint key binding, Opens config world request footprint ∧ footprint.key = .ok key ∧
      after = Function.update registry key (some binding) ∧ Fresh world.now binding := by
  simp only [sessionOpen, bind_eq_ok, attempt_eq_ok, require_eq_ok] at done
  obtain ⟨_, _, _, admitted, body, decoded, footprint, given, agentId, read, _, named, _, registered, done⟩ := done
  split at done
  · exact .inl (openExternal_ok done)
  · simp only [bind_eq_ok, require_eq_ok] at done
    obtain ⟨_, development, done⟩ := done
    obtain ⟨⟨rails, counted⟩, key, binding, hashed, same, fresh⟩ := openLocal_ok done
    have opens : Opens config world request footprint :=
      ⟨development, admitted, named, body, agentId, rails, decoded, given, read, registered, counted⟩
    exact .inr ⟨footprint, key, binding, opens, hashed, same, fresh⟩

/-- The members read last come from a body that is an object. -/
theorem sessionOpen_of_body {members : List (String × Json)} {footprint : String} {agentId rails : Int}
    (standalone : config.verifyUrl = "") (development : config.production = false)
    (admitted : config.limits = true → (world.limiter (openQuery request)).allowed = true)
    (decoded : request.body = .ok (.dict members))
    (given : (Json.dict members).get "footprint" (.str "") = .ok (.str footprint)) (named : (Json.str footprint).truthy = true)
    (read : (Json.dict members).getInt "agentId" 0 = .ok agentId) (registered : config.registrar = .chain → agentId ≠ 0)
    (counted : (Json.dict members).getInt "rails" 3 = .ok rails) :
    ∃ binding response, Fresh world.now binding ∧ binding.agentId = agentId ∧ sessionOpen config world registry request =
      .ok (Function.update registry (.str footprint) (some binding), response) := by
  have ready : config.production = true → config.registrar ≠ .none := by simp [development]
  obtain ⟨tier, claimed⟩ : ∃ tier, (Json.dict members).get "tier" (.str "A0xH0") = .ok tier := ⟨_, rfl⟩
  obtain ⟨root, rooted⟩ : ∃ root, (Json.dict members).get "mandateRoot" (.str "") = .ok root := ⟨_, rfl⟩
  obtain ⟨binding, fresh, owner, bound⟩ :=
    bind_str registry world.now agentId footprint root rails (grantTier config tier.toStr)
  refine ⟨binding, ?_⟩
  simp only [sessionOpen, require_true _ ready, require_true _ admitted, decoded, given, read, attempt_ok,
    ok_bind, require_true _ named, require_true _ registered, require_true _ development, standalone,
    ne_eq, not_true_eq_false, if_false, openLocal, claimed, rooted, counted, bound]
  exact ⟨_, fresh, owner, rfl⟩

theorem sessionOpen_of_opens {footprint : String} (standalone : config.verifyUrl = "")
    (opens : Opens config world request (.str footprint)) :
    ∃ binding response, Fresh world.now binding ∧ sessionOpen config world registry request =
      .ok (Function.update registry (.str footprint) (some binding), response) := by
  obtain ⟨body, agentId, rails, decoded, given, read, registered, counted⟩ := opens.document
  obtain ⟨members, rfl⟩ : ∃ members, body = .dict members := by
    cases body with
    | dict members => exact ⟨members, rfl⟩
    | _ => cases given
  obtain ⟨binding, response, fresh, -, done⟩ := sessionOpen_of_body standalone opens.development opens.admitted decoded given
    opens.named read registered counted
  exact ⟨binding, response, fresh, done⟩

theorem adminRevoke_ok {response : Response}
    (done : adminRevoke config world registry request = .ok (after, response)) :
    ∃ footprint, response.body.get "footprint" = .ok footprint ∧
      ((after = registry ∧ response.body.get "revoked" = .ok (.bool false)) ∨
        ∃ key binding, footprint.key = .ok key ∧ registry key = some binding ∧
          after = Function.update registry key (some { binding with revoked := true })) := by
  simp only [adminRevoke, bind_eq_ok, attempt_eq_ok, require_eq_ok, pure_eq_ok, Prod.exists, Prod.mk.injEq] at done
  obtain ⟨_, _, _, _, _, _, body, decoded, footprint, given, _, ok, revoked, rfl, rfl⟩ := done
  refine ⟨footprint, rfl, ?_⟩
  split at revoked
  · rcases revoke_ok ((attempt_eq_ok _ _).mp revoked) with ⟨same, rfl⟩ | found
    · exact .inl ⟨same, rfl⟩
    · exact .inr found
  · cases revoked
    exact .inl ⟨rfl, rfl⟩

end Writes

/-! ### Runs -/

section Runs

variable [Host]

/-- Some request with this footprint is verified. -/
def Verified (config : Config) (footprint : String) (registry : Registry) : Prop :=
  ∃ world agentId verdict, verifySession config world registry (.str footprint) agentId = .ok verdict ∧
    verdict.ok = true

def Revoked (footprint : String) (registry : Registry) : Prop :=
  ∀ binding, registry (.str footprint) = some binding → binding.revoked = true

def Reopens (config : Config) (footprint : String) : World × Request → Prop
  | (world, .sessionOpen request) => Opens config world request (.str footprint)
  | _ => False

variable {config : Config} {footprint : String} {registry : Registry}

theorem Revoked.not_verified (standalone : config.verifyUrl = "") (revoked : Revoked footprint registry) :
    ¬ Verified config footprint registry := by
  intro ⟨world, agentId, verdict, answered, ok⟩
  simp only [verifySession, standalone, ne_eq, not_true_eq_false, if_false, Json.key_str, ok_bind] at answered
  cases held : registry (.str footprint) with
  | none =>
    simp only [held, pure_eq_ok] at answered
    subst answered
    cases ok
  | some binding =>
    have invalid : binding.valid world.now = false := by simp [Binding.valid, revoked binding held]
    simp only [held, invalid, Bool.not_false, if_true, pure_eq_ok] at answered
    subst answered
    cases ok

theorem verifySession_of_valid {world : World} {binding : Binding} (standalone : config.verifyUrl = "")
    (held : registry (.str footprint) = some binding) (valid : binding.valid world.now = true) :
    verifySession config world registry (.str footprint) 0 =
      .ok { ok := true, reason := .str "", binding := some binding } := by
  simp [verifySession, standalone, ok_bind, held, valid, pure, Except.pure]

omit [Host] in
theorem Revoked.update (revoked : Revoked footprint registry) {key : Json} {binding : Binding}
    (kept : key = .str footprint → binding.revoked = true) :
    Revoked footprint (Function.update registry key (some binding)) := by
  intro found held
  rw [Function.update_apply] at held
  split at held
  next same =>
    cases held
    exact kept same.symm
  next => exact revoked found held

theorem Revoked.step {event : World × Request} (revoked : Revoked footprint registry)
    (closed : ¬ Reopens config footprint event) : Revoked footprint (step config registry event) := by
  obtain ⟨world, request⟩ := event
  cases request with
  | sessionOpen request =>
    simp only [Gateway.step]
    rcases serve_cases registry (sessionOpen config world registry request) with ⟨answer, done, same⟩ | same
    · rw [same]
      rcases sessionOpen_ok done with kept | ⟨named, key, binding, opens, hashed, bound, fresh⟩
      · rwa [kept]
      · rw [bound]
        apply revoked.update
        rintro rfl
        obtain rfl := (Json.key_eq_str named footprint).mp hashed
        exact absurd opens closed
    · rwa [same]
  | adminRevoke request =>
    simp only [Gateway.step]
    rcases serve_cases registry (adminRevoke config world registry request) with ⟨answer, done, same⟩ | same
    · rw [same]
      obtain ⟨named, _, ⟨kept, _⟩ | ⟨key, binding, _, _, written⟩⟩ := adminRevoke_ok done
      · rwa [kept]
      · rw [written]
        exact revoked.update (fun _ => rfl)
    · rwa [same]
  | governed request => exact revoked

theorem reopens_verified (standalone : config.verifyUrl = "") {event : World × Request}
    (reopens : Reopens config footprint event) : Verified config footprint (step config registry event) := by
  obtain ⟨world, request⟩ := event
  cases request with
  | sessionOpen request =>
    obtain ⟨binding, response, fresh, done⟩ :
        ∃ binding response, Fresh world.now binding ∧ sessionOpen config world registry request =
          .ok (Function.update registry (.str footprint) (some binding), response) :=
      sessionOpen_of_opens standalone reopens
    simp only [Gateway.step, done, serve_ok]
    exact ⟨world, 0, _, verifySession_of_valid standalone (Function.update_self _ _ _) fresh.valid, rfl⟩
  | adminRevoke request => exact reopens.elim
  | governed request => exact reopens.elim

def killSwitch (config : Config) (standalone : config.verifyUrl = "") (footprint : String) :
    KillSwitch Registry (World × Request) where
  step := step config
  killed := Revoked footprint
  served := Verified config footprint
  reopens := fun _ => Reopens config footprint
  refuses := fun _ => Revoked.not_verified standalone
  sticks := fun _ _ => Revoked.step

/-- After `/admin/revoke` answered `revoked = true` no request with the footprint
is verified throughout a run exactly when nothing in the run opens it again. -/
theorem revoked_never_verified_iff {world : World} {request : HttpRequest} {after : Registry} {response : Response}
    (standalone : config.verifyUrl = "")
    (done : adminRevoke config world registry request = .ok (after, response))
    (revoked : response.body.get "revoked" = .ok (.bool true))
    (named : response.body.get "footprint" = .ok (.str footprint)) (events : List (World × Request)) :
    Always (step config) (fun later => ¬ Verified config footprint later) after events ↔
      Meets (step config) (fun _ event => ¬ Reopens config footprint event) after events := by
  have killed : Revoked footprint after := by
    obtain ⟨found, given, ⟨_, denied⟩ | ⟨key, binding, hashed, held, written⟩⟩ := adminRevoke_ok done
    · rw [revoked] at denied
      cases denied
    · rw [named] at given
      cases given
      obtain rfl : .str footprint = key := by simpa using hashed
      intro later found
      rw [written, Function.update_self] at found
      cases found
      rfl
  exact (killSwitch config standalone footprint).never_served_iff (fun _ _ _ => reopens_verified standalone) killed

end Runs

/-! ### A run without a verifier -/

section Standalone

local instance : Host := asciiHost []

def standaloneConfig : Config := { adminToken := "s3cret", limits := false }

def noon : World := { now := 1000, limiter := fun _ => { allowed := true }, verifier := fun _ _ => raise (.package "ConnectError") "" }

def openRequest : HttpRequest :=
  { bodyBytes := 34, body := .ok (.dict [("footprint", .str "0xab"), ("agentId", .int 7)]) }

def revokeRequest : HttpRequest :=
  { headers := [("authorization", "Bearer s3cret")], bodyBytes := 20, body := .ok (.dict [("footprint", .str "0xab")]) }

def opened : Registry := step standaloneConfig (fun _ => none) (noon, .sessionOpen openRequest)

theorem revoked_never_verified_governed :
    ∃ after response, adminRevoke standaloneConfig noon opened revokeRequest = .ok (after, response) ∧
      response.body.get "revoked" = .ok (.bool true) ∧
      Always (step standaloneConfig) (fun later => ¬ Verified standaloneConfig "0xab" later) after
        [(noon, .governed {})] := by
  obtain ⟨after, response, done, revoked, named⟩ :
      ∃ after response, adminRevoke standaloneConfig noon opened revokeRequest = .ok (after, response) ∧
        response.body.get "revoked" = .ok (.bool true) ∧ response.body.get "footprint" = .ok (.str "0xab") :=
    ⟨_, _, rfl, rfl, rfl⟩
  exact ⟨after, response, done, revoked,
    (revoked_never_verified_iff rfl done revoked named _).mpr ⟨id, trivial⟩⟩

/-- The revoked footprint is opened again, by anyone, and verified again. -/
theorem revoked_verified_again :
    ∃ after response, adminRevoke standaloneConfig noon opened revokeRequest = .ok (after, response) ∧
      response.body.get "revoked" = .ok (.bool true) ∧
      ¬ Always (step standaloneConfig) (fun later => ¬ Verified standaloneConfig "0xab" later) after
        [(noon, .sessionOpen openRequest)] := by
  refine ⟨_, _, rfl, rfl, ?_⟩
  intro ⟨_, never⟩
  exact never ⟨noon, 7, _, rfl, rfl⟩

end Standalone

end Xcp.Gateway
