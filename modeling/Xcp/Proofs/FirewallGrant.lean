import Xcp.Proofs.CallBinding
import Xcp.Proofs.FirewallRoutes

/-! Where the lattice is loaded, an allowed call is granted by a cell of it,
unless its tier is no cell. -/

namespace Xcp.Firewall
open Checked Python Eth Stateless

def IsCell (tier : Json) : Prop := ∃ agent human, tier = .str (Trust.lattice agent human).cell

/-- A cell of the lattice has a scope that covers this one. -/
def Grants (tier : Json) (scope : String) : Prop :=
  ∃ agent human, tier = .str (Trust.lattice agent human).cell ∧
    ∃ pattern ∈ (Trust.lattice agent human).scopes, Trust.covers pattern scope = true

namespace TrustFirewall

theorem scopeGranted_true {firewall : TrustFirewall} {tier : Json} {scope : String} :
    firewall.scopeGranted tier scope = .ok true ↔
      tier.hashable = true ∧ ∀ name, tier = .str name → ∀ granted, firewall.mandates.get? name = some granted →
        ∃ pattern ∈ granted, covers pattern scope = true := by
  cases tier with
  | str name =>
    cases held : firewall.mandates.get? name with
    | none => simp [scopeGranted, held, Json.hashable]
    | some granted => simp [scopeGranted, held, Json.hashable]
  | _ => simp [scopeGranted, Json.key, Json.hashable, Json.number?, require]

theorem mem_latticeTable (agent : Trust.AgentTier) (human : Trust.HumanTier) :
    Trust.lattice agent human ∈ Trust.latticeTable := by
  simp only [Trust.latticeTable, List.mem_flatMap, List.mem_map]
  refine ⟨agent, ?_, human, ?_, rfl⟩
  · cases agent <;> decide
  · cases human <;> decide

theorem cells_distinct : (Trust.latticeTable.map Trust.MandateTemplate.cell).Nodup := by
  decide

theorem loadLattice_cell (firewall : TrustFirewall) (agent : Trust.AgentTier) (human : Trust.HumanTier) :
    firewall.loadLattice.mandates.get? (Trust.lattice agent human).cell = some (Trust.lattice agent human).scopes :=
  Dict.get?_foldl_set_of_mem Trust.MandateTemplate.cell Trust.MandateTemplate.scopes cells_distinct
    (mem_latticeTable agent human) firewall.mandates

theorem loadLattice_other (firewall : TrustFirewall) {name : String} (other : ¬ IsCell (.str name)) :
    firewall.loadLattice.mandates.get? name = firewall.mandates.get? name := by
  apply Dict.get?_foldl_set_of_not_mem
  simp only [Trust.latticeTable, List.mem_map, List.mem_flatMap]
  rintro ⟨row, ⟨agent, _, human, _, rfl⟩, rfl⟩
  exact other ⟨agent, human, rfl⟩

/-- The tier is a value that a table can be asked for, is no cell of the lattice,
and was given no scopes that leave out this one. -/
def OffLattice (firewall : TrustFirewall) (tier : Json) (scope : String) : Prop :=
  tier.hashable = true ∧ ¬ IsCell tier ∧
    ∀ name, tier = .str name → ∀ granted, firewall.mandates.get? name = some granted →
      ∃ pattern ∈ granted, covers pattern scope = true

theorem loadLattice_granted {firewall : TrustFirewall} {tier : Json} {scope : String} :
    firewall.loadLattice.scopeGranted tier scope = .ok true ↔ Grants tier scope ∨ firewall.OffLattice tier scope := by
  rw [scopeGranted_true]
  by_cases cell : IsCell tier
  · obtain ⟨agent, human, rfl⟩ := cell
    constructor
    · intro ⟨_, granted⟩
      obtain ⟨pattern, member, covered⟩ := granted _ rfl _ (loadLattice_cell firewall agent human)
      exact .inl ⟨agent, human, rfl, pattern, member, covered⟩
    · rintro (⟨agent', human', same, pattern, member, covered⟩ | ⟨_, off, _⟩)
      · refine ⟨rfl, ?_⟩
        intro name named granted held
        rw [← Json.str.inj named, Json.str.inj same, loadLattice_cell firewall agent' human', Option.some.injEq] at held
        exact ⟨pattern, held ▸ member, covered⟩
      · exact absurd ⟨agent, human, rfl⟩ off
  · have apart : ¬ Grants tier scope := fun ⟨agent, human, same, _⟩ => cell ⟨agent, human, same⟩
    have mandates (name : String) (named : tier = .str name) :
        firewall.loadLattice.mandates.get? name = firewall.mandates.get? name := loadLattice_other firewall (named ▸ cell)
    constructor
    · intro ⟨hashable, granted⟩
      refine .inr ⟨hashable, cell, ?_⟩
      intro name named scopes held
      exact granted name named scopes ((mandates name named).trans held)
    · rintro (grants | ⟨hashable, _, granted⟩)
      · exact absurd grants apart
      · refine ⟨hashable, ?_⟩
        intro name named scopes held
        exact granted name named scopes ((mandates name named).symm.trans held)

/-- The server is known, and the call reads or its agent is registered. -/
def Reaches [Host] (firewall : TrustFirewall) (call : Call) (cred : RequestCredential) : Prop :=
  firewall.classOf call.serverHost ≠ .unknown ∧
    ∃ agentTier, agentTierOf cred.tier = .ok agentTier ∧ (isReadOnly call.method = true ∨ 1 ≤ agentTier)

section Allowed
variable [Host] {firewall : TrustFirewall} {call : Call}

theorem decideValid_allow {cred : RequestCredential} {warnings checks : List String} :
    (∃ decision, firewall.decideValid cred call.method call.scope (firewall.classOf call.serverHost) warnings checks =
        .ok decision ∧ decision.effect = .allow) ↔
      firewall.posture ≠ "observe" ∧ firewall.Reaches call cred ∧ firewall.scopeGranted cred.tier call.scope = .ok true := by
  constructor
  · intro ⟨decision, decided, allowed⟩
    obtain ⟨agentTier, read, granted, asked, rfl⟩ := (decideValid_ok ..).mp decided
    rw [decideGraded_effect] at allowed
    split at allowed
    · cases allowed
    next kept =>
      split at allowed
      · cases allowed
      next enforced =>
        rw [if_neg (by simp [allowed])] at asked
        have given : granted = true := by simpa using fun refused => kept (.inl refused)
        have reached := reachability_allow.mp allowed
        exact ⟨fun observed => enforced ⟨observed, allowed⟩, ⟨reached.1, agentTier, read, reached.2⟩, given ▸ asked⟩
  · intro ⟨enforced, ⟨known, agentTier, read, grade⟩, granted⟩
    have allowed : (reachability agentTier (firewall.classOf call.serverHost) (isReadOnly call.method)).1 = .allow :=
      reachability_allow.mpr ⟨known, grade⟩
    have full := reachability_full allowed
    refine ⟨_, (decideValid_ok ..).mpr ⟨agentTier, read, true, ?_, rfl⟩, ?_⟩
    · rw [if_neg (by simp [allowed]), granted]
    · rw [decideGraded_effect, if_neg (by simp [full]), if_neg (by simp [enforced]), allowed]

variable [Packages] [JsonDecoder]

theorem answer_allow : (∃ decision, firewall.answer call = .ok decision ∧ decision.effect = .allow) ↔
    firewall.posture ≠ "observe" ∧ call.method ≠ "" ∧ ∃ cred, call.credential = .ok (some cred) ∧
      firewall.problems call cred = .ok [] ∧ firewall.Reaches call cred ∧
      firewall.scopeGranted cred.tier call.scope = .ok true := by
  constructor
  · intro ⟨decision, answered, allowed⟩
    cases route firewall call with
    | refused refused denied _ =>
      obtain rfl := Except.ok.inj (refused.symm.trans answered)
      simp [denied] at allowed
    | anonymous _ _ anonymous =>
      obtain rfl := Except.ok.inj (anonymous.symm.trans answered)
      rw [decideAnonymous_effect] at allowed
      split at allowed <;> cases allowed
    | raises _ _ _ raised => cases raised.symm.trans answered
    | invalid _ _ _ invalid =>
      obtain rfl := Except.ok.inj (invalid.symm.trans answered)
      rw [decideInvalid_effect] at allowed
      split at allowed <;> cases allowed
    | valid named carried clean valid =>
      obtain ⟨enforced, reaches, granted⟩ := decideValid_allow.mp ⟨decision, valid ▸ answered, allowed⟩
      exact ⟨enforced, named, _, carried, clean, reaches, granted⟩
  · intro ⟨enforced, named, cred, carried, clean, reaches, granted⟩
    obtain ⟨warnings, checks, valid⟩ := answer_valid firewall named carried clean
    rw [valid]
    exact decideValid_allow.mpr ⟨enforced, reaches, granted⟩

/-- An allowed call carries a credential whose tier grants its scope. -/
def AllowGranted (firewall : TrustFirewall) (call : Call) : Prop :=
  ∀ decision, firewall.answer call = .ok decision → decision.effect = .allow →
    ∃ cred, call.credential = .ok (some cred) ∧ Grants cred.tier call.scope

theorem allowGranted_iff : AllowGranted firewall.loadLattice call ↔
    ¬ (firewall.posture ≠ "observe" ∧ call.method ≠ "" ∧ ∃ cred, call.credential = .ok (some cred) ∧
      firewall.problems call cred = .ok [] ∧ firewall.Reaches call cred ∧ firewall.OffLattice cred.tier call.scope) := by
  constructor
  · intro every ⟨enforced, named, cred, carried, clean, reaches, off⟩
    have loaded : ∃ decision, firewall.loadLattice.answer call = .ok decision ∧ decision.effect = .allow :=
      answer_allow.mpr ⟨enforced, named, cred, carried, clean, reaches, loadLattice_granted.mpr (.inr off)⟩
    obtain ⟨decision, answered, allowed⟩ := loaded
    obtain ⟨other, carried', agent, human, cell, _⟩ := every decision answered allowed
    rw [carried, Except.ok.injEq, Option.some.injEq] at carried'
    exact off.2.1 ⟨agent, human, carried' ▸ cell⟩
  · intro never decision answered allowed
    obtain ⟨enforced, named, cred, carried, clean, reaches, granted⟩ := answer_allow.mp ⟨decision, answered, allowed⟩
    rcases loadLattice_granted.mp granted with grants | off
    · exact ⟨cred, carried, grants⟩
    · exact absurd ⟨enforced, named, cred, carried, clean, reaches, off⟩ never

end Allowed

/-! ### A tier that is no cell -/

section Carol

attribute [local instance] carolHost carolPackages carolAccounts carolDecoder

/-- A firewall with the lattice, in front of a server with a contract. -/
def guarding : TrustFirewall :=
  { classes := { entries := [("api.acme.example", .contracted)], distinct := by simp } : TrustFirewall }.loadLattice

/-- A call with the credential that was minted for it. -/
def carolCalls : Call where
  headers := {
    entries := [("mcp-method", "tools/call"), ("mcp-name", "delete_all"),
      ("xcp-request-credential", settle "" carolCredential.toHeader)]
    distinct := by simp }
  body := carolBody
  serverHost := "api.acme.example"
  now := 1030
  drawn := ""

theorem carolCalls_method : carolCalls.method = "tools/call" := rfl

theorem carolCalls_name : carolCalls.request.name = "delete_all" := rfl

theorem carol_carried : carolCalls.credential = .ok (some carolCredential) :=
  Call.credential_carried flatDecoder_readsBack (mint_minted carol_minted).plain rfl

theorem carol_clean : guarding.problems carolCalls carolCredential = .ok [] := by
  rw [problems, carolCalls_method, carolCalls_name]
  exact (mint_minted carol_minted).accepted carol_recovers (by decide) (by decide) (by decide) (.inl rfl)

/-- The call is allowed, although its tier is no cell. -/
theorem carol_ungranted : ¬ AllowGranted guarding carolCalls := by
  intro every
  have reaches : guarding.Reaches carolCalls carolCredential := ⟨by decide, 9, rfl, .inr (by decide)⟩
  obtain ⟨decision, answered, allowed⟩ := answer_allow.mpr
    ⟨by decide, by decide, carolCredential, carol_carried, carol_clean, reaches, rfl⟩
  obtain ⟨cred, carried, agent, human, cell, _⟩ := every decision answered allowed
  rw [carol_carried, Except.ok.injEq, Option.some.injEq] at carried
  rw [← carried] at cell
  cases agent <;> cases human <;> exact absurd cell (by decide)

end Carol

end TrustFirewall

end Xcp.Firewall

/-! What the firewall allows for reading only is a read, and nothing binds while
it only observes; but for the calls that it observes without having graded them. -/

namespace Xcp.Firewall
open Checked Python Eth Stateless

namespace TrustFirewall

/-- What was graded and allowed for reading only is a read. -/
theorem decideGraded_reads [Host] {firewall : TrustFirewall} {cred : RequestCredential} {terms : Effect × String × Obligations × String}
    {granted readOnly : Bool} {scope : String} {klass : ServerClass} {warnings checks : List String}
    (allowed : (firewall.decideGraded cred terms granted readOnly scope klass warnings checks).allowed = true)
    (restricted : (firewall.decideGraded cred terms granted readOnly scope klass warnings checks).obligations.maxScope = "read") :
    readOnly = true := by
  rw [decideGraded_obligations] at restricted
  by_contra writes
  simp [Decision.allowed, decideGraded_effect, restricted, writes] at allowed

section ReadOnly
variable [Host] [Packages] [JsonDecoder] (firewall : TrustFirewall) (call : Call)

structure ReadOnlyKept : Prop where
  reads : ∀ decision, firewall.answer call = .ok decision → decision.allowed = true →
    decision.obligations.maxScope = "read" → isReadOnly call.method = true
  unbound : firewall.posture = "observe" → ∀ decision, firewall.answer call = .ok decision →
    decision.binding = false ∧ decision.settlement = "none"

variable {firewall call}

theorem answer_unbound (observed : firewall.posture = "observe") {decision : Decision}
    (answered : firewall.answer call = .ok decision) : decision.binding = false ∧ decision.settlement = "none" := by
  cases route firewall call with
  | refused refused denied unpaid =>
    obtain rfl := Except.ok.inj (refused.symm.trans answered)
    exact ⟨by simp [Decision.binding, denied], unpaid⟩
  | anonymous _ _ anonymous =>
    obtain rfl := Except.ok.inj (anonymous.symm.trans answered)
    refine ⟨?_, decideAnonymous_settlement ..⟩
    simp [Decision.binding, decideAnonymous_effect, observed]
  | raises _ _ _ raised => cases raised.symm.trans answered
  | invalid _ _ _ invalid =>
    obtain rfl := Except.ok.inj (invalid.symm.trans answered)
    refine ⟨?_, decideInvalid_settlement ..⟩
    simp [Decision.binding, decideInvalid_effect, observed]
  | valid _ _ _ valid =>
    obtain ⟨agentTier, _, granted, _, rfl⟩ := (decideValid_ok ..).mp (valid.symm.trans answered)
    rw [Decision.binding, decideGraded_effect, decideGraded_settlement]
    by_cases lowered : (reachability agentTier (firewall.classOf call.serverHost) (isReadOnly call.method)).1 = .allow
    · simp only [observed, lowered, and_self, if_true]
      split <;> exact ⟨rfl, rfl⟩
    · simp only [lowered, and_false, if_false]
      split
      · exact ⟨rfl, rfl⟩
      · exact ⟨decide_eq_false lowered, reachability_settlement lowered⟩

/-- A call that may write is let through ungraded: it has no credential, or one
with problems, and the firewall only observes. -/
def ObservedUngraded (firewall : TrustFirewall) (call : Call) : Prop :=
  firewall.posture = "observe" ∧ call.method ≠ "" ∧ isReadOnly call.method = false ∧
    (call.credential = .ok none ∨ ∃ cred first others, call.credential = .ok (some cred) ∧
      firewall.problems call cred = .ok (first :: others))

theorem readOnlyKept_iff : ReadOnlyKept firewall call ↔ ¬ ObservedUngraded firewall call := by
  constructor
  · rintro kept ⟨observed, named, writes, absent | ⟨cred, first, others, carried, found⟩⟩
    · obtain ⟨warnings, checks, answered⟩ := answer_anonymous firewall named absent
      have reads := kept.reads _ answered (by simp [Decision.allowed, decideAnonymous_effect, observed])
        (decideAnonymous_maxScope firewall _ _ _ _ observed)
      simp [writes] at reads
    · obtain ⟨warnings, checks, answered⟩ := answer_invalid firewall named carried found
      have reads := kept.reads _ answered (by simp [Decision.allowed, decideInvalid_effect, observed])
        (decideInvalid_maxScope firewall _ _ _ _ _ _ _ observed)
      simp [writes] at reads
  · intro graded
    refine ⟨?_, fun observed decision answered => answer_unbound observed answered⟩
    intro decision answered allowed restricted
    by_contra writes
    rw [Bool.not_eq_true] at writes
    cases route firewall call with
    | refused refused denied _ =>
      obtain rfl := Except.ok.inj (refused.symm.trans answered)
      simp [Decision.allowed, denied] at allowed
    | anonymous named absent anonymous =>
      obtain rfl := Except.ok.inj (anonymous.symm.trans answered)
      by_cases observed : firewall.posture = "observe"
      · exact graded ⟨observed, named, writes, .inl absent⟩
      · simp [Decision.allowed, decideAnonymous_effect, observed] at allowed
    | raises _ _ _ raised => cases raised.symm.trans answered
    | invalid named carried found invalid =>
      obtain rfl := Except.ok.inj (invalid.symm.trans answered)
      by_cases observed : firewall.posture = "observe"
      · exact graded ⟨observed, named, writes, .inr ⟨_, _, _, carried, found⟩⟩
      · simp [Decision.allowed, decideInvalid_effect, observed] at allowed
    | valid _ _ _ valid =>
      obtain ⟨agentTier, _, granted, _, rfl⟩ := (decideValid_ok ..).mp (valid.symm.trans answered)
      have reads := decideGraded_reads allowed restricted
      simp [writes] at reads

end ReadOnly

/-! ### An observed write -/

section Observed

local instance observedHost : Host := asciiHost []

local instance observedPackages : Packages := tablePackages [] []

local instance observedDecoder : JsonDecoder := flatDecoder

def observing : TrustFirewall := { posture := "observe" }

/-- A write without a credential. -/
def anonymousWrite : Call where
  headers := { entries := [("mcp-method", "tools/call"), ("mcp-name", "delete_all")], distinct := by decide }
  body := []
  serverHost := "random.example"
  now := 1000
  drawn := ""

/-- It is allowed, as a call that only reads. -/
theorem anonymousWrite_unkept : ¬ ReadOnlyKept observing anonymousWrite := by
  intro kept
  have named : anonymousWrite.method ≠ "" := by decide
  have absent : anonymousWrite.credential = .ok none := by
    rw [Call.credential, McpRequest.credential, if_pos (by decide)]
  obtain ⟨warnings, checks, answered⟩ := answer_anonymous observing named absent
  have reads := kept.reads _ answered rfl rfl
  exact absurd reads (by decide)

end Observed

end TrustFirewall

end Xcp.Firewall
