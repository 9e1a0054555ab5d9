import Xcp.Proofs.FirewallRoutes

/-! When the firewall raises instead of deciding: outside its handlers are the
fields of a credential that nothing checks. -/

namespace Xcp.Firewall
open Checked Python Eth Stateless

/-! ### Tiers -/

/-- What `int` takes, or raises a `ValueError` on. -/
def intReadable : Json → Bool
  | .null | .list _ | .dict _ | .float (.infinite _) => false
  | _ => true

/-- A tier on which the reading of its agent leg raises, past the handler. -/
def tierUnreadable : Json → Bool
  | .list (first :: second :: _) => first.same (.str "A") && !intReadable second
  | .list _ | .str _ => false
  | other => other.truthy

/-- A number was read, or what was raised is handled. -/
def Handled (read : Raises Int) : Prop :=
  ∀ exception, read = .error exception → exception.kind = .valueError ∨ exception.kind = .package "IndexError"

theorem agentTierOf_handled (cell : Json) : (∃ tier, agentTierOf cell = .ok tier) ↔ Handled (readTier cell) := by
  unfold agentTierOf Handled
  cases readTier cell with
  | ok tier => simp
  | error exception =>
    by_cases caught : exception.kind = .valueError ∨ exception.kind = .package "IndexError"
    · simp [caught]
    · simp [caught]

theorem toInt_handled (value : Json) : Handled value.toInt ↔ intReadable value = true := by
  unfold Handled
  cases value with
  | float value =>
    cases value with
    | infinite negative => simp [Json.toInt, intReadable, raise]
    | finite value => simp [Json.toInt, intReadable]
    | nan => simp [Json.toInt, intReadable, raise]
  | str text =>
    simp only [Json.toInt, intOfText]
    cases parseInt? text with
    | some number => simp [intReadable]
    | none => simp [intReadable, raise]
  | _ => simp [Json.toInt, intReadable, raise]

section Reading
variable (cell : Json)

theorem readTier_falsy (falsy : cell.truthy = false) : readTier cell = .ok 0 := by
  simp only [readTier, falsy, Bool.false_eq_true, if_false]
  rfl

variable (truthy : cell.truthy = true)
include truthy

theorem readTier_raises {exception : Exception} (raised : cell.atIndex 0 = .error exception) :
    readTier cell = .error exception := by
  simp only [readTier, truthy, if_true, raised]
  rfl

variable {first : Json} (found : cell.atIndex 0 = .ok first)
include found

theorem readTier_other (other : first.same (.str "A") = false) : readTier cell = .ok 0 := by
  simp only [readTier, truthy, if_true, found, ok_bind, other, Bool.false_eq_true, if_false]
  rfl

theorem readTier_short {exception : Exception} (agent : first.same (.str "A") = true)
    (raised : cell.atIndex 1 = .error exception) : readTier cell = .error exception := by
  simp only [readTier, truthy, if_true, found, ok_bind, agent, raised]
  rfl

theorem readTier_leg (agent : first.same (.str "A") = true) {second : Json} (leg : cell.atIndex 1 = .ok second) :
    readTier cell = second.toInt := by
  simp only [readTier, truthy, if_true, found, ok_bind, agent, leg]

end Reading

theorem handled_ok (tier : Int) : Handled (.ok tier) := nofun

/-- A value that has no places is no tier, unless it is falsy. -/
theorem handled_flat {cell : Json} {exception : Exception} (raised : cell.atIndex 0 = .error exception)
    (uncaught : exception.kind ≠ .valueError ∧ exception.kind ≠ .package "IndexError") :
    Handled (readTier cell) ↔ cell.truthy = false := by
  cases truthy : cell.truthy with
  | false => simp [readTier_falsy cell truthy, handled_ok]
  | true =>
    rw [readTier_raises cell truthy raised]
    simp [Handled, uncaught]

theorem handled_list (items : List Json) : Handled (readTier (.list items)) ↔ tierUnreadable (.list items) = false := by
  match items with
  | [] => simp [readTier_falsy (.list []) rfl, handled_ok, tierUnreadable]
  | [first] =>
    have plain : tierUnreadable (.list [first]) = false := rfl
    cases agent : first.same (.str "A") with
    | false => simp [readTier_other (.list [first]) rfl rfl agent, handled_ok, plain]
    | true =>
      rw [readTier_short (.list [first]) rfl rfl agent rfl]
      simp [Handled, plain]
  | first :: second :: rest =>
    cases agent : first.same (.str "A") with
    | false =>
      simp [readTier_other (.list (first :: second :: rest)) rfl rfl agent, handled_ok, tierUnreadable, agent]
    | true =>
      rw [readTier_leg (.list (first :: second :: rest)) rfl rfl agent rfl, toInt_handled]
      simp [tierUnreadable, agent]

theorem handled_str (text : String) : Handled (readTier (.str text)) := by
  cases truthy : (Json.str text).truthy with
  | false =>
    rw [readTier_falsy _ truthy]
    exact handled_ok 0
  | true =>
    cases letters : text.toList with
    | nil => exact absurd (String.toList_eq_nil_iff.mp letters) (by simpa [Json.truthy] using truthy)
    | cons letter rest =>
      have found : (Json.str text).atIndex 0 = .ok (.str (String.singleton letter)) := by simp [Json.atIndex, letters]
      cases agent : (Json.str (String.singleton letter)).same (.str "A") with
      | false =>
        rw [readTier_other _ truthy found agent]
        exact handled_ok 0
      | true =>
        cases rest with
        | nil =>
          have short : (Json.str text).atIndex 1 = raise (.package "IndexError") "string index out of range" := by
            simp [Json.atIndex, letters]
          rw [readTier_short _ truthy found agent short]
          rintro exception ⟨⟩
          exact .inr rfl
        | cons digit more =>
          have leg : (Json.str text).atIndex 1 = .ok (.str (String.singleton digit)) := by simp [Json.atIndex, letters]
          rw [readTier_leg _ truthy found agent leg, toInt_handled]
          rfl

theorem agentTierOf_ok (cell : Json) : (∃ tier, agentTierOf cell = .ok tier) ↔ tierUnreadable cell = false := by
  rw [agentTierOf_handled]
  cases cell with
  | str text => simp [handled_str, tierUnreadable]
  | list items => exact handled_list items
  | _ => exact handled_flat rfl ⟨nofun, nofun⟩

namespace TrustFirewall

/-! ### Decisions -/

theorem scopeGranted_ok (firewall : TrustFirewall) (tier : Json) (scope : String) :
    (∃ granted, firewall.scopeGranted tier scope = .ok granted) ↔ tier.hashable = true := by
  cases tier with
  | str name => cases held : firewall.mandates.get? name <;> simp [scopeGranted, held, Json.hashable]
  | _ => simp [scopeGranted, Json.key, Json.hashable, Json.number?, require]

section Decides
variable [Host] {firewall : TrustFirewall} {call : Call} {cred : RequestCredential}

/-- The agent leg can be read, and a table can be asked for the tier where it is asked. -/
def TierUsable (firewall : TrustFirewall) (call : Call) (cred : RequestCredential) : Prop :=
  tierUnreadable cred.tier = false ∧
    (cred.tier.hashable = true ∨ isReadOnly call.method = false ∧ (firewall.classOf call.serverHost = .unknown ∨
      ∀ agentTier, agentTierOf cred.tier = .ok agentTier → agentTier < 1))

theorem decideValid_decides {warnings checks : List String} :
    (∃ decision, firewall.decideValid cred call.method call.scope (firewall.classOf call.serverHost) warnings checks =
      .ok decision) ↔ firewall.TierUsable call cred := by
  constructor
  · intro ⟨decision, decided⟩
    obtain ⟨agentTier, read, granted, asked, _⟩ := (decideValid_ok ..).mp decided
    refine ⟨(agentTierOf_ok cred.tier).mp ⟨agentTier, read⟩, ?_⟩
    split at asked
    next denied =>
      have unreached := mt reachability_deny.mpr (not_not.mpr denied)
      simp only [not_or, not_and, Bool.not_eq_true] at unreached
      refine .inr ⟨unreached.1, ?_⟩
      by_cases unknown : firewall.classOf call.serverHost = .unknown
      · exact .inl unknown
      · refine .inr fun other read' => ?_
        rw [read, Except.ok.injEq] at read'
        have free := unreached.2 unknown
        omega
    next => exact .inl ((scopeGranted_ok firewall cred.tier call.scope).mp ⟨granted, asked⟩)
  · intro ⟨readable, usable⟩
    obtain ⟨agentTier, read⟩ := (agentTierOf_ok cred.tier).mpr readable
    by_cases denied : (reachability agentTier (firewall.classOf call.serverHost) (isReadOnly call.method)).1 = .deny
    · exact ⟨_, (decideValid_ok ..).mpr ⟨agentTier, read, true, if_pos denied, rfl⟩⟩
    · have hashable : cred.tier.hashable = true := by
        rcases usable with hashable | ⟨writes, unknown | free⟩
        · exact hashable
        · rcases reachability_deny.mp denied with reads | ⟨known, _⟩
          · simp [writes] at reads
          · exact absurd unknown known
        · rcases reachability_deny.mp denied with reads | ⟨_, registered⟩
          · simp [writes] at reads
          · have below := free agentTier read
            omega
      obtain ⟨granted, asked⟩ := (scopeGranted_ok firewall cred.tier call.scope).mpr hashable
      exact ⟨_, (decideValid_ok ..).mpr ⟨agentTier, read, granted, (if_neg denied).trans asked, rfl⟩⟩

variable [Packages] [JsonDecoder]

/-- What the firewall relies on in a request with a credential, without a check:
the expiry is a number, with which the clock can be compared; the routing headers
are canonical; the footprint is a text; and, where nothing is wrong with the
credential, its tier is usable. -/
structure Relied (firewall : TrustFirewall) (call : Call) (cred : RequestCredential) : Prop where
  timed : RequestCredential.Timed cred.exp call.now
  canonical : Canonical call.method ∧ Canonical call.request.name
  footprint : ∃ footprint, cred.footprint = .str footprint
  tier : firewall.problems call cred = .ok [] → firewall.TierUsable call cred

theorem answer_decides : (∃ decision, firewall.answer call = .ok decision) ↔
    (call.method ≠ "" → ∀ cred, call.credential = .ok (some cred) → firewall.Relied call cred) := by
  constructor
  · intro ⟨decision, answered⟩ named cred carried
    obtain ⟨timed, canonical, footprint⟩ : RequestCredential.Timed cred.exp call.now ∧
        (Canonical call.method ∧ Canonical call.request.name) ∧ ∃ footprint, cred.footprint = .str footprint := by
      rw [← verify_ok]
      cases checked : firewall.problems call cred with
      | error exception => cases (answer_raises firewall named carried checked).symm.trans answered
      | ok problems => exact ⟨problems, checked⟩
    refine ⟨timed, canonical, footprint, ?_⟩
    intro clean
    obtain ⟨warnings, checks, valid⟩ := answer_valid firewall named carried clean
    exact decideValid_decides.mp ⟨decision, valid ▸ answered⟩
  · intro relied
    cases route firewall call with
    | refused answered => exact ⟨_, answered⟩
    | anonymous _ _ answered => exact ⟨_, answered⟩
    | raises named carried raised =>
      have usable := relied named _ carried
      obtain ⟨problems, checked⟩ := verify_ok.mpr ⟨usable.timed, usable.canonical, usable.footprint⟩
      cases raised.symm.trans checked
    | invalid _ _ _ answered => exact ⟨_, answered⟩
    | valid named carried clean answered =>
      rw [answered]
      exact decideValid_decides.mpr ((relied named _ carried).tier clean)

end Decides

/-! ### An expiry that is a text -/

section Untimed

local instance untimedHost : Host := asciiHost []

local instance untimedPackages : Packages := tablePackages [] []

local instance untimedDecoder : JsonDecoder := flatDecoder

/-- Nobody signed it, and it expires soon. -/
def untimedCredential : RequestCredential where
  agentId := .int 1
  chainId := .int 1
  footprint := .str ""
  tier := .str ""
  scope := .str ""
  bind := .str ""
  exp := .str "soon"
  nonce := .str ""

def untimed : Call where
  headers := {
    entries := [("mcp-method", "tools/list"), ("xcp-request-credential", settle "" untimedCredential.toHeader)]
    distinct := by simp }
  body := []
  serverHost := "random.example"
  now := 1000
  drawn := ""

theorem untimed_plain : untimedCredential.Plain := by
  change ∀ member ∈ untimedCredential.asDict, member.2.isFlat = true
  decide

theorem untimed_carried : untimed.credential = .ok (some untimedCredential) :=
  Call.credential_carried flatDecoder_readsBack untimed_plain rfl

/-- The clock is compared with the text. -/
theorem untimed_raises : ¬ ∃ decision, ({} : TrustFirewall).answer untimed = .ok decision := by
  intro ⟨decision, answered⟩
  have raised : ∃ exception, ({} : TrustFirewall).problems untimed untimedCredential = .error exception := ⟨_, rfl⟩
  obtain ⟨exception, raised⟩ := raised
  cases (answer_raises {} (by decide) untimed_carried raised).symm.trans answered

end Untimed

end TrustFirewall

end Xcp.Firewall
