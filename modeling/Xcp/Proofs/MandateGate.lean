import Xcp.Gateway.Session
import Xcp.Verifier.Mandate

/-! The verifier's mandate gate beside the gateway's own. Both read the same
scopes and the same expiry, but the gateway refuses a mandate that lacks them. -/

namespace Xcp.Gateway
open Checked Python Http Eth

theorem scopeCovers_eq (granted : Json) (requested : String) :
    Verifier.scopeCovers granted (.str requested) = scopeCovers granted requested := by
  cases granted with
  | str text =>
    have given : (Json.str text).asStr "endswith" = .ok text := rfl
    have wanted : (Json.str requested).asStr "startswith" = .ok requested := rfl
    have same : (Json.str text).same (.str requested) = decide (text = requested) := by
      rw [Bool.eq_iff_iff]
      simp
    simp only [Verifier.scopeCovers, scopeCovers, given, wanted, same, ok_bind]
    split <;> rfl
  | _ => rfl

theorem anyCovers_eq (requested : String) (scopes : List Json) :
    Verifier.anyCovers (.str requested) scopes = anyCovers requested scopes := by
  induction scopes with
  | nil => rfl
  | cons granted rest ih => rw [Verifier.anyCovers, anyCovers, scopeCovers_eq, ih]

theorem toInt_of_not_truthy {value : Json} {number : Int} (empty : value.truthy = false) (read : value.toInt = .ok number) :
    number = 0 := by
  cases value with
  | null => cases read
  | bool value =>
    obtain rfl : value = false := empty
    exact (Except.ok.inj read).symm
  | int value =>
    have zero : value = 0 := by simpa [Json.truthy] using empty
    rw [← Except.ok.inj read, zero]
  | float value =>
    obtain rfl : value = .finite 0 := by simpa [Json.truthy] using empty
    exact (Except.ok.inj read).symm
  | str text =>
    obtain rfl : text = "" := by simpa [Json.truthy] using empty
    cases read
  | list items => cases read
  | dict members => cases read

theorem proofNotAfter_of_getInt {proof : Json} {notAfter : Int} (read : proof.getInt "notAfter" 0 = .ok notAfter) :
    proofNotAfter proof = .ok (some notAfter) := by
  cases proof with
  | dict members =>
    have found : (Json.dict members).get "notAfter" = .ok ((Json.find? members "notAfter").getD .null) := rfl
    have other : (Json.dict members).get "notAfter" (.int 0) = .ok ((Json.find? members "notAfter").getD (.int 0)) := rfl
    simp only [Json.getInt, other, ok_bind] at read
    have same : (((Json.find? members "notAfter").getD .null).orElse (.int 0)).toInt = .ok notAfter := by
      cases held : Json.find? members "notAfter" with
      | none =>
        rw [held] at read
        exact read
      | some value =>
        rw [held, Option.getD_some] at read
        rw [Option.getD_some]
        unfold Json.orElse
        split
        next => exact read
        -- the gateway reads what is false as zero, which the verifier gets from `int` itself
        next empty =>
          rw [toInt_of_not_truthy (by simpa using empty) read]
          rfl
    simp only [proofNotAfter, found, ok_bind, same]
    rfl
  | _ => cases read

theorem lapsed_false {now : Rat} {proof : Json} (live : Verifier.lapsed now proof = .ok false) :
    ∃ notAfter, proof.getInt "notAfter" 0 = .ok notAfter ∧ (notAfter ≠ 0 → truncate now ≤ notAfter) := by
  simp only [Verifier.lapsed, bind_eq_ok, andThen_eq_false, decide_eq_true_eq, pure_eq_ok, decide_eq_false_iff_not,
    not_lt] at live
  obtain ⟨notAfter, read, checked⟩ := live
  refine ⟨notAfter, read, ?_⟩
  intro expires
  obtain ⟨value, held, again, parsed, late⟩ := checked expires
  simp only [Json.getInt, Json.get_of_item held, ok_bind, parsed] at read
  rw [← Except.ok.inj read]
  exact late

theorem granted_list {proof : Json} {scope : String} {scopes : List Json} (held : proof.item "mandateScope" = .ok (.list scopes))
    (some : scopes ≠ []) (asked : scope ≠ "") (covered : Verifier.granted (.str scope) proof = .ok true) :
    anyCovers scope scopes = .ok true := by
  have wanted : (Json.str scope).truthy = true := by simpa [Json.truthy] using asked
  have texts : (Json.list scopes).truthy = true := by simpa [Json.truthy] using some
  simp only [Verifier.granted, Json.get_of_item held, ok_bind, wanted, texts, Bool.and_self, if_true, Json.toList] at covered
  rw [← anyCovers_eq]
  exact covered

section Gates
variable [Host] [Packages]

omit [Host] [Packages] in
theorem checkProof_true {now : Rat} {proof : Json} {scope : String} :
    (∃ reason, checkProof now proof scope = .ok (true, reason)) ↔
      ∃ notAfter scopes, proofNotAfter proof = .ok (some notAfter) ∧ 0 < notAfter ∧ truncate now ≤ notAfter ∧
        proof.get "mandateScope" = .ok (.list scopes) ∧ scopes ≠ [] ∧ anyCovers scope scopes = .ok true := by
  constructor
  · intro ⟨reason, done⟩
    simp only [checkProof, bind_eq_ok] at done
    obtain ⟨notAfter?, read, done⟩ := done
    cases notAfter? with
    | none => cases done
    | some notAfter =>
      dsimp only at done
      split at done
      · cases done
      next expires =>
        split at done
        · cases done
        next live =>
          simp only [bind_eq_ok] at done
          obtain ⟨granted, held, done⟩ := done
          split at done
          · cases done
          next scopes some =>
            simp only [bind_eq_ok] at done
            obtain ⟨covered, tried, done⟩ := done
            cases covered with
            | false => cases done
            | true => exact ⟨notAfter, scopes, read, by omega, by omega, held, fun none => some none, tried⟩
          · cases done
  · rintro ⟨notAfter, scopes, read, expires, live, held, some, covered⟩
    refine ⟨.str "", ?_⟩
    rw [checkProof, read, ok_bind]
    dsimp only
    rw [if_neg (by omega), if_neg (by omega), held, ok_bind]
    cases scopes with
    | nil => exact absurd rfl some
    | cons first rest =>
      dsimp only
      rw [covered, ok_bind]
      rfl

/-- A mandate that the verifier accepts passes the gateway's own gate exactly
where it has an expiry and scopes, of which one covers the scope if that is empty. -/
theorem gateway_accepts_iff {config : Config} {world : World} {header : String} {binding : Option Binding} {scope : String}
    {chainId body root proof : Json} {response : Response} (standalone : config.verifyUrl = "") (presented : header ≠ "")
    (decoded : Host.loads header = .ok proof) (answered : Verifier.mandate chainId world.now body = .ok response)
    (reads : Verifier.Reads body root (.str scope) proof) :
    (∃ reason, checkMandate config world header binding scope = .ok (true, reason)) ↔
      (∃ notAfter, proof.getInt "notAfter" 0 = .ok notAfter ∧ 0 < notAfter) ∧
      ∃ scopes, proof.item "mandateScope" = .ok (.list scopes) ∧ scopes ≠ [] ∧
        (scope ≠ "" ∨ anyCovers "" scopes = .ok true) := by
  have accepted := (Verifier.mandate_accepts reads).mp ⟨response, answered⟩
  obtain ⟨notAfter, read, live⟩ := lapsed_false accepted.live
  have gate : checkMandate config world header binding scope = checkProof world.now proof scope := by
    simp [checkMandate, standalone, presented, decoded]
  rw [gate, checkProof_true, proofNotAfter_of_getInt read]
  constructor
  · rintro ⟨_, scopes, same, expires, _, held, some, covered⟩
    obtain rfl : notAfter = _ := by simpa using same
    refine ⟨⟨notAfter, read, expires⟩, scopes, Json.item_of_get held (by simp), some, ?_⟩
    by_cases asked : scope = ""
    · subst asked
      exact .inr covered
    · exact .inl asked
  · rintro ⟨⟨_, read', expires⟩, scopes, held, some, asked⟩
    obtain rfl := Except.ok.inj (read.symm.trans read')
    refine ⟨notAfter, scopes, rfl, expires, live (by omega), Json.get_of_item held .null, some, ?_⟩
    rcases asked with asked | covered
    · exact granted_list held some asked accepted.covered
    · by_cases empty : scope = ""
      · rw [empty]
        exact covered
      · exact granted_list held some empty accepted.covered

end Gates

/-! ### A gate that answers -/

/-- No scope before it in the list is known to cover the requested one. -/
def Tried (requested : String) (scopes : List Json) (granted : Json) : Prop :=
  ∃ before after, scopes = before ++ granted :: after ∧ ∀ earlier ∈ before, scopeCovers earlier requested ≠ .ok true

/-- What the gate reads of a proof has the methods that it calls. -/
structure Answerable (now : Rat) (scope : String) (proof : Json) : Prop where
  object : ∃ members, proof = .dict members
  finite : ∀ negative, proof.get "notAfter" ≠ .ok (.float (.infinite negative))
  texts : ∀ value notAfter scopes, proof.get "notAfter" = .ok value → (value.orElse (.int 0)).toInt = .ok notAfter →
    0 < notAfter → truncate now ≤ notAfter → proof.get "mandateScope" = .ok (.list scopes) →
    ∀ granted, Tried scope scopes granted → ∃ text, granted = .str text

theorem tried_cons {requested : String} {first : Json} {rest : List Json} {granted : Json} :
    Tried requested (first :: rest) granted ↔
      granted = first ∨ scopeCovers first requested ≠ .ok true ∧ Tried requested rest granted := by
  constructor
  · rintro ⟨before, after, same, uncovered⟩
    cases before with
    | nil => exact .inl (List.cons.inj same).1.symm
    | cons earlier before =>
      obtain ⟨rfl, tail⟩ := List.cons.inj same
      exact .inr ⟨uncovered first List.mem_cons_self, before, after, tail,
        fun other member => uncovered other (List.mem_cons_of_mem _ member)⟩
  · rintro (rfl | ⟨uncovered, before, after, rfl, others⟩)
    · exact ⟨[], rest, rfl, by simp⟩
    · exact ⟨first :: before, after, rfl, List.forall_mem_cons.mpr ⟨uncovered, others⟩⟩

/-- The scopes are compared until one covers, and only texts can be. -/
theorem anyCovers_ok {requested : String} {scopes : List Json} :
    (∃ covered, anyCovers requested scopes = .ok covered) ↔
      ∀ granted, Tried requested scopes granted → ∃ text, granted = .str text := by
  induction scopes with
  | nil => simp [anyCovers, Tried]
  | cons first rest ih =>
    cases first with
    | str text =>
      obtain ⟨covers, tried⟩ : ∃ covers, scopeCovers (.str text) requested = .ok covers := ⟨_, rfl⟩
      simp only [anyCovers, tried, ok_bind, tried_cons, forall_eq_or_imp]
      cases covers with
      | true => simp [pure, Except.pure]
      | false => simpa using ih
    | null | bool | int | float | list | dict =>
      constructor
      · rintro ⟨_, covered⟩
        cases covered
      · intro texts
        obtain ⟨_, same⟩ := texts _ (tried_cons.mpr (.inl rfl))
        cases same

theorem toInt_error {value : Json} {exception : Exception} (failed : value.toInt = .error exception)
    (finite : ∀ negative, value ≠ .float (.infinite negative)) :
    exception.kind = .typeError ∨ exception.kind = .valueError := by
  cases value with
  | bool => cases failed
  | int => cases failed
  | float number =>
    cases number with
    | finite => cases failed
    | infinite negative => exact absurd rfl (finite negative)
    | nan =>
      obtain rfl := Except.error.inj failed
      exact .inr rfl
  | str text =>
    simp only [Json.toInt, intOfText] at failed
    split at failed
    · cases failed
    · obtain rfl := Except.error.inj failed
      exact .inr rfl
  | null | list | dict =>
    obtain rfl := Except.error.inj failed
    exact .inl rfl

theorem proofNotAfter_some {proof value : Json} (held : proof.get "notAfter" = .ok value) {notAfter : Int} :
    proofNotAfter proof = .ok (some notAfter) ↔ (value.orElse (.int 0)).toInt = .ok notAfter := by
  simp only [proofNotAfter, held, ok_bind]
  cases (value.orElse (.int 0)).toInt with
  | ok => simp
  | error exception =>
    dsimp only
    split <;> simp

/-- An expiry is read, or found to be none, unless it is infinite. -/
theorem proofNotAfter_ok {proof value : Json} (held : proof.get "notAfter" = .ok value) :
    (∃ notAfter, proofNotAfter proof = .ok notAfter) ↔ ∀ negative, value ≠ .float (.infinite negative) := by
  simp only [proofNotAfter, held, ok_bind]
  by_cases infinite : ∃ negative, value = .float (.infinite negative)
  · obtain ⟨negative, rfl⟩ := infinite
    have overflow : ((Json.float (.infinite negative)).orElse (.int 0)).toInt =
        raise .overflowError "cannot convert float infinity to integer" := rfl
    simp [overflow, raise]
  · have finite : ∀ negative, value ≠ .float (.infinite negative) := fun negative same => infinite ⟨negative, same⟩
    have some : ∀ negative, value.orElse (.int 0) ≠ .float (.infinite negative) := by
      intro negative
      unfold Json.orElse
      split
      · exact finite negative
      · intro same
        cases same
    refine iff_of_true ?_ finite
    cases reading : (value.orElse (.int 0)).toInt with
    | ok notAfter => exact ⟨_, rfl⟩
    | error exception => exact ⟨none, if_pos (toInt_error reading some)⟩

theorem checkProof_ok {now : Rat} {proof : Json} {scope : String} :
    (∃ verdict, checkProof now proof scope = .ok verdict) ↔ Answerable now scope proof := by
  constructor
  · intro answers
    obtain ⟨verdict, done⟩ := answers
    simp only [checkProof, bind_eq_ok] at done
    obtain ⟨expiry, read, done⟩ := done
    have object : ∃ members, proof = .dict members := by
      cases proof with
      | dict members => exact ⟨members, rfl⟩
      | _ => cases read
    refine ⟨object, ?_, ?_⟩
    · intro negative held
      exact (proofNotAfter_ok held).mp ⟨expiry, read⟩ negative rfl
    · intro value notAfter scopes held number positive live listed
      obtain rfl := Except.ok.inj (read.symm.trans ((proofNotAfter_some held).mpr number))
      dsimp only at done
      rw [if_neg (by omega), if_neg (by omega), listed, ok_bind] at done
      apply anyCovers_ok.mp
      cases scopes with
      | nil => exact ⟨false, rfl⟩
      | cons first rest =>
        simp only [bind_eq_ok] at done
        obtain ⟨covered, tried, _⟩ := done
        exact ⟨covered, tried⟩
  · intro answerable
    obtain ⟨⟨members, object⟩, finite, texts⟩ := answerable
    obtain ⟨value, held⟩ : ∃ value, proof.get "notAfter" = .ok value := by rw [object]; exact ⟨_, rfl⟩
    obtain ⟨stated, listed⟩ : ∃ stated, proof.get "mandateScope" = .ok stated := by rw [object]; exact ⟨_, rfl⟩
    obtain ⟨expiry, read⟩ := (proofNotAfter_ok held).mpr (fun negative same => finite negative (same ▸ held))
    simp only [checkProof, read, ok_bind]
    cases expiry with
    | none => exact ⟨_, rfl⟩
    | some notAfter =>
      dsimp only
      split
      · exact ⟨_, rfl⟩
      next positive =>
        split
        · exact ⟨_, rfl⟩
        next live =>
          rw [listed, ok_bind]
          split
          · exact ⟨_, rfl⟩
          next granted some =>
            have number := (proofNotAfter_some held).mp read
            obtain ⟨covered, tried⟩ := anyCovers_ok.mpr (texts value notAfter granted held number (by omega) (by omega) listed)
            rw [tried, ok_bind]
            cases covered <;> exact ⟨_, rfl⟩
          · exact ⟨_, rfl⟩

/-- Without a verifier the gate gives its verdict exactly on proofs whose parts
have the methods that it calls. It raises on the others. -/
theorem gate_answers_iff [Host] {config : Config} (standalone : config.verifyUrl = "") (world : World) (header : String)
    (binding : Option Binding) (scope : String) :
    (∃ verdict, checkMandate config world header binding scope = .ok verdict) ↔
      ∀ proof, header ≠ "" → Host.loads header = .ok proof → Answerable world.now scope proof := by
  unfold checkMandate
  split
  next empty => simp [empty]
  next presented =>
    rw [if_neg (by simpa using standalone)]
    cases decoded : Host.loads header with
    | error => exact iff_of_true ⟨_, rfl⟩ nofun
    | ok proof =>
      apply checkProof_ok.trans
      constructor
      · intro answerable other _ same
        exact Except.ok.inj same ▸ answerable
      · intro answerable
        exact answerable proof presented rfl

/-! ### A mandate without an expiry -/

section Bare

def bareHeader : String := "\x7b\"leaf\":\"0x00\"\x7d"

def bareProof : Json := .dict [("leaf", .str "0x00")]

def datedHeader : String := "\x7b\"leaf\":\"0x00\",\"notAfter\":200,\"mandateScope\":[\"s\"]\x7d"

def datedProof : Json := .dict [("leaf", .str "0x00"), ("notAfter", .int 200), ("mandateScope", .list [.str "s"])]

local instance gateHost : Host := asciiHost [(bareHeader, bareProof), (datedHeader, datedProof)]

local instance gatePackages : Packages := tablePackages [] []

/-- What the gateway asks the verifier for a session without a mandate root. -/
def gateRequest (proof : Json) : Json := .dict [("mandateRoot", .str ""), ("scope", .str "s"), ("proof", proof)]

def gateWorld : World where
  now := 100
  limiter := fun _ => { allowed := true }
  verifier := fun _ _ => raise (.package "ConnectError") ""

theorem gate_reads (proof : Json) : Verifier.Reads (gateRequest proof) (.str "") (.str "s") proof := ⟨rfl, rfl, rfl⟩

theorem dated_accepted : Verifier.Accepted (.int 8453) gateWorld.now (.str "") (.str "s") datedProof :=
  ⟨rfl, by decide, rfl, ⟨none, rfl⟩, by decide⟩

theorem bare_accepted : Verifier.Accepted (.int 8453) gateWorld.now (.str "") (.str "s") bareProof :=
  ⟨rfl, rfl, rfl, ⟨none, rfl⟩, rfl⟩

theorem dated_passes : ∃ reason, checkMandate {} gateWorld datedHeader none "s" = .ok (true, reason) := by
  obtain ⟨response, answered⟩ := (Verifier.mandate_accepts (gate_reads datedProof)).mpr dated_accepted
  refine (gateway_accepts_iff rfl (by decide) ?_ answered (gate_reads datedProof)).mpr
    ⟨⟨200, rfl, by decide⟩, [.str "s"], rfl, by simp, .inl (by decide)⟩
  decide

/-- The verifier accepts a proof that is nothing but a leaf. -/
theorem bare_refused :
    (∃ response, Verifier.mandate (.int 8453) gateWorld.now (gateRequest bareProof) = .ok response) ∧
      ¬ ∃ reason, checkMandate {} gateWorld bareHeader none "s" = .ok (true, reason) := by
  constructor
  · exact (Verifier.mandate_accepts (gate_reads bareProof)).mpr bare_accepted
  · intro ⟨reason, passed⟩
    have refused : checkMandate {} gateWorld bareHeader none "s" =
        .ok (false, .str "mandate has no expiry; an absent expiry is not an infinite one") := by decide
    rw [refused] at passed
    cases passed

theorem dated_answered : ∃ verdict, checkMandate {} gateWorld datedHeader none "s" = .ok verdict := by
  refine (gate_answers_iff rfl gateWorld datedHeader none "s").mpr ?_
  intro proof _ decoded
  obtain rfl : datedProof = proof := Except.ok.inj decoded
  refine ⟨⟨_, rfl⟩, nofun, ?_⟩
  intro _ _ scopes _ _ _ _ listed granted tried
  obtain rfl : [Json.str "s"] = scopes := Json.list.inj (Except.ok.inj listed)
  obtain rfl | ⟨_, _, _, none, _⟩ := tried_cons.mp tried
  · exact ⟨"s", rfl⟩
  · simp at none

end Bare

section Listed

/-- A header that is JSON, and no object. -/
def listedHeader : String := "[]"

local instance listedHost : Host := asciiHost [(listedHeader, .list [])]

theorem listed_unanswered : ¬ ∃ verdict, checkMandate {} gateWorld listedHeader none "s" = .ok verdict := by
  have raised : checkMandate {} gateWorld listedHeader none "s" =
      raise .attributeError "'list' object has no attribute 'get'" := by decide
  rw [raised]
  rintro ⟨_, answered⟩
  cases answered

end Listed

end Xcp.Gateway
