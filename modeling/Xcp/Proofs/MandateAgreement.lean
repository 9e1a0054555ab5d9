import Xcp.Gateway.Mandates
import Xcp.Proofs.MandateGate

/-! The three gateways on one mandate. They read its scopes alike, and differ in
how they read its expiry: as `int` or as `Number`, and against whole seconds or
parts of them. -/

namespace Xcp.Gateway
open Checked Python Http JavaScript

/-! ### Scopes -/

theorem startsWith_dropEnd (text : String) (count : Nat) : startsWith text (dropEnd text count) = true := by
  simp [startsWith, dropEnd, List.take_prefix]

theorem endsWith_slash {text : String} (ends : endsWith text "/*" = true) : endsWith text "*" = true := by
  simp only [endsWith, List.isSuffixOf_iff_suffix] at ends ⊢
  have inside : "*".toList <:+ "/*".toList := ⟨['/'], rfl⟩
  exact inside.trans ends

/-- The callbacks of both gateways are the same, although they are written differently. -/
theorem covers_eq (granted : Value) (scope : String) : ImplNode.covers granted scope = GatewayTs.covers granted scope := by
  cases granted with
  | string text =>
    simp only [ImplNode.covers, GatewayTs.covers]
    by_cases same : text = scope
    · simp [same]
    · by_cases slash : endsWith text "/*" = true
      · simp [same, slash, endsWith_slash slash]
      · by_cases star : endsWith text "*" = true <;> simp [same, slash, star]
  | _ => rfl

theorem someCovers_eq (scope : String) (scopes : List Value) :
    ImplNode.someCovers scope scopes = GatewayTs.scopeCovered scope scopes := by
  induction scopes with
  | nil => rfl
  | cons granted rest ih => rw [ImplNode.someCovers, GatewayTs.scopeCovered, covers_eq, ih]

section Scopes
variable [Engine]

theorem covers_ofJson (granted : Json) (scope : String) :
    GatewayTs.covers (ofJson granted) scope = (scopeCovers granted scope).toOption := by
  cases granted with
  | str text =>
    have given : (Json.str text).asStr "endswith" = .ok text := rfl
    simp only [ofJson, GatewayTs.covers, scopeCovers, given, ok_bind]
    by_cases same : text = scope
    · subst same
      by_cases star : endsWith text "*" = true
      · simp [star, startsWith_dropEnd, Except.toOption, pure, Except.pure]
      · simp [star, Except.toOption, pure, Except.pure]
    · by_cases slash : endsWith text "/*" = true
      · simp [same, slash, endsWith_slash slash, Except.toOption, pure, Except.pure]
      · by_cases star : endsWith text "*" = true <;> simp [same, slash, star, Except.toOption, pure, Except.pure]
  | _ => rfl

theorem scopeCovered_ofJson (scope : String) (scopes : List Json) :
    GatewayTs.scopeCovered scope (scopes.map ofJson) = (anyCovers scope scopes).toOption := by
  induction scopes with
  | nil => rfl
  | cons granted rest ih =>
    rw [List.map_cons, GatewayTs.scopeCovered, anyCovers, covers_ofJson, ih]
    cases scopeCovers granted scope with
    | error exception => rfl
    | ok covers => cases covers <;> rfl

/-- The scopes of a mandate cover a scope. -/
def Covered (document : Json) (scope : String) : Prop :=
  ∃ scopes, document.get "mandateScope" = .ok (.list scopes) ∧ anyCovers scope scopes = .ok true

def Granted (mandate : Value) (scope : String) : Prop :=
  ∃ scopes, mandate.get "mandateScope" = some (.array scopes) ∧ GatewayTs.scopeCovered scope scopes = some true

theorem granted_ofJson (document : Json) (scope : String) : Granted (ofJson document) scope ↔ Covered document scope := by
  cases document with
  | dict members =>
    have member : (Json.dict members).get "mandateScope" = .ok ((Json.find? members "mandateScope").getD .null) := rfl
    simp only [Granted, Covered, get_ofJson_dict, member, Option.some.injEq, Except.ok.injEq]
    cases Json.find? members "mandateScope" with
    | none => simp
    | some value =>
      cases value with
      | list scopes =>
        simp only [Option.map_some, Option.getD_some, ofJson, ofItems_eq_map, Value.array.injEq, Json.list.injEq,
          exists_eq_left', scopeCovered_ofJson]
        cases anyCovers scope scopes <;> simp [Except.toOption]
      | _ => simp [ofJson]
  | _ => simp [Granted, Covered, ofJson, Value.get, Json.get, Json.noAttribute, raise]

end Scopes

/-! ### The expiry -/

section Expiry
variable [Engine]

/-- The expiry that a mandate has, as `Number` reads it. -/
def NumberOf (mandate : Value) (number : Double) : Prop :=
  ∃ value, mandate.get "notAfter" = some value ∧ value.truthy = true ∧ value.toNumber = some number

theorem numberOf_unique {mandate : Value} {number other : Double} (first : NumberOf mandate number)
    (second : NumberOf mandate other) : number = other := by
  obtain ⟨value, held, _, read⟩ := first
  obtain ⟨value', held', _, read'⟩ := second
  obtain rfl := Option.some.inj (held.symm.trans held')
  exact Option.some.inj (read.symm.trans read')

/-- A time that was not over when the second began. -/
def TsLive (now : Rat) (mandate : Value) : Prop :=
  ∃ number, NumberOf mandate number ∧ number ≠ .finite 0 ∧ number ≠ .nan ∧ number.lt (.finite ⌊now⌋) = false

/-- A time that is not known to be over. -/
def NodeLive (now : Rat) (mandate : Value) : Prop := ∃ number, NumberOf mandate number ∧ number.lt (.finite now) = false

theorem ts_accepts {now : Rat} {mandate : Value} {scope : String} :
    GatewayTs.checkDocument now mandate scope = some true ↔ TsLive now mandate ∧ Granted mandate scope := by
  simp only [GatewayTs.checkDocument, Option.bind_eq_bind, Option.bind_eq_some_iff]
  constructor
  · intro ⟨value, held, number, read, done⟩
    split at done
    · cases done
    next timely =>
      simp only [Bool.or_eq_true, not_or, Bool.not_eq_true, Bool.not_eq_false', Value.truthy, Bool.and_eq_true,
        decide_eq_true_eq] at timely
      obtain ⟨⟨nonzero, real⟩, live⟩ := timely
      have given : value.truthy = true := by
        by_contra absent
        simp only [Value.orElse, absent, if_false, Value.toNumber, Option.some.injEq] at read
        exact nonzero read.symm
      rw [Value.orElse, if_pos given] at read
      obtain ⟨scopes, granted, covered⟩ := Option.bind_eq_some_iff.mp done
      refine ⟨⟨number, ⟨value, held, given, read⟩, nonzero, real, live⟩, ?_⟩
      split at covered
      next scopes => exact ⟨scopes, granted, covered⟩
      next => cases covered
  · intro ⟨⟨number, ⟨value, held, given, read⟩, nonzero, real, live⟩, scopes, granted, covered⟩
    refine ⟨value, held, number, by rw [Value.orElse, if_pos given, read], ?_⟩
    rw [if_neg (by simp [Value.truthy, nonzero, real, live])]
    exact Option.bind_eq_some_iff.mpr ⟨_, granted, covered⟩

theorem node_accepts {now : Rat} {mandate : Value} {scope : String} :
    ImplNode.checkDocument now mandate scope = some true ↔ NodeLive now mandate ∧ Granted mandate scope := by
  simp only [ImplNode.checkDocument, Option.bind_eq_bind, Option.bind_eq_some_iff]
  constructor
  · intro ⟨value, held, late, read, done⟩
    split at done
    · cases done
    next timely =>
      unfold ImplNode.expired at read
      split at read
      next given =>
        obtain ⟨number, spelled, rfl⟩ := Option.map_eq_some_iff.mp read
        obtain ⟨scopes, granted, covered⟩ := Option.bind_eq_some_iff.mp done
        refine ⟨⟨number, ⟨value, held, given, spelled⟩, by simpa using timely⟩, ?_⟩
        by_cases some : scopes.truthy = true
        · rw [Value.orElse, if_pos some] at covered
          split at covered
          next scopes => exact ⟨scopes, granted, by rw [← someCovers_eq, covered]⟩
          next => cases covered
        · rw [Value.orElse, if_neg some] at covered
          cases covered
      next => exact absurd (Option.some.inj read).symm timely
  · intro ⟨⟨number, ⟨value, held, given, read⟩, live⟩, scopes, granted, covered⟩
    have timely : ImplNode.expired now value = some false := by
      rw [ImplNode.expired, if_pos given, read, ← live]
      rfl
    refine ⟨value, held, false, timely, ?_⟩
    rw [if_neg (by simp)]
    refine Option.bind_eq_some_iff.mpr ⟨_, granted, ?_⟩
    have given : (Value.array scopes).truthy = true := rfl
    rw [Value.orElse, if_pos given]
    exact (someCovers_eq scope scopes).trans covered

/-- A time that is not over, to the fraction of a second. -/
def Live (now : Rat) (mandate : Value) : Prop :=
  ∃ number, NumberOf mandate number ∧ number ≠ .finite 0 ∧ number ≠ .nan ∧ number.lt (.finite now) = false

/-- No time, or one that was over when the second began. -/
def Dead (now : Rat) (mandate : Value) : Prop :=
  ∀ number, NumberOf mandate number → number.lt (.finite now) = true ∧ (number = .finite 0 ∨ number.lt (.finite ⌊now⌋) = true)

omit [Engine] in
theorem lt_of_lt_floor {now : Rat} {number : Double} (early : number.lt (.finite ⌊now⌋) = true) :
    number.lt (.finite now) = true := by
  cases number with
  | finite value =>
    simp only [Double.lt, decide_eq_true_eq] at early ⊢
    exact early.trans_le (Int.floor_le now)
  | infinite below => exact early
  | nan => cases early

theorem live_iff {now : Rat} {mandate : Value} : Live now mandate ↔ TsLive now mandate ∧ NodeLive now mandate := by
  constructor
  · intro ⟨number, read, nonzero, real, live⟩
    refine ⟨⟨number, read, nonzero, real, ?_⟩, number, read, live⟩
    by_contra early
    rw [lt_of_lt_floor (by simpa using early)] at live
    cases live
  · intro ⟨⟨number, read, nonzero, real, _⟩, other, read', live⟩
    obtain rfl := numberOf_unique read read'
    exact ⟨number, read, nonzero, real, live⟩

theorem dead_iff {now : Rat} {mandate : Value} : Dead now mandate ↔ ¬ TsLive now mandate ∧ ¬ NodeLive now mandate := by
  constructor
  · intro dead
    constructor
    · intro ⟨number, read, nonzero, _, live⟩
      rcases (dead number read).2 with zero | early
      · exact nonzero zero
      · rw [early] at live
        cases live
    · intro ⟨number, read, live⟩
      rw [(dead number read).1] at live
      cases live
  · intro ⟨tsDead, nodeDead⟩ number read
    have late : number.lt (.finite now) = true := by
      by_contra live
      exact nodeDead ⟨number, read, by simpa using live⟩
    refine ⟨late, ?_⟩
    by_contra neither
    rw [not_or, Bool.not_eq_true] at neither
    refine tsDead ⟨number, read, neither.1, ?_, neither.2⟩
    rintro rfl
    cases late

end Expiry

/-! ### The three gates -/

/-- A time that is over for no whole second, as `int` reads it. -/
def PythonLive (now : Rat) (document : Json) : Prop :=
  ∃ notAfter, proofNotAfter document = .ok (some notAfter) ∧ 0 < notAfter ∧ truncate now ≤ notAfter

theorem python_accepts {now : Rat} {document : Json} {scope : String} :
    (∃ reason, checkProof now document scope = .ok (true, reason)) ↔ PythonLive now document ∧ Covered document scope := by
  rw [checkProof_true]
  constructor
  · intro ⟨notAfter, scopes, read, expires, live, held, _, covered⟩
    exact ⟨⟨notAfter, read, expires, live⟩, scopes, held, covered⟩
  · intro ⟨⟨notAfter, read, expires, live⟩, scopes, held, covered⟩
    refine ⟨notAfter, scopes, read, expires, live, held, ?_, covered⟩
    rintro rfl
    cases covered

section Agreement
variable [Host] [Engine]

/-- A text that both decoders take is one document. -/
def AlikeDecoders : Prop :=
  ∀ text document mandate, Host.loads text = .ok document → Engine.parse text = some mandate → mandate = ofJson document

/-- The three gates decide alike on a header. -/
def SameVerdict (config : Config) (world : World) (header : String) (binding : Option Binding) (scope : String) : Prop :=
  ((∃ reason, checkMandate config world header binding scope = .ok (true, reason)) ↔
    GatewayTs.checkMandate world.now header scope = some true) ∧
  (GatewayTs.checkMandate world.now header scope = some true ↔ ImplNode.checkMandate world.now header scope = some true)

/-- Where the scopes cover, `int` and `Number` have the expiry on one side of the
clock. A text that one decoder refuses is refused by the other language too. -/
def SameReading (now : Rat) (scope : String) (read : Option Json) (parsed : Option Value) : Prop :=
  match read, parsed with
  | some document, some mandate =>
    Covered document scope → PythonLive now document ∧ Live now mandate ∨ ¬ PythonLive now document ∧ Dead now mandate
  | some document, none => Covered document scope → ¬ PythonLive now document
  | none, some mandate => Granted mandate scope → Dead now mandate
  | none, none => True

omit [Host] in
theorem scripts_refuse_iff {now : Rat} {mandate : Value} {scope : String} :
    (GatewayTs.checkDocument now mandate scope ≠ some true ∧ ImplNode.checkDocument now mandate scope ≠ some true) ↔
      (Granted mandate scope → Dead now mandate) := by
  rw [Ne, Ne, ts_accepts, node_accepts, dead_iff]
  tauto

/-- The three gateways agree on a mandate exactly where they read it alike. -/
theorem mandates_agree_iff (decoders : AlikeDecoders) {config : Config} {world : World} {header : String}
    {binding : Option Binding} {scope : String} (standalone : config.verifyUrl = "") (enforced : config.posture = "enforce") :
    SameVerdict config world header binding scope ↔
      (header ≠ "" → SameReading world.now scope (Host.loads header).toOption (Engine.parse header)) := by
  by_cases presented : header = ""
  · simp [SameVerdict, checkMandate, GatewayTs.checkMandate, ImplNode.checkMandate, presented, enforced]
  · rw [SameVerdict, GatewayTs.checkMandate, ImplNode.checkMandate, if_neg presented, if_neg presented]
    simp only [ne_eq, presented, not_false_eq_true, forall_const]
    cases read : Host.loads header with
    | ok document =>
      have python : checkMandate config world header binding scope = checkProof world.now document scope := by
        simp [checkMandate, presented, standalone, read]
      cases parsed : Engine.parse header with
      | some mandate =>
        obtain rfl := decoders header document mandate read parsed
        simp only [SameReading, Except.toOption, python, python_accepts, ts_accepts, node_accepts, live_iff, dead_iff,
          granted_ofJson]
        tauto
      | none =>
        simp only [SameReading, Except.toOption, python, python_accepts, Option.some.injEq, Bool.false_eq_true]
        tauto
    | error exception =>
      have python : checkMandate config world header binding scope = .ok (false, .str "malformed mandate proof") := by
        simp [checkMandate, presented, standalone, read]
      cases parsed : Engine.parse header with
      | some mandate =>
        simp only [SameReading, Except.toOption, python, ← scripts_refuse_iff, Except.ok.injEq, Prod.mk.injEq,
          Bool.false_eq_true, false_and, exists_false]
        tauto
      | none => simp [SameReading, Except.toOption, python]

end Agreement

/-! ### Three mandates within one second -/

section Second

def secondHeader (notAfter : String) : String :=
  "\x7b\"notAfter\":" ++ notAfter ++ ",\"mandateScope\":[\"s\"]\x7d"

def secondDocument (notAfter : Json) : Json := .dict [("notAfter", notAfter), ("mandateScope", .list [.str "s"])]

def secondMandate (notAfter : Value) : Value :=
  .object [("notAfter", notAfter), ("mandateScope", .array [.string "s"])]

/-- An expiry ahead, one at the second that has begun, and one in hex. -/
def secondTexts : List (String × Json × Value) :=
  [(secondHeader "200", secondDocument (.int 200), secondMandate (.number (.finite 200))),
   (secondHeader "100", secondDocument (.int 100), secondMandate (.number (.finite 100))),
   (secondHeader "\"0x100\"", secondDocument (.str "0x100"), secondMandate (.string "0x100"))]

local instance secondHost : Host := asciiHost (secondTexts.map (fun entry => (entry.1, entry.2.1)))

local instance secondEngine : Engine where
  parse := fun text => (secondTexts.find? (fun entry => entry.1 = text)).map (fun entry => entry.2.2)
  toDouble := .finite
  numberText := fun _ => ""

def secondWorld : World where
  now := 201 / 2
  limiter := fun _ => { allowed := true }
  verifier := fun _ _ => raise (.package "ConnectError") ""

theorem asciiHost_loads {documents : List (String × Json)} {text : String} {document : Json}
    (listed : Json.find? documents text = some document) : (asciiHost documents).loads text = .ok document := by
  delta asciiHost
  simp only [listed]

theorem second_decoders : AlikeDecoders := by
  intro text document mandate read parsed
  simp only [Engine.parse, Option.map_eq_some_iff] at parsed
  obtain ⟨entry, found, rfl⟩ := parsed
  have listed : Json.find? (secondTexts.map (fun entry => (entry.1, entry.2.1))) text = some entry.2.1 := by
    simp [Json.find?, List.find?_map, found]
  have decoded : Host.loads text = .ok entry.2.1 := asciiHost_loads listed
  rw [decoded, Except.ok.injEq] at read
  subst read
  have member := List.mem_of_find?_eq_some found
  simp only [secondTexts, List.mem_cons, List.not_mem_nil, or_false] at member
  rcases member with rfl | rfl | rfl <;> rfl

theorem second_agree : SameVerdict {} secondWorld (secondHeader "200") none "s" := by
  apply (mandates_agree_iff second_decoders rfl rfl).mpr
  have read : Host.loads (secondHeader "200") = .ok (secondDocument (.int 200)) := rfl
  have parsed : Engine.parse (secondHeader "200") = some (secondMandate (.number (.finite 200))) := rfl
  have live : NumberOf (secondMandate (.number (.finite 200))) (.finite 200) :=
    ⟨.number (.finite 200), rfl, by decide, rfl⟩
  rw [read, parsed]
  intro _ _
  exact .inl ⟨⟨200, rfl, by decide, by decide +kernel⟩, .finite 200, live, by decide, by decide, by decide +kernel⟩

/-- A mandate of this second is refused by impl/node alone, and one whose expiry
is written in hex by Python alone. -/
theorem second_disagree :
    (∃ reason, checkMandate {} secondWorld (secondHeader "100") none "s" = .ok (true, reason)) ∧
      GatewayTs.checkMandate secondWorld.now (secondHeader "100") "s" = some true ∧
      ImplNode.checkMandate secondWorld.now (secondHeader "100") "s" = some false ∧
      checkMandate {} secondWorld (secondHeader "\"0x100\"") none "s" =
        .ok (false, .str "mandate notAfter is not an integer") ∧
      GatewayTs.checkMandate secondWorld.now (secondHeader "\"0x100\"") "s" = some true ∧
      ImplNode.checkMandate secondWorld.now (secondHeader "\"0x100\"") "s" = some true := by
  refine ⟨⟨.str "", ?_⟩, ?_, ?_, ?_, ?_, ?_⟩ <;> decide +kernel

end Second

end Xcp.Gateway
