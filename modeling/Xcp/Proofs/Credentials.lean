import Xcp.TrustFirewall.Stateless

/-! What the checks of a credential rest on: when its call has a digest, when its
lifetime can be read, and when there is nothing wrong with it. -/

namespace Xcp.Stateless
open Checked Python Eth

/-! ### Headers -/

/-- A routing header as it must be sent. -/
def Canonical (value : String) : Prop := strip value = value ∧ value.toList.any isControl = false

instance (value : String) : Decidable (Canonical value) := inferInstanceAs (Decidable (_ ∧ _))

theorem canonicalField_cases (value field : String) :
    Canonical value ∧ canonicalField value field = .ok value ∨
      ¬ Canonical value ∧ ∃ text, canonicalField value field = .error ⟨.package "NonCanonicalHeader", text⟩ := by
  unfold canonicalField Canonical
  by_cases trimmed : value ≠ strip value
  · rw [if_pos trimmed]
    exact .inr ⟨fun canonical => trimmed canonical.1.symm, _, rfl⟩
  · rw [if_neg trimmed]
    rw [not_not] at trimmed
    by_cases controls : value.toList.any isControl = true
    · rw [if_pos controls]
      exact .inr ⟨fun canonical => by simp [controls] at canonical, _, rfl⟩
    · rw [if_neg controls]
      exact .inl ⟨⟨trimmed.symm, by simpa using controls⟩, rfl⟩

section Binding
variable [Packages] [Host]

theorem bindDigest_cases (mcpMethod mcpName : String) (body : List Nat) :
    (Canonical mcpMethod ∧ Canonical mcpName) ∧
        bindDigest mcpMethod mcpName body = .ok (digestJson (callDocument mcpMethod mcpName body)) ∨
      ¬ (Canonical mcpMethod ∧ Canonical mcpName) ∧
        ∃ text, bindDigest mcpMethod mcpName body = .error ⟨.package "NonCanonicalHeader", text⟩ := by
  rcases canonicalField_cases mcpMethod "Mcp-Method" with ⟨method, read⟩ | ⟨method, text, refused⟩
  · rcases canonicalField_cases mcpName "Mcp-Name" with ⟨name, read'⟩ | ⟨name, text, refused⟩
    · refine .inl ⟨⟨method, name⟩, ?_⟩
      rw [bindDigest, read, ok_bind, read', ok_bind]
      rfl
    · refine .inr ⟨fun both => name both.2, text, ?_⟩
      rw [bindDigest, read, ok_bind, refused]
      rfl
  · refine .inr ⟨fun both => method both.1, text, ?_⟩
    rw [bindDigest, refused]
    rfl

theorem bindDigest_ok {mcpMethod mcpName : String} {body : List Nat} {bound : String} :
    bindDigest mcpMethod mcpName body = .ok bound ↔
      (Canonical mcpMethod ∧ Canonical mcpName) ∧ digestJson (callDocument mcpMethod mcpName body) = bound := by
  rcases bindDigest_cases mcpMethod mcpName body with ⟨canonical, read⟩ | ⟨foreign, text, refused⟩
  · simp [read, canonical]
  · simp [refused, foreign]

end Binding

/-! ### Lifetimes -/

namespace RequestCredential

/-- An expiry that can be compared with the clock. -/
def Timed [Host] (exp : Json) (now : Int) : Prop :=
  exp.number?.isSome = true ∧ ∀ value, exp = .float value → ∀ negative, Host.toDouble now ≠ .infinite negative

theorem expired_ok {cred : RequestCredential} {now : Int} :
    (∃ late, cred.expired now = .ok late) ↔ cred.exp.number?.isSome = true := by
  unfold expired Json.gt
  constructor
  · intro ⟨late, compared⟩
    obtain ⟨_, number, _, known, _⟩ := Json.compare_eq_ok.mp compared
    simp [known]
  · intro known
    obtain ⟨number, known⟩ := Option.isSome_iff_exists.mp known
    exact ⟨_, Json.compare_eq_ok.mpr ⟨_, number, rfl, known, rfl⟩⟩

theorem gt_ok {left : Json} (number : left.number?.isSome = true) (limit : Int) : ∃ long, left.gt (.int limit) = .ok long := by
  obtain ⟨value, known⟩ := Option.isSome_iff_exists.mp number
  exact ⟨_, Json.compare_eq_ok.mpr ⟨value, _, known, rfl, rfl⟩⟩

section Remaining
variable [Host]

theorem remaining_number {cred : RequestCredential} {now : Int} {left : Json} (read : cred.remaining now = .ok left) :
    left.number?.isSome = true := by
  unfold remaining at read
  cases exp : cred.exp with
  | float value =>
    simp only [exp, bind_eq_ok, pure_eq_ok] at read
    obtain ⟨clock, _, rfl⟩ := read
    rfl
  | bool value =>
    simp only [exp, Json.sub, Json.arithmetic, Json.whole?, Except.ok.injEq] at read
    rw [← read]
    rfl
  | int value =>
    simp only [exp, Json.sub, Json.arithmetic, Json.whole?, Except.ok.injEq] at read
    rw [← read]
    rfl
  | _ =>
    simp only [exp, Json.sub, Json.arithmetic, Json.whole?, Json.number?] at read
    cases read

theorem remaining_ok {cred : RequestCredential} {now : Int} (known : cred.exp.number?.isSome = true) :
    (∃ left, cred.remaining now = .ok left) ↔
      ∀ value, cred.exp = .float value → ∀ negative, Host.toDouble now ≠ .infinite negative := by
  unfold remaining
  cases exp : cred.exp with
  | float value =>
    simp only [bind_eq_ok, pure_eq_ok, Double.ofInt]
    cases clock : Host.toDouble now with
    | infinite negative => simp [raise]
    | finite value => simp
    | nan => simp
  | bool value => simp [Json.sub, Json.arithmetic, Json.whole?]
  | int value => simp [Json.sub, Json.arithmetic, Json.whole?]
  | _ => simp [exp, Json.number?] at known

end Remaining

end RequestCredential

/-! ### Carrying a credential -/

namespace RequestCredential

/-- A credential of texts and of whole numbers that print. -/
def Plain (cred : RequestCredential) : Prop := ∀ member ∈ cred.asDict, member.2.isFlat = true

theorem asDict_fields (cred : RequestCredential) : cred.asDict.map Prod.fst = fields := rfl

theorem fields_nodup : fields.Nodup := by
  decide

/-- The members of a credential make it again, in whichever order they come. -/
theorem ofMembers_perm {cred : RequestCredential} {members : List (String × Json)} (perm : members.Perm cred.asDict)
    (drawn : String) : ofMembers drawn members = .ok cred := by
  have found (name : String) : Json.find? members name = Json.find? cred.asDict name :=
    find?_perm (cred.asDict_fields ▸ fields_nodup) perm name
  have known : members.find? (fun member => !fields.contains member.1) = none := by
    rw [List.find?_eq_none]
    intro member inside
    have name : member.1 ∈ cred.asDict.map Prod.fst := List.mem_map_of_mem (perm.mem_iff.mp inside)
    rw [asDict_fields] at name
    simp [name]
  have complete : requireFields "RequestCredential" ["agent_id", "chain_id", "footprint", "tier", "scope", "bind", "exp"]
      members = .ok () := by
    simp only [requireFields, found]
    exact require_true _ rfl
  rw [ofMembers, refuseUnknown, known]
  simp only [ok_bind, complete, field, found]
  rfl

section Carried
variable [Host] [JsonDecoder] {cred : RequestCredential}

theorem fromHeader_toHeader (readsBack : ReadsBack) (plain : cred.Plain) :
    ∃ header, cred.toHeader = .ok header ∧ header ≠ "" ∧ ∀ drawn, fromHeader drawn header = .ok cred := by
  have distinct : (cred.asDict.map Prod.fst).Nodup := cred.asDict_fields ▸ fields_nodup
  have printed : (Json.dict cred.asDict).canonicalBytes = .ok (utf8 (Json.dict cred.asDict).canonical) := if_pos (printable_flat plain)
  have decoded := Base64.decode_rstrip_encode (utf8_bytes (Json.dict cred.asDict).canonical)
  have loaded := readsBack cred.asDict distinct plain
  have made := ofMembers_perm (byName_perm cred.asDict)
  refine ⟨rstrip (Base64.encode (utf8 (Json.dict cred.asDict).canonical)) '=', ?_, ?_, ?_⟩
  · rw [toHeader, printed]
    rfl
  · apply Base64.rstrip_encode_ne (utf8_bytes _)
    intro blank
    rw [utf8, List.flatMap_eq_nil_iff] at blank
    have brace : '\x7b' ∈ (Json.dict cred.asDict).canonical.toList := by
      rw [← Json.letters, letters_dict]
      exact List.mem_cons_self ..
    exact utf8_isCode.nonempty _ (blank _ brace)
  · intro drawn
    rw [fromHeader, readHeader]
    simp only [decoded, loaded, keywords, ok_bind, made]

end Carried

end RequestCredential

/-! ### Verification -/

section Verify
variable [Packages] [Host] {cred : RequestCredential} {mcpMethod mcpName : String} {body : List Nat} {now maxTtl : Int}
  {expectedSigner : String}

/-- Whether verification comes to an answer rests on the headers and on two
fields of the credential. -/
theorem verify_ok : (∃ problems, verify cred mcpMethod mcpName body now expectedSigner maxTtl = .ok problems) ↔
    RequestCredential.Timed cred.exp now ∧ (Canonical mcpMethod ∧ Canonical mcpName) ∧
      ∃ footprint, cred.footprint = .str footprint := by
  simp only [verify, bind_eq_ok, pure_eq_ok, bindDigest_ok]
  constructor
  · intro answered
    obtain ⟨problems, late, compared, left, read, long, _, bound, ⟨canonical, _⟩, footprint, text, _⟩ := answered
    have known := RequestCredential.expired_ok.mp ⟨late, compared⟩
    refine ⟨⟨known, (RequestCredential.remaining_ok known).mp ⟨left, read⟩⟩, canonical, ?_⟩
    cases given : cred.footprint with
    | str footprint => exact ⟨footprint, rfl⟩
    | _ =>
      rw [given] at text
      cases text
  · intro comparable
    obtain ⟨⟨known, clock⟩, canonical, footprint, given⟩ := comparable
    obtain ⟨late, compared⟩ := RequestCredential.expired_ok.mpr known
    obtain ⟨left, read⟩ := (RequestCredential.remaining_ok known).mpr clock
    obtain ⟨long, limited⟩ := RequestCredential.gt_ok (RequestCredential.remaining_number read) maxTtl
    exact ⟨_, late, compared, left, read, long, limited, _, ⟨canonical, rfl⟩, footprint, given ▸ rfl, rfl⟩

end Verify

end Xcp.Stateless
