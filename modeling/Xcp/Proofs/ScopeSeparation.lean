import Xcp.Gateway.Calls
import Xcp.Proofs.Credentials
import Xcp.Proofs.ScopeAgreement
import Xcp.Trust.Tiers

/-! Whether the scope of a tool's call can be one that lets read only. The names of
tools and the verbs of the method `tools` stand in one place of a scope. -/

namespace Xcp.ScopeSeparation
open Checked Python ScopeAgreement

/-- What the scope of a call names; nothing names the verb. -/
def called (name : String) : String := if strip name = "" then "call" else strip name

theorem scopeFor_parts (mcpMethod mcpName : String) : Stateless.scopeFor mcpMethod mcpName =
    "mcp:" ++ (parts (strip mcpMethod) (strip mcpName)).1 ++ "/" ++ (parts (strip mcpMethod) (strip mcpName)).2 :=
  scopeFor_eq .python mcpMethod mcpName

theorem parts_call (name : String) : parts "tools/call" name = ("tools", if name = "" then "call" else name) := by
  by_cases unnamed : name = ""
  · subst unnamed
    decide
  · simp [parts, unnamed]

theorem scopeFor_call (name : String) : Stateless.scopeFor "tools/call" name = "mcp:" ++ "tools" ++ "/" ++ called name := by
  have bare : strip "tools/call" = "tools/call" := by decide
  rw [scopeFor_parts, bare, parts_call]
  rfl

theorem toolScope_eq [Host] (tool : Json) : Gateway.toolScope tool = "mcp:" ++ "tools" ++ "/" ++ tool.toStr := rfl

/-! ### Reading -/

/-- Of the scopes that let read only, one names a tool: the verb `list`. -/
theorem read_covers (name : String) :
    (∀ granted ∈ Trust.read, Trust.covers granted ("mcp:" ++ "tools" ++ "/" ++ name) = false) ↔ name ≠ "list" := by
  have words : ∀ granted ∈ Trust.read, granted = "mcp:prompts/*" ∨ endsWith granted "*" = false := by decide +kernel
  have family : Trust.covers "mcp:prompts/*" ("mcp:" ++ "tools" ++ "/" ++ name) = false := by
    have star : endsWith "mcp:prompts/*" "*" = true := by decide +kernel
    have start : dropEnd "mcp:prompts/*" 1 = "mcp:prompts/" := by decide +kernel
    rw [Trust.covers, if_pos star, start, startsWith, Bool.eq_false_iff, ne_eq, List.isPrefixOf_iff_prefix]
    simp
  have named : "mcp:tools/list" = "mcp:" ++ "tools" ++ "/" ++ name ↔ name = "list" := by
    simp [← String.toList_inj, eq_comm]
  constructor
  · rintro none rfl
    exact absurd (none "mcp:tools/list" (by simp [Trust.read])) (by decide +kernel)
  · intro other granted member
    obtain rfl | word := words granted member
    · exact family
    · rw [Trust.covers, word]
      simp only [Bool.false_eq_true, if_false, decide_eq_false_iff_not]
      rintro rfl
      simp [Trust.read, ← String.toList_inj] at member
      exact other (String.toList_inj.mp member)

/-! ### Other methods -/

/-- A method that is no call has a tool's scope: its verb is the name, and without a
verb the name is `unknown`. -/
inductive Shares (name method : String) : Prop
  | verb (named : name ≠ "") (spelt : method = "tools/" ++ name)
  | verbless (unknown : name = "unknown") (bare : method = "tools" ∨ method = "tools/")

theorem shares_of_plain {method name : String} (plain : '/' ∉ method.toList) (shares : Shares name method) :
    method = "tools" ∧ name = "unknown" := by
  cases shares with
  | verb _ spelt =>
    rw [spelt] at plain
    simp at plain
  | verbless unknown bare =>
    obtain whole | slash := bare
    · exact ⟨whole, unknown⟩
    · rw [slash] at plain
      exact absurd plain (by decide)

theorem split_eq_tools {method name : String} {before after : List Char} (whole : method.toList = before ++ '/' :: after)
    (plain : '/' ∉ before) :
    (orUnknown (String.ofList before), orUnknown (String.ofList after)) = ("tools", name) ↔ Shares name method := by
  have tools : '/' ∉ "tools".toList := by decide
  constructor
  · intro same
    obtain ⟨family, verb⟩ := Prod.mk.inj same
    have present : before ≠ [] := by
      rintro rfl
      exact absurd family (by decide)
    rw [orUnknown_ofList present] at family
    obtain rfl : before = "tools".toList := by rw [← family, String.toList_ofList]
    by_cases none : after = []
    · subst none
      exact .verbless verb.symm (.inr (String.toList_inj.mp (by rw [whole]; decide)))
    · rw [orUnknown_ofList none] at verb
      subst verb
      exact .verb (by simpa [← String.toList_inj] using none) (by simp [← String.toList_inj, whole])
  · intro shares
    cases shares with
    | verb named spelt =>
      have split : before ++ '/' :: after = "tools".toList ++ '/' :: name.toList := by
        rw [← whole, spelt]
        simp
      obtain ⟨rfl, rfl⟩ := slash_inj plain tools split
      rw [String.ofList_toList, String.ofList_toList, orUnknown_of_ne named]
      rfl
    | verbless unknown bare =>
      obtain rfl | rfl := bare
      · exact absurd whole fun same => tools (by rw [same]; simp)
      · have split : before ++ '/' :: after = "tools".toList ++ '/' :: [] := by
          rw [← whole]
          decide
        obtain ⟨rfl, rfl⟩ := slash_inj plain tools split
        subst unknown
        decide

theorem parts_eq_tools {method name other : String} (noCall : method ≠ "tools/call") :
    parts method other = ("tools", name) ↔ Shares name method := by
  have made := parts_spec method other
  generalize parts method other = pair at made
  cases made with
  | absent absent =>
    subst absent
    apply iff_of_false
    · simp
    · intro shares
      exact absurd (shares_of_plain (by decide) shares).1 (by decide)
  | tool call => exact absurd call noCall
  | prompt get =>
    subst get
    apply iff_of_false
    · simp
    · intro shares
      cases shares with
      | verb _ spelt => simp [← String.toList_inj] at spelt
      | verbless _ bare => simp at bare
  | split whole plain unnamed => exact split_eq_tools whole plain
  | whole present plain =>
    constructor
    · intro same
      obtain ⟨family, verb⟩ := Prod.mk.inj same
      exact .verbless verb.symm (.inl family)
    · intro shares
      obtain ⟨rfl, rfl⟩ := shares_of_plain plain shares
      rfl

/-! ### Separation -/

/-- With a canonical header nothing is taken from its ends. -/
theorem scopeFor_other {method name : String} (canonical : Stateless.Canonical method) (other : method ≠ "tools/call")
    (named : String) : Stateless.scopeFor method name = "mcp:" ++ "tools" ++ "/" ++ named ↔ Shares named method := by
  rw [scopeFor_parts, canonical.1, ← parts_eq_tools other]
  constructor
  · intro same
    exact join_inj (parts_spec method (strip name)).plain (show '/' ∉ "tools".toList by decide) same
  · intro same
    rw [same]

variable [Host]

/-- The gateway's scopes of delegations and of chains begin otherwise. -/
theorem toolScope_alone (tool body : Json) :
    Gateway.a2aScope body ≠ .ok (Gateway.toolScope tool) ∧ Gateway.t2tScope body ≠ .ok (Gateway.toolScope tool) := by
  constructor
  · intro same
    simp only [Gateway.a2aScope, bind_eq_ok, pure_eq_ok] at same
    obtain ⟨peer, _, same⟩ := same
    simp [toolScope_eq, ToString.toString, ← String.toList_inj] at same
  · intro same
    simp only [Gateway.t2tScope, bind_eq_ok, pure_eq_ok] at same
    obtain ⟨source, _, target, _, same⟩ := same
    simp [toolScope_eq, ToString.toString, ← String.toList_inj] at same

/-- The scope of a call is none that lets read only, unless the tool is named `list`;
and it is the scope of another call only where the verb of this call is the name. -/
theorem scopes_separate_iff :
    (∀ name, (∀ granted ∈ Trust.read, Trust.covers granted (Stateless.scopeFor "tools/call" name) = false) ↔
      strip name ≠ "list") ∧
    (∀ tool : Json, (∀ granted ∈ Trust.read, Trust.covers granted (Gateway.toolScope tool) = false) ↔
      tool.toStr ≠ "list") ∧
    (∀ name method other, Stateless.Canonical name → Stateless.Canonical method → method ≠ "tools/call" →
      (Stateless.scopeFor "tools/call" name ≠ Stateless.scopeFor method other ↔ ¬ Shares name method)) ∧
    (∀ (tool : Json) (method other : String), Stateless.Canonical method → method ≠ "tools/call" →
      (Gateway.toolScope tool ≠ Stateless.scopeFor method other ↔ ¬ Shares tool.toStr method)) ∧
    ∀ tool body : Json, Gateway.a2aScope body ≠ .ok (Gateway.toolScope tool) ∧
      Gateway.t2tScope body ≠ .ok (Gateway.toolScope tool) := by
  refine ⟨fun name => ?_, fun tool => ?_, fun name method other bare canonical noCall => ?_,
    fun tool method other canonical noCall => ?_, toolScope_alone⟩
  · rw [scopeFor_call, read_covers, called]
    split
    next none => simp [none]
    next => rfl
  · rw [toolScope_eq, read_covers]
  · rw [scopeFor_call, called, bare.1, ne_comm, ne_eq, scopeFor_other canonical noCall]
    by_cases unnamed : name = ""
    · subst unnamed
      constructor
      · intro _ shares
        cases shares with
        | verb named _ => exact named rfl
        | verbless unknown => exact absurd unknown (by decide)
      · intro _ shares
        cases shares with
        | verb _ spelt => exact noCall spelt
        | verbless unknown => exact absurd unknown (by decide)
    · rw [if_neg unnamed]
  · rw [toolScope_eq, ne_comm, ne_eq, scopeFor_other canonical noCall]

omit [Host] in
/-- A tool named `list` is called with the scope of listing the tools. -/
theorem list_reads :
    ¬ ((∀ name, ∀ granted ∈ Trust.read, Trust.covers granted (Stateless.scopeFor "tools/call" name) = false) ∧
      ∀ name method other, Stateless.Canonical name → Stateless.Canonical method → Stateless.Canonical other →
        method ≠ "tools/call" → Stateless.scopeFor "tools/call" name ≠ Stateless.scopeFor method other) ∧
    Trust.covers "mcp:tools/list" (Stateless.scopeFor "tools/call" "list") = true ∧
    Stateless.scopeFor "tools/call" "list" = Stateless.scopeFor "tools/list" "" := by
  have covered : Trust.covers "mcp:tools/list" (Stateless.scopeFor "tools/call" "list") = true := by decide +kernel
  refine ⟨?_, covered, by decide +kernel⟩
  rintro ⟨reads, _⟩
  have none := reads "list" "mcp:tools/list" (by simp [Trust.read])
  rw [covered] at none
  cases none

end Xcp.ScopeSeparation
