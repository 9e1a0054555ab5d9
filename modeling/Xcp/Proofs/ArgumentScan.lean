import Xcp.Library.Loads
import Xcp.Security.ArgFirewall

/-! Which strings of an arguments object the argument firewall looks at, where
its schema is inferred from the arguments. It looks at those that are arguments
themselves, and at nothing inside a list. -/

namespace Xcp.ArgFirewall
open Python Regex

/-! ### Strings at any depth -/

mutual
def texts : Json → List String
  | .str text => [text]
  | .list items => itemTexts items
  | .dict members => memberTexts members
  | _ => []
termination_by structural value => value

def itemTexts : List Json → List String
  | [] => []
  | value :: rest => texts value ++ itemTexts rest
termination_by structural items => items

def memberTexts : List (String × Json) → List String
  | [] => []
  | (_, value) :: rest => texts value ++ memberTexts rest
termination_by structural members => members
end

def urlLike (text : String) : Bool := startsWith text "http://" || startsWith text "https://" || containsText text "://"

section Strings
variable [Host]

/-- Without shell metacharacters and signatures of an injection. -/
def Clean (text : String) : Prop := hits shellMeta text = false ∧ hits injectHints text = false

/-- Nothing is wrong with the scheme of a URL, or with its host if it has one. -/
def GoesOut (text : String) : Prop :=
  ∃ url, urlparse text = .ok url ∧ (url.scheme = "http" ∨ url.scheme = "https") ∧
    ssrfHosts.contains (lower url.hostname) = false ∧ isInternalIp (lower url.hostname) = false

def namesHost (text : String) : Bool := (urlparse text).toOption.any (fun url => url.hostname ≠ "")

/-- What a string has to be: a URL of a host outside, or clean. -/
def Safe (text : String) : Prop := (urlLike text = true ∧ GoesOut text ∧ namesHost text = true) ∨ Clean text

/-! ### Findings that block -/

def Unblocked (findings : List Finding) : Prop := ∀ finding ∈ findings, finding.severity ≠ .block

omit [Host] in
@[simp] theorem unblocked_nil : Unblocked [] := List.forall_mem_nil _

omit [Host] in
@[simp] theorem unblocked_append (first second : List Finding) : Unblocked (first ++ second) ↔ Unblocked first ∧ Unblocked second :=
  List.forall_mem_append

omit [Host] in
@[simp] theorem unblocked_findIf_block (condition : Bool) (rule detail : String) :
    Unblocked (findIf condition (block rule detail)) ↔ condition = false := by
  cases condition <;> simp [findIf, Unblocked, block]

omit [Host] in
@[simp] theorem unblocked_findIf_warn (condition : Bool) (rule detail : String) :
    Unblocked (findIf condition { severity := .warn, rule, detail }) := by
  cases condition <;> simp [findIf, Unblocked]

omit [Host] in
@[simp] theorem unblocked_singleton (rule detail : String) : ¬ Unblocked [block rule detail] := by
  simp [Unblocked, block]

theorem unblocked_scanUrl (name text : String) : Unblocked (scanUrl name text) ↔ GoesOut text := by
  unfold scanUrl GoesOut
  cases urlparse text with
  | error exception => simp
  | ok url =>
    simp only [unblocked_append, unblocked_findIf_block, Except.ok.injEq, exists_eq_left']
    simp only [Bool.and_eq_false_iff, Bool.or_eq_false_iff, decide_eq_false_iff_not, not_not, ne_eq]

theorem unblocked_scanString_str (name text : String) : Unblocked (scanString name text .str) ↔ Clean text := by
  have other : ¬ ArgType.str = .url := nofun
  have path : ¬ ArgType.str = .path := nofun
  simp [scanString, other, path, Clean]

/-- What an argument has to be for its own field to pass. -/
def Passes : Json → Prop
  | .str text => if urlLike text then text.length ≤ 4096 ∧ GoesOut text else text.length ≤ 100000 ∧ Clean text
  | .null | .dict _ => False
  | _ => True

theorem unblocked_checkText (name text : String) (limit : Nat) (type : ArgType) :
    Unblocked (checkText name text { type, required := false, maxLength := limit }) ↔
      text.length ≤ limit ∧ Unblocked (scanString name text type) := by
  simp [checkText]

omit [Host] in
theorem inferSpec_str (text : String) : inferSpec (.str text) =
    if urlLike text then { type := .url, required := false, maxLength := 4096 }
    else { type := .str, required := false, maxLength := 100000 } := by
  rw [inferSpec, urlLike]

/-- A field is asked for what its inferred type asks for: nothing of what is inside a list. -/
theorem unblocked_checkField (name : String) (value : Json) : Unblocked (checkField name value (inferSpec value)) ↔ Passes value := by
  cases value with
  | null => simp [checkField, checkScalar, inferSpec, typeFinding, Passes]
  | bool value => simp [checkField, checkScalar, inferSpec, typeFinding, Passes]
  | int value => simp [checkField, checkScalar, inferSpec, typeFinding, Passes]
  | float value => simp [checkField, checkScalar, inferSpec, typeFinding, Passes]
  | list items => simp [checkField, checkScalar, inferSpec, typeFinding, Passes]
  | dict members => simp [checkField, checkScalar, inferSpec, typeFinding, Passes]
  | str text =>
    by_cases like : urlLike text = true
    · have spec : inferSpec (.str text) = { type := .url, required := false, maxLength := 4096 } := by
        rw [inferSpec_str, if_pos like]
      have field : checkField name (.str text) (inferSpec (.str text)) =
          checkText name text { type := .url, required := false, maxLength := 4096 } := by
        simp [spec, checkField, checkScalar, typeFinding, findIf]
      have scan : scanString name text .url = scanUrl name text := by rw [scanString, if_pos rfl]
      rw [field, unblocked_checkText, scan, unblocked_scanUrl, Passes, if_pos like]
    · have spec : inferSpec (.str text) = { type := .str, required := false, maxLength := 100000 } := by
        rw [inferSpec_str, if_neg like]
      have field : checkField name (.str text) (inferSpec (.str text)) =
          checkText name text { type := .str, required := false, maxLength := 100000 } := by
        simp [spec, checkField, checkScalar, typeFinding, findIf]
      rw [field, unblocked_checkText, unblocked_scanString_str, Passes, if_neg like]

/-! ### All arguments -/

variable {args : List (String × Json)}

/-- The arguments are allowed if each of them passes. -/
theorem check_allowed (distinct : (args.map Prod.fst).Nodup) :
    (check (inferArgspec args) false args).allowed = true ↔ ∀ member ∈ args, Passes member.2 := by
  have names : (inferArgspec args).map Prod.fst = args.map Prod.fst := by
    simp [inferArgspec, Function.comp_def]
  have known : args.filter (fun member => !((inferArgspec args).map Prod.fst).contains member.1) = [] := by
    rw [names, List.filter_eq_nil_iff]
    intro member inside
    simpa using ⟨member.2, inside⟩
  have found (member : String × Json) (inside : member ∈ args) : Json.find? args member.1 = some member.2 :=
    (find?_eq_some distinct member.1 member.2).mpr inside
  have whole : (check (inferArgspec args) false args).allowed = true ↔
      ∀ entry ∈ inferArgspec args, Unblocked (checkMember args entry) := by
    simp only [check, known, List.map_nil, List.nil_append, Bool.false_and, Bool.not_false, Bool.and_true, Bool.not_eq_true',
      List.any_eq_false, decide_eq_true_eq, List.mem_flatMap, Unblocked]
    constructor
    · intro passes entry member finding inside
      exact passes finding ⟨entry, member, inside⟩
    · rintro passes finding ⟨entry, member, inside⟩
      exact passes entry member finding inside
  rw [whole, inferArgspec, List.forall_mem_map]
  apply forall₂_congr
  intro member inside
  rw [checkMember, found member inside, unblocked_checkField]

/-- What the firewall does not look at in an argument, and still is as it has to be. -/
def Spared : Json → Prop
  | .list items => ∀ text ∈ itemTexts items, Safe text
  | .str text => urlLike text = true → namesHost text = false → Clean text
  | _ => True

theorem safe_iff_spared {value : Json} (passes : Passes value) : (∀ text ∈ texts value, Safe text) ↔ Spared value := by
  cases value with
  | null => cases passes
  | dict members => cases passes
  | bool value => simp [texts, Spared]
  | int value => simp [texts, Spared]
  | float value => simp [texts, Spared]
  | list items => rw [texts, Spared]
  | str text =>
    rw [texts, List.forall_mem_singleton, Spared, Safe]
    rw [Passes] at passes
    by_cases like : urlLike text = true
    · rw [if_pos like] at passes
      cases named : namesHost text with
      | true => simp [like, passes.2]
      | false => simp [like]
    · rw [if_neg like] at passes
      simp [like, passes.2]

/-- The strings of allowed arguments are safe, at any depth, exactly where that is so of the strings inside lists and of
URLs without a host. All the others have been looked at. -/
theorem allowed_strings_safe_iff (distinct : (args.map Prod.fst).Nodup) :
    ((check (inferArgspec args) false args).allowed = true → ∀ member ∈ args, ∀ text ∈ texts member.2, Safe text) ↔
      ((∀ member ∈ args, Passes member.2) → ∀ member ∈ args, Spared member.2) := by
  rw [check_allowed distinct]
  apply imp_congr_right
  intro passes
  apply forall₂_congr
  intro member inside
  exact safe_iff_spared (passes member inside)

end Strings

section Sample
local instance scanHost : Host := asciiHost []

/-- A command is allowed inside a list, and after a scheme that no host follows. -/
theorem commands_are_allowed :
    (check (inferArgspec [("argv", .list [.str "; rm -rf /"])]) false [("argv", .list [.str "; rm -rf /"])]).allowed = true ∧
    "; rm -rf /" ∈ texts (.list [.str "; rm -rf /"]) ∧ ¬ Safe "; rm -rf /" ∧
    (check (inferArgspec [("target", .str "http:; rm -rf /;://x")]) false [("target", .str "http:; rm -rf /;://x")]).allowed = true ∧
    ¬ Safe "http:; rm -rf /;://x" := by
  have dirty : ¬ Clean "; rm -rf /" ∧ ¬ Clean "http:; rm -rf /;://x" := by
    constructor <;> (intro clean; exact absurd clean.1 (by decide +kernel))
  have hostless : namesHost "http:; rm -rf /;://x" = false := by decide +kernel
  have unlike : urlLike "; rm -rf /" = false := by decide +kernel
  refine ⟨by decide +kernel, by decide, ?_, by decide +kernel, ?_⟩
  · simp [Safe, unlike, dirty.1]
  · simp [Safe, hostless, dirty.2]

theorem plain_query_is_safe : ([("query", Json.str "weather tomorrow")].map Prod.fst).Nodup ∧
    ∀ member ∈ [("query", Json.str "weather tomorrow")], ∀ text ∈ texts member.2, Safe text := by
  have distinct : ([("query", Json.str "weather tomorrow")].map Prod.fst).Nodup := by decide
  have unlike : urlLike "weather tomorrow" = false := by decide +kernel
  refine ⟨distinct, (allowed_strings_safe_iff distinct).mpr ?_ (by decide +kernel)⟩
  simp [Spared, unlike]

end Sample

end Xcp.ArgFirewall
