import Xcp.Library.Digits
import Xcp.Sdk.Go
import Xcp.Sdk.TypeScript
import Xcp.TrustFirewall.Stateless

/-! The scope of a call in three languages. Each takes from the ends of the two
headers what it holds to be a space. -/

namespace Xcp.ScopeAgreement
open Python (partition stripBy)
open Spaces
open Strip (Bare)

def scopeFor : Language → String → String → String
  | .python => Stateless.scopeFor
  | .javaScript => TypeScript.scopeFor
  | .go => GoSdk.scopeFor

/-! ### A scope and its parts -/

def orUnknown (text : String) : String := if text = "" then "unknown" else text

/-- The family of a scope, and what stands after it. -/
def parts (method name : String) : String × String :=
  if method = "" then ("unknown", "")
  else if method = "tools/call" ∧ name ≠ "" then ("tools", name)
  else if method = "prompts/get" ∧ name ≠ "" then ("prompts", name)
  else (orUnknown (partition method '/').1, orUnknown (partition method '/').2.2)

theorem orUnknown_of_ne {text : String} (present : text ≠ "") : orUnknown text = text := if_neg present

theorem orUnknown_ofList {letters : List Char} (present : letters ≠ []) :
    orUnknown (String.ofList letters) = String.ofList letters := by
  apply orUnknown_of_ne
  intro nothing
  exact present (String.ofList_eq_empty_iff.mp nothing)

/-- The three differ in what they trim and in nothing else. -/
theorem scopeFor_eq (language : Language) (mcpMethod mcpName : String) :
    scopeFor language mcpMethod mcpName =
      "mcp:" ++ (parts (trim language mcpMethod) (trim language mcpName)).1 ++ "/" ++
        (parts (trim language mcpMethod) (trim language mcpName)).2 := by
  have shape (method name : String) :
      (if method = "" then "mcp:unknown/"
        else if method = "tools/call" ∧ name ≠ "" then "mcp:tools/" ++ name
        else if method = "prompts/get" ∧ name ≠ "" then "mcp:prompts/" ++ name
        else if ["tools", "resources", "prompts", "completion", "tasks"].contains (partition method '/').1 then
          "mcp:" ++ (partition method '/').1 ++ "/" ++ orUnknown (partition method '/').2.2
        else "mcp:" ++ orUnknown (partition method '/').1 ++ "/" ++ orUnknown (partition method '/').2.2) =
      "mcp:" ++ (parts method name).1 ++ "/" ++ (parts method name).2 := by
    unfold parts
    split
    · rfl
    · split
      · rfl
      · split
        · rfl
        · split
          next known =>
            have present : (partition method '/').1 ≠ "" := by
              intro nothing
              rw [nothing] at known
              revert known
              decide
            rw [orUnknown_of_ne present]
          · rfl
  cases language with
  | python => exact shape _ _
  | javaScript => exact shape _ _
  | go => exact shape _ _

theorem passed {letters : List Char} (plain : '/' ∉ letters) : ∀ letter ∈ letters, decide (letter ≠ '/') = true := by
  intro letter member
  rw [decide_eq_true_iff]
  rintro rfl
  exact plain member

theorem takeWhile_slash {letters : List Char} (plain : '/' ∉ letters) (rest : List Char) :
    (letters ++ '/' :: rest).takeWhile (fun letter => decide (letter ≠ '/')) = letters := by
  rw [List.takeWhile_append_of_pos (passed plain)]
  simp

/-- A text up to its first slash, and the rest. -/
theorem partition_slash (text : String) :
    (∃ before after, text.toList = before ++ '/' :: after ∧ '/' ∉ before ∧
      partition text '/' = (String.ofList before, true, String.ofList after)) ∨
    '/' ∉ text.toList ∧ partition text '/' = (text, false, "") := by
  by_cases slash : '/' ∈ text.toList
  · obtain ⟨before, after, whole, plain⟩ := List.eq_append_cons_of_mem slash
    refine .inl ⟨before, after, whole, plain, ?_⟩
    simp only [partition, whole, takeWhile_slash plain]
    simp
  · refine .inr ⟨slash, ?_⟩
    have all : text.toList.takeWhile (fun letter => decide (letter ≠ '/')) = text.toList :=
      List.takeWhile_eq_self_iff.mpr (passed slash)
    simp only [partition, all]
    simp

theorem slash_inj {before before' after after' : List Char} (plain : '/' ∉ before) (plain' : '/' ∉ before')
    (same : before ++ '/' :: after = before' ++ '/' :: after') : before = before' ∧ after = after' := by
  have front : before = before' := by
    have cut := congrArg (List.takeWhile (fun letter => decide (letter ≠ '/'))) same
    rwa [takeWhile_slash plain, takeWhile_slash plain'] at cut
  rw [front] at same
  exact ⟨front, (List.cons.inj (List.append_cancel_left same)).2⟩

/-- Scopes are the same where both of their parts are. -/
theorem join_inj {pair other : String × String} (plain : '/' ∉ pair.1.toList) (plain' : '/' ∉ other.1.toList)
    (same : "mcp:" ++ pair.1 ++ "/" ++ pair.2 = "mcp:" ++ other.1 ++ "/" ++ other.2) : pair = other := by
  have letters := congrArg String.toList same
  simp only [String.toList_append, List.append_assoc] at letters
  have rest : pair.1.toList ++ '/' :: pair.2.toList = other.1.toList ++ '/' :: other.2.toList := List.append_cancel_left letters
  obtain ⟨family, after⟩ := slash_inj plain plain' rest
  exact Prod.ext (String.toList_inj.mp family) (String.toList_inj.mp after)

/-- How a scope comes about. -/
inductive Parts (method name : String) : String × String → Prop where
  | absent (absent : method = "") : Parts method name ("unknown", "")
  | tool (call : method = "tools/call") (named : name ≠ "") : Parts method name ("tools", name)
  | prompt (get : method = "prompts/get") (named : name ≠ "") : Parts method name ("prompts", name)
  | split {before after : List Char} (whole : method.toList = before ++ '/' :: after) (plain : '/' ∉ before)
      (unnamed : method = "tools/call" ∨ method = "prompts/get" → name = "") :
      Parts method name (orUnknown (String.ofList before), orUnknown (String.ofList after))
  | whole (present : method ≠ "") (plain : '/' ∉ method.toList) : Parts method name (method, "unknown")

theorem parts_spec (method name : String) : Parts method name (parts method name) := by
  unfold parts
  split
  next absent => exact .absent absent
  next present =>
    split
    next call => exact .tool call.1 call.2
    next tool =>
      split
      next get => exact .prompt get.1 get.2
      next prompt =>
        obtain ⟨before, after, whole, plain, halves⟩ | ⟨plain, halves⟩ := partition_slash method
        · rw [halves]
          refine .split whole plain ?_
          intro known
          by_contra named
          exact known.elim (fun call => tool ⟨call, named⟩) (fun get => prompt ⟨get, named⟩)
        · rw [halves, orUnknown_of_ne present]
          exact .whole present plain

theorem Parts.plain {method name : String} {pair : String × String} (made : Parts method name pair) : '/' ∉ pair.1.toList := by
  cases made with
  | absent | tool | prompt => simp
  | @split before after whole plain =>
    by_cases nothing : before = []
    · simp [nothing, orUnknown]
    · simpa [orUnknown_ofList nothing] using plain
  | whole present plain => exact plain

/-- A method without a slash is its scope's family. -/
theorem Parts.of_plain {method name : String} {pair : String × String} (made : Parts method name pair)
    (plain : '/' ∉ method.toList) : pair = ("unknown", "") ∨ pair = (method, "unknown") := by
  cases made with
  | absent => exact .inl rfl
  | tool call =>
    rw [call] at plain
    exact absurd (by decide) plain
  | prompt get =>
    rw [get] at plain
    exact absurd (by decide) plain
  | split whole =>
    rw [whole] at plain
    simp at plain
  | whole => exact .inr rfl

/-- Scopes are the same where their parts are. -/
theorem scopeFor_eq_iff (language other : Language) (mcpMethod mcpName : String) :
    scopeFor language mcpMethod mcpName = scopeFor other mcpMethod mcpName ↔
      parts (trim language mcpMethod) (trim language mcpName) = parts (trim other mcpMethod) (trim other mcpName) := by
  rw [scopeFor_eq, scopeFor_eq]
  constructor
  · intro same
    have plain := (parts_spec (trim language mcpMethod) (trim language mcpName)).plain
    have plain' := (parts_spec (trim other mcpMethod) (trim other mcpName)).plain
    exact join_inj plain plain' same
  · intro same
    rw [same]

/-! ### What a scope begins and ends with -/

section Ends
variable {language : Language} {method name : String} {pair : String × String}

theorem unknown_bare : Bare (isSpace language) "unknown".toList := bare_of_printed (by simp) language

/-- No scope begins with what its own language takes for a space. -/
theorem Parts.first (made : Parts method name pair) (bare : Bare (isSpace language) method.toList) :
    ∀ letter ∈ pair.1.toList.head?, isSpace language letter = false := by
  cases made with
  | absent => exact unknown_bare.first
  | tool => exact (bare_of_printed (by simp) language : Bare _ "tools".toList).first
  | prompt => exact (bare_of_printed (by simp) language : Bare _ "prompts".toList).first
  | @split before after whole plain =>
    by_cases nothing : before = []
    · rw [nothing]
      exact unknown_bare.first
    · intro letter found
      rw [orUnknown_ofList nothing, String.toList_ofList] at found
      exact bare.first letter (by simp [whole, Option.mem_def.mp found])
  | whole present plain => exact bare.first

/-- Nor does one end so. -/
theorem Parts.last (made : Parts method name pair) (bare : Bare (isSpace language) method.toList)
    (bare' : Bare (isSpace language) name.toList) : ∀ letter ∈ pair.2.toList.getLast?, isSpace language letter = false := by
  cases made with
  | absent => simp
  | tool | prompt => exact bare'.last
  | @split before after whole plain =>
    by_cases nothing : after = []
    · rw [nothing]
      exact unknown_bare.last
    · intro letter found
      rw [orUnknown_ofList nothing, String.toList_ofList] at found
      exact bare.last letter (by simp [whole, List.getLast?_append, List.getLast?_cons, Option.mem_def.mp found])
  | whole present plain => exact unknown_bare.last

end Ends

section Strange
variable {letter : Char} (strange : ¬ (33 ≤ letter.toNat ∧ letter.toNat ≤ 126)) {method name : String} {pair : String × String}
  {rest : List Char}
include strange

/-- A method that begins with what is not printed leaves it in front of its scope. -/
theorem Parts.first_of_strange (made : Parts method name pair) (whole : method.toList = letter :: rest) :
    pair.1.toList.head? = some letter := by
  cases made with
  | absent absent =>
    rw [absent] at whole
    cases whole
  | tool call =>
    rw [call] at whole
    obtain rfl : 't' = letter := (List.cons.inj whole).1
    exact absurd (by decide) strange
  | prompt get =>
    rw [get] at whole
    obtain rfl : 'p' = letter := (List.cons.inj whole).1
    exact absurd (by decide) strange
  | @split before after split plain =>
    rw [whole] at split
    cases before with
    | nil =>
      obtain rfl : letter = '/' := (List.cons.inj split).1
      exact absurd (by decide) strange
    | cons first before =>
      obtain rfl : letter = first := (List.cons.inj split).1
      rw [orUnknown_ofList (List.cons_ne_nil _ _)]
      simp
  | whole present plain => simp [whole]

/-- One that ends so leaves it at the end of its scope, or in front of "/unknown". -/
theorem Parts.last_of_strange (made : Parts method name pair) (whole : method.toList = rest ++ [letter]) :
    pair.2.toList.getLast? = some letter ∨ pair = (method, "unknown") ∧ '/' ∉ method.toList := by
  have last : method.toList.getLast? = some letter := by simp [whole]
  cases made with
  | absent absent =>
    rw [absent] at last
    cases last
  | tool call =>
    rw [call] at last
    obtain rfl : 'l' = letter := Option.some.inj last
    exact absurd (by decide) strange
  | prompt get =>
    rw [get] at last
    obtain rfl : 't' = letter := Option.some.inj last
    exact absurd (by decide) strange
  | @split before after split plain =>
    rw [split, List.getLast?_append, List.getLast?_cons] at last
    left
    by_cases nothing : after = []
    · subst nothing
      obtain rfl : '/' = letter := Option.some.inj last
      exact absurd (by decide) strange
    · rw [orUnknown_ofList nothing, String.toList_ofList, ← last, List.getLast?_eq_some_getLast nothing]
      simp
  | whole present plain => exact .inr ⟨rfl, plain⟩

end Strange

/-! ### One scope -/

/-- Where the three derive one scope they have left one method. -/
theorem method_settled {mcpMethod mcpName : String}
    (agree : ∀ language other, scopeFor language mcpMethod mcpName = scopeFor other mcpMethod mcpName) : Settled mcpMethod := by
  by_contra disputed
  obtain ⟨letter, language, other, dropped, kept, ends⟩ := Strip.disputed_of_not_settled isCommonSpace_iff disputed
  have strange : ¬ (33 ≤ letter.toNat ∧ letter.toNat ≤ 126) := by
    intro printed
    rw [isSpace_printed printed language] at dropped
    cases dropped
  have same := (scopeFor_eq_iff language other mcpMethod mcpName).mp (agree language other)
  have ours := parts_spec (trim language mcpMethod) (trim language mcpName)
  have theirs := parts_spec (trim other mcpMethod) (trim other mcpName)
  rw [← same] at theirs
  have clash {edge : Option Char} (stays : ∀ letter ∈ edge, isSpace language letter = false) : edge ≠ some letter := by
    intro found
    rw [stays letter found] at dropped
    cases dropped
  obtain ⟨rest, left⟩ | ⟨rest, left⟩ := ends
  · rw [← toList_trim] at left
    exact clash (ours.first trim_bare) (theirs.first_of_strange strange left)
  · rw [← toList_trim] at left
    obtain last | ⟨pair, plain⟩ := theirs.last_of_strange strange left
    · exact clash (ours.last trim_bare trim_bare) last
    · have inside : '/' ∉ mcpMethod.toList := fun slash =>
        plain ((mem_trim (isSpace_printed (by decide) other)).mpr slash)
      have ours_plain : '/' ∉ (trim language mcpMethod).toList := fun slash =>
        inside ((mem_trim (isSpace_printed (by decide) language)).mp slash)
      obtain empty | whole := ours.of_plain ours_plain
      · rw [empty] at pair
        simp at pair
      · have method : trim language mcpMethod = trim other mcpMethod := congrArg Prod.fst (whole.symm.trans pair)
        have found : (trim language mcpMethod).toList.getLast? = some letter := by
          rw [method, left, List.getLast?_concat]
        exact clash trim_bare.last found

/-- A method that names a target. -/
def Named (method : String) : Prop := method = "tools/call" ∨ method = "prompts/get"

/-- No space at an end of the method is disputed, nor one of the name where the scope
has the name in it. -/
def Undisputed (mcpMethod mcpName : String) : Prop := Settled mcpMethod ∧ (Named (core mcpMethod) → Settled mcpName)

theorem parts_unnamed {method : String} (unnamed : ¬ Named method) (name name' : String) :
    parts method name = parts method name' := by
  have tool : method ≠ "tools/call" := fun call => unnamed (.inl call)
  have prompt : method ≠ "prompts/get" := fun get => unnamed (.inr get)
  simp [parts, tool, prompt]

/-- What stands for the name in a scope that has it. -/
theorem parts_named {method : String} (named : Named method) :
    ∃ family verb, (verb = "call" ∨ verb = "get") ∧ ∀ name, parts method name = (family, if name = "" then verb else name) := by
  obtain rfl | rfl := named
  · refine ⟨"tools", "call", .inl rfl, fun name => ?_⟩
    by_cases nothing : name = ""
    · subst nothing
      decide
    · simp [parts, nothing]
  · refine ⟨"prompts", "get", .inr rfl, fun name => ?_⟩
    by_cases nothing : name = ""
    · subst nothing
      decide
    · simp [parts, nothing]

/-- Nobody trims a name to nothing where another one leaves a word of ASCII. -/
theorem trim_eq_of_filled {language other : Language} {mcpName verb : String} (known : verb = "call" ∨ verb = "get")
    (same : (if trim language mcpName = "" then verb else trim language mcpName) =
      if trim other mcpName = "" then verb else trim other mcpName) : trim language mcpName = trim other mcpName := by
  have never {first second : Language} (nothing : trim first mcpName = "") : trim second mcpName ≠ verb := by
    intro left
    obtain ⟨letter, member, printed⟩ : ∃ letter ∈ verb.toList, 33 ≤ letter.toNat ∧ letter.toNat ≤ 126 := by
      obtain rfl | rfl := known <;> simp
    rw [← left, mem_trim (isSpace_printed printed second), ← mem_trim (isSpace_printed printed first), nothing] at member
    cases member
  split at same
  next nothing =>
    split at same
    next nothing' => rw [nothing, nothing']
    next => exact absurd same.symm (never nothing)
  next =>
    split at same
    next nothing' => exact absurd same (never nothing')
    next => exact same

/-- The three derive one scope exactly where no space is disputed that the scope
depends on. -/
theorem one_scope_iff (mcpMethod mcpName : String) :
    (Stateless.scopeFor mcpMethod mcpName = TypeScript.scopeFor mcpMethod mcpName ∧
      TypeScript.scopeFor mcpMethod mcpName = GoSdk.scopeFor mcpMethod mcpName) ↔ Undisputed mcpMethod mcpName := by
  have agree_iff : (Stateless.scopeFor mcpMethod mcpName = TypeScript.scopeFor mcpMethod mcpName ∧
      TypeScript.scopeFor mcpMethod mcpName = GoSdk.scopeFor mcpMethod mcpName) ↔
      ∀ language other, scopeFor language mcpMethod mcpName = scopeFor other mcpMethod mcpName := by
    constructor
    · intro ⟨first, second⟩ language other
      cases language <;> cases other <;> simp [scopeFor, first, second]
    · intro agree
      exact ⟨agree .python .javaScript, agree .javaScript .go⟩
  rw [agree_iff]
  constructor
  · intro agree
    have settled := method_settled agree
    refine ⟨settled, fun named => ?_⟩
    obtain ⟨family, verb, known, filled⟩ := parts_named named
    rw [← trim_agree_iff]
    intro language other
    have same := (scopeFor_eq_iff language other mcpMethod mcpName).mp (agree language other)
    rw [trim_of_settled settled, trim_of_settled settled, filled, filled, Prod.mk.injEq] at same
    exact trim_eq_of_filled known same.2
  · intro ⟨settled, named⟩ language other
    rw [scopeFor_eq_iff, trim_of_settled settled, trim_of_settled settled]
    by_cases target : Named (core mcpMethod)
    · rw [trim_of_settled (named target), trim_of_settled (named target)]
    · exact parts_unnamed target _ _

/-- One separator of ASCII is a space in Python alone. -/
theorem separator_splits : ¬ (Stateless.scopeFor "tools/list\u001f" "" = TypeScript.scopeFor "tools/list\u001f" "" ∧
    TypeScript.scopeFor "tools/list\u001f" "" = GoSdk.scopeFor "tools/list\u001f" "") := by decide

end Xcp.ScopeAgreement
