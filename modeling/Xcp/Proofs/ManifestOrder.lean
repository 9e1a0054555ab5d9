import Mathlib.Data.String.Basic
import Xcp.Library.StableSort
import Xcp.Security.SupplyChain

/-! When two lists of tools have one manifest. The tools are sorted by their names
alone, so those that share a name stay in the order they came in. -/

namespace Xcp.Security
open Checked Python StableSort

/-! ### What a canonical form depends on -/

section Form
variable [Host]

/-- The order of members does not show in a canonical form. -/
theorem canonical_sorted (value : Json) : value.sorted.canonical = value.canonical := by
  induction value using Json.nested_induction with
  | list items ih =>
    have each : ∀ item ∈ items, (Json.canonical ∘ Json.sorted) item = item.canonical := ih
    rw [Json.sorted, sortedItems_eq_map, Json.canonical, Json.canonical, canonicalItems_eq_map, canonicalItems_eq_map,
      List.map_map, List.map_congr_left each]
  | dict members ih =>
    have each : ∀ member ∈ byName members, ((fun member : String × Json => (member.1, member.2.canonical)) ∘
        fun member => (member.1, member.2.sorted)) member = (member.1, member.2.canonical) := by
      intro member inside
      exact congrArg (Prod.mk member.1) (ih member ((List.mem_insertionSort _).mp inside))
    have again : (byName members).insertionSort (fun first second => first.1 ≤ second.1) = byName members := byName_byName members
    rw [sorted_dict, Json.canonical, Json.canonical, canonicalMembers_eq_map, canonicalMembers_eq_map, List.map_map,
      List.map_congr_left each, insertionSort_map_snd, insertionSort_map_snd, again]
    rfl
  | _ => rfl

theorem canonical_congr {first second : Json} (same : first.sorted = second.sorted) : first.canonical = second.canonical := by
  rw [← canonical_sorted, same, canonical_sorted]

end Form

/-! ### Tools and their names -/

/-- What a manifest declares of a tool, up to the order of members. -/
def triple (tool : Tool) : Json × Json × Json :=
  ((tool.get "name" (.str "")).sorted, (tool.get "description" (.str "")).sorted, (tool.get "inputSchema" (.dict [])).sorted)

def Named (tool : Tool) : Prop := ∃ name, tool.get "name" (.str "") = .str name

def nameOf (entry : Json × Json) : String :=
  match entry.1 with
  | .str name => name
  | _ => ""

theorem insertByName_eq {entry : Json × Json} {placed : List (Json × Json)} (named : ∃ name, entry.1 = .str name)
    (others : ∀ other ∈ placed, ∃ name, other.1 = .str name) :
    insertByName entry placed = .ok (place nameOf entry placed) := by
  obtain ⟨name, named⟩ := named
  induction placed with
  | nil => rfl
  | cons other rest ih =>
    obtain ⟨⟨text, known⟩, others⟩ := List.forall_mem_cons.mp others
    have before : less entry.1 other.1 = .ok (decide (name < text)) := by rw [named, known, less]
    have names : nameOf entry = name ∧ nameOf other = text := by simp [nameOf, named, known]
    rw [insertByName, before, ok_bind, place, names.1, names.2]
    by_cases first : name < text
    · simp [first, pure, Except.pure]
    · simp [first, ih others, pure, Except.pure, bind, Except.bind]

theorem placed_eq {entries placed : List (Json × Json)} (named : ∀ entry ∈ entries, ∃ name, entry.1 = .str name)
    (others : ∀ other ∈ placed, ∃ name, other.1 = .str name) :
    entries.foldlM (fun placed entry => insertByName entry placed) placed =
      .ok (entries.foldl (fun placed entry => place nameOf entry placed) placed) := by
  induction entries generalizing placed with
  | nil => rfl
  | cons entry rest ih =>
    obtain ⟨first, later⟩ := List.forall_mem_cons.mp named
    rw [List.foldlM_cons, insertByName_eq first others, ok_bind, List.foldl_cons]
    apply ih later
    intro other member
    rcases List.mem_cons.mp ((perm_place entry placed).mem_iff.mp member) with rfl | member
    · exact first
    · exact others other member

theorem normalized_named {tools : List Tool} (named : ∀ tool ∈ tools, Named tool) :
    ∀ entry ∈ tools.map normalized, ∃ name, entry.1 = .str name := by
  intro entry member
  obtain ⟨tool, inside, rfl⟩ := List.mem_map.mp member
  exact named tool inside

def toolName (tool : Tool) : String := nameOf (normalized tool)

/-- What is hashed, in the order in which it is. -/
def declared (tools : List Tool) : List Json := (sort toolName tools).map (fun tool => (normalized tool).2)

/-- What is hashed of a tool, with its members in order. -/
def declaration (parts : Json × Json × Json) : Json :=
  .dict [("description", parts.2.1), ("inputSchema", parts.2.2), ("name", parts.1)]

theorem declaration_triple (tool : Tool) : (normalized tool).2.sorted = declaration (triple tool) := by
  have first : ¬ "name" ≤ "description" := by decide
  have second : ¬ "name" ≤ "inputSchema" := by decide
  have third : "description" ≤ "inputSchema" := by decide
  simp [normalized, sorted_dict, byName, declaration, triple, first, second, third]

/-- The name is part of what is declared. -/
theorem toolName_eq (tool : Tool) : toolName tool = nameOf ((triple tool).1, .null) := by
  have named (value : Json) : nameOf (value, .null) = nameOf (value.sorted, .null) := by
    cases value <;> simp [nameOf, Json.sorted]
  exact named (tool.get "name" (.str ""))

theorem toolName_of_triple {first second : Tool} (same : triple first = triple second) : toolName first = toolName second := by
  rw [toolName_eq, same, ← toolName_eq]

theorem declaration_injective : Function.Injective declaration := by
  intro first second same
  simp only [declaration, Json.dict.injEq, List.cons.injEq, Prod.mk.injEq, true_and, and_true] at same
  exact Prod.ext same.2.2 (Prod.ext same.1 same.2.1)

section Manifest
variable [Host]

theorem canonicalManifest_eq {tools : List Tool} (named : ∀ tool ∈ tools, Named tool) :
    canonicalManifest tools = (Json.list (declared tools)).canonicalBytes := by
  rw [canonicalManifest, placed_eq (normalized_named named) (List.forall_mem_nil _), ok_bind, ← sort, sort_map, List.map_map]
  rfl

/-- What is declared of a tool has no number with too many digits. -/
def Printable (tool : Tool) : Prop := (normalized tool).2.printable = true

omit [Host] in
theorem printable_declared (tools : List Tool) : (Json.list (declared tools)).printable = true ↔ ∀ tool ∈ tools, Printable tool := by
  have all (items : List Json) : printableItems items = true ↔ ∀ item ∈ items, item.printable = true := by
    induction items with
    | nil => simp [printableItems]
    | cons item rest ih => simp [printableItems, ih]
  rw [Json.printable, all, declared]
  simp only [List.forall_mem_map, (sort_perm _).mem_iff]
  rfl

/-- The lists have one canonical manifest. -/
def SameManifest (tools others : List Tool) : Prop :=
  ∃ bytes, canonicalManifest tools = .ok bytes ∧ canonicalManifest others = .ok bytes

/-- Tools that share a name come in the same order. -/
def InStep (tools others : List Tool) : Prop :=
  ∀ name, (tools.filter (toolName · = name)).map triple = (others.filter (toolName · = name)).map triple

omit [Host] in
/-- The lists in the order of their names are the same if they are in step. -/
theorem sorted_iff (tools others : List Tool) :
    (sort toolName tools).map triple = (sort toolName others).map triple ↔ InStep tools others :=
  map_sort_inj (fun _ _ => toolName_of_triple)

theorem canonical_iff (legible : LegibleFloats) (tools others : List Tool) :
    (Json.list (declared tools)).canonical = (Json.list (declared others)).canonical ↔ InStep tools others := by
  have lists (tools : List Tool) : (Json.list (declared tools)).sorted = .list ((sort toolName tools).map (declaration ∘ triple)) := by
    rw [Json.sorted, sortedItems_eq_map, declared, List.map_map]
    exact congrArg Json.list (List.map_congr_left (fun tool _ => declaration_triple tool))
  rw [← sorted_iff]
  constructor
  · intro same
    have sorted := canonical_inj legible same
    rw [lists, lists, Json.list.injEq, ← List.map_map, ← List.map_map] at sorted
    exact List.map_injective_iff.mpr declaration_injective sorted
  · intro same
    apply canonical_congr
    rw [lists, lists, ← List.map_map, ← List.map_map, same]

theorem canonicalBytes_eq_iff (value other : Json) :
    (∃ bytes, value.canonicalBytes = .ok bytes ∧ other.canonicalBytes = .ok bytes) ↔
      value.canonical = other.canonical ∧ value.printable = true ∧ other.printable = true := by
  rw [Json.canonicalBytes, Json.canonicalBytes]
  constructor
  · intro ⟨bytes, one, another⟩
    split at one
    next printed =>
      split at another
      next shown =>
        have same := (Except.ok.inj one).trans (Except.ok.inj another).symm
        exact ⟨utf8_inj same, printed, shown⟩
      next => cases another
    next => cases one
  · intro ⟨same, printed, shown⟩
    rw [if_pos printed, if_pos shown, same]
    exact ⟨_, rfl, rfl⟩

theorem sameManifest_iff (legible : LegibleFloats) {tools others : List Tool} (named : ∀ tool ∈ tools ++ others, Named tool) :
    SameManifest tools others ↔ InStep tools others ∧ ∀ tool ∈ tools ++ others, Printable tool := by
  obtain ⟨firsts, seconds⟩ := List.forall_mem_append.mp named
  rw [List.forall_mem_append, ← printable_declared, ← printable_declared, SameManifest, canonicalManifest_eq firsts,
    canonicalManifest_eq seconds, canonicalBytes_eq_iff, canonical_iff legible]

omit [Host] in
/-- Lists in step declare the same tools. -/
theorem InStep.perm {tools others : List Tool} (step : InStep tools others) : (tools.map triple).Perm (others.map triple) := by
  have sorted := (sorted_iff tools others).mpr step
  exact (((sort_perm tools).map triple).symm.trans (List.Perm.of_eq sorted)).trans ((sort_perm others).map triple)

omit [Host] in
/-- Tools that have different names are always in step. -/
theorem inStep_of_distinct {tools others : List Tool} (distinct : (tools.map toolName).Nodup)
    (same : (tools.map triple).Perm (others.map triple)) : InStep tools others := by
  intro name
  have picks (tools : List Tool) : (tools.filter (toolName · = name)).map triple =
      (tools.map triple).filter (fun parts => nameOf (parts.1, .null) = name) := by
    rw [List.filter_map]
    refine congrArg (List.map triple) (List.filter_congr ?_)
    intro tool _
    rw [toolName_eq, Function.comp_apply]
  have picked := same.filter (fun parts => nameOf (parts.1, .null) = name)
  rw [← picks, ← picks] at picked
  -- only one tool has the name, so that there is one order
  have few : (tools.filter (toolName · = name)).length ≤ 1 := by
    have apart : ((tools.filter (toolName · = name)).map toolName).Nodup := distinct.sublist (List.filter_sublist.map toolName)
    have all : (tools.filter (toolName · = name)).map toolName = List.replicate (tools.filter (toolName · = name)).length name := by
      rw [List.eq_replicate_iff]
      refine ⟨List.length_map _, ?_⟩
      intro text member
      obtain ⟨tool, inside, rfl⟩ := List.mem_map.mp member
      simpa using (List.mem_filter.mp inside).2
    rw [all] at apart
    exact List.nodup_replicate.mp apart
  rcases Nat.le_one_iff_eq_zero_or_eq_one.mp few with none | one
  · rw [List.length_eq_zero_iff.mp none] at picked ⊢
    exact (List.nil_perm.mp picked).symm
  · obtain ⟨tool, alone⟩ := List.length_eq_one_iff.mp one
    rw [alone] at picked ⊢
    exact List.singleton_perm.mp picked

/-- A manifest is canonical for two lists exactly if, where they declare the same tools, those that share a name come in
the same order, and all numbers can be printed. -/
theorem manifest_canonical_iff (legible : LegibleFloats) {tools others : List Tool} (named : ∀ tool ∈ tools ++ others, Named tool) :
    (SameManifest tools others ↔ (tools.map triple).Perm (others.map triple)) ↔
      ((tools.map triple).Perm (others.map triple) → InStep tools others ∧ ∀ tool ∈ tools ++ others, Printable tool) := by
  rw [sameManifest_iff legible named]
  constructor
  · intro agree same
    exact agree.mpr same
  · intro meets
    exact ⟨fun both => both.1.perm, meets⟩

end Manifest

/-! ### Tools at hand -/

def namedTool (name description : String) : Tool := [("name", .str name), ("description", .str description)]

section Sample
local instance legibleHost : Host := decimalHost []

theorem fetch_weather_canonical :
    SameManifest [namedTool "fetch" "Reads a page.", namedTool "weather" "Forecasts."]
        [namedTool "weather" "Forecasts.", namedTool "fetch" "Reads a page."] ↔
      ([namedTool "fetch" "Reads a page.", namedTool "weather" "Forecasts."].map triple).Perm
        ([namedTool "weather" "Forecasts.", namedTool "fetch" "Reads a page."].map triple) := by
  refine (manifest_canonical_iff (decimalHost_legible []) ?_).mpr ?_
  · simp [Named, namedTool, Tool.get, Json.find?]
  · intro same
    refine ⟨inStep_of_distinct ?_ same, ?_⟩
    · decide
    · intro tool member
      have all : ∀ tool ∈ [namedTool "fetch" "Reads a page.", namedTool "weather" "Forecasts."] ++
          [namedTool "weather" "Forecasts.", namedTool "fetch" "Reads a page."], (normalized tool).2.printable = true := by
        decide
      exact all tool member

/-- Two tools of one name, in either order: the same tools, and two manifests. -/
theorem fetch_order_shows :
    ([namedTool "fetch" "Reads a page.", namedTool "fetch" "Sends a page."].map triple).Perm
        ([namedTool "fetch" "Sends a page.", namedTool "fetch" "Reads a page."].map triple) ∧
      ¬ SameManifest [namedTool "fetch" "Reads a page.", namedTool "fetch" "Sends a page."]
        [namedTool "fetch" "Sends a page.", namedTool "fetch" "Reads a page."] := by
  refine ⟨.swap .., ?_⟩
  rw [sameManifest_iff (decimalHost_legible [])]
  · intro ⟨step, _⟩
    have firsts := step "fetch"
    revert firsts
    decide
  · simp [Named, namedTool, Tool.get, Json.find?]

end Sample

end Xcp.Security
