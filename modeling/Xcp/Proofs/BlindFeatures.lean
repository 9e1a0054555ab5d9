import Xcp.Engine.Features

/-! What the features of a request can tell about its arguments. Two values
that agree in keys, types, buckets of lengths and hints, as deep as they are
walked, cannot be told apart. -/

namespace Xcp.Engine
open Python

inductive IsNumber : Json → Prop
  | int (value : Int) : IsNumber (.int value)
  | float (value : Double) : IsNumber (.float value)

/-- Two values that agree where `left` more levels are walked. Of a list the first item is walked; of an object the
members of its first keys. -/
inductive Alike : Nat → Json → Json → Prop
  | null {left : Nat} : Alike left .null .null
  | bool {left : Nat} (value other : Bool) : Alike left (.bool value) (.bool other)
  | number {left : Nat} {value other : Json} (isNumber : IsNumber value) (numeric : IsNumber other) : Alike left value other
  | str {left : Nat} {text other : String} (lengths : bucket text.length = bucket other.length)
      (hints : hint? text = hint? other) : Alike left (.str text) (.str other)
  | lastList {items others : List Json} (lengths : bucket items.length = bucket others.length) :
      Alike 0 (.list items) (.list others)
  | emptyList {left : Nat} : Alike left (.list []) (.list [])
  | list {left : Nat} {first other : Json} {items others : List Json}
      (lengths : bucket (first :: items).length = bucket (other :: others).length) (firsts : Alike left first other) :
      Alike (left + 1) (.list (first :: items)) (.list (other :: others))
  | lastDict {members others : List (String × Json)} (lengths : bucket members.length = bucket others.length) :
      Alike 0 (.dict members) (.dict others)
  | dict {left : Nat} {members others : List (String × Json)} (lengths : bucket members.length = bucket others.length)
      (keys : walked members = walked others)
      (values : ∀ key value other, key ∈ walked members → Json.find? members key = some value →
        Json.find? others key = some other → Alike left value other) :
      Alike (left + 1) (.dict members) (.dict others)

/-! ### Walked keys -/

theorem mem_of_walked {members : List (String × Json)} {key : String} (walks : key ∈ walked members) :
    key ∈ members.map Prod.fst :=
  (List.mem_insertionSort (· ≤ ·)).mp (List.mem_of_mem_take walks)

theorem find?_of_walked {members : List (String × Json)} {key : String} (walks : key ∈ walked members) :
    ∃ value, Json.find? members key = some value := by
  obtain ⟨member, listed, named⟩ := List.mem_map.mp (mem_of_walked walks)
  have found : (members.find? (fun member => member.1 = key)).isSome = true := by
    apply List.find?_isSome.mpr
    exact ⟨member, listed, by simp [named]⟩
  obtain ⟨first, here⟩ := Option.isSome_iff_exists.mp found
  exact ⟨first.2, by simp [Json.find?, here]⟩

/-- What is computed for each walked key is the same where it is the same for the members of that key. -/
theorem walked_flatMap_congr {members others : List (String × Json)} {tokens : String → Json → List String}
    (keys : walked members = walked others)
    (same : ∀ key value other, key ∈ walked members → Json.find? members key = some value →
      Json.find? others key = some other → tokens key value = tokens key other) :
    (walked members).flatMap (fun key => ((Json.find? members key).map (tokens key)).getD []) =
      (walked others).flatMap (fun key => ((Json.find? others key).map (tokens key)).getD []) := by
  rw [← keys]
  apply List.flatMap_congr
  intro key walks
  obtain ⟨value, found⟩ := find?_of_walked walks
  obtain ⟨other, matched⟩ := find?_of_walked (keys ▸ walks)
  rw [found, matched, Option.map_some, Option.map_some, Option.getD_some, Option.getD_some]
  exact same key value other walks found matched

/-! ### Values -/

section Telling
variable [Host]

theorem number_feature {left : Nat} {key : String} {value : Json} (isNumber : IsNumber value) :
    valueFeature left key value = [s!"{norm key}:num"] := by
  cases isNumber with
  | int value => cases left <;> rfl
  | float value => cases left <;> rfl

theorem valueFeature_eq {left : Nat} {value other : Json} (alike : Alike left value other) :
    ∀ key, valueFeature left key value = valueFeature left key other := by
  induction alike with
  | null => intro key; rfl
  | @bool left value other => intro key; cases left <;> rfl
  | number isNumber numeric => intro key; rw [number_feature isNumber, number_feature numeric]
  | @str left text other lengths hints => intro key; cases left <;> simp only [valueFeature, lengths, hints]
  | lastList lengths => intro key; simp only [valueFeature, lengths]
  | emptyList => intro key; rfl
  | list lengths firsts firstFeature =>
    intro key
    simp only [valueFeature, lengths]
    rw [firstFeature]
  | lastDict lengths => intro key; simp only [valueFeature, lengths]
  | dict lengths keys values valueFeatures =>
    intro key
    simp only [valueFeature, lengths]
    congr 1
    apply walked_flatMap_congr keys
    intro sub value other walks found matched
    exact valueFeatures sub value other walks found matched s!"{key}.{sub}"

/-- The object of the arguments is one level; its members are the next. -/
theorem argumentTokens_eq {arguments others : Json} (alike : Alike maxDepth (argumentsOf arguments) (argumentsOf others)) :
    argumentTokens arguments = argumentTokens others := by
  unfold argumentTokens
  generalize argumentsOf arguments = value at alike ⊢
  generalize argumentsOf others = other at alike ⊢
  cases alike with
  | number isNumber numeric => cases isNumber <;> cases numeric <;> rfl
  | dict lengths keys values =>
    simp only [lengths]
    congr 1
    apply walked_flatMap_congr keys
    intro key value other walks found matched
    exact valueFeature_eq (values key value other walks found matched) key
  | _ => rfl

/-- The values of the arguments do not reach a model: only their keys, types, buckets of lengths and hints do. -/
theorem extract_blind (server tool method scope tier : String) {arguments others : Json}
    (alike : Alike maxDepth (argumentsOf arguments) (argumentsOf others)) :
    extract server tool method scope arguments tier = extract server tool method scope others tier ∧
      (extract server tool method scope arguments tier).length ≤ maxChars := by
  constructor
  · simp only [extract, argumentTokens_eq alike]
  · exact cut_length _ maxChars

end Telling

section Sample

local instance blindHost : Host := asciiHost []

def removal : Json := .dict [("cmd", .str "rm -rf /var"), ("flags", .list [.bool true, .str "quiet"])]

def listing : Json := .dict [("flags", .list [.bool false]), ("cmd", .str "ls -l notes")]

theorem removal_like_listing : Alike maxDepth (argumentsOf removal) (argumentsOf listing) := by
  apply Alike.dict
  · rfl
  · decide
  · intro key value other walks found matched
    have keys : key = "cmd" ∨ key = "flags" := by
      have listed := mem_of_walked walks
      simpa [removal, argumentsOf] using listed
    rcases keys with rfl | rfl
    · cases found
      cases matched
      exact Alike.str (by decide) (by decide)
    · cases found
      cases matched
      exact Alike.list (by decide) (Alike.bool true false)

theorem removal_hidden :
    extract "srv_1" "shell" "tools/call" "mcp:tools" removal "A1" = extract "srv_1" "shell" "tools/call" "mcp:tools" listing "A1" ∧
      (extract "srv_1" "shell" "tools/call" "mcp:tools" removal "A1").length ≤ maxChars :=
  extract_blind "srv_1" "shell" "tools/call" "mcp:tools" "A1" removal_like_listing

end Sample

end Xcp.Engine
