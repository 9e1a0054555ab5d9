import Mathlib.Data.List.Pairwise
import Xcp.Protocol.Version
import Xcp.Library.Digits
import Xcp.Sdk.TypeScript

/-! Version negotiation in four places. They take from the ends of an entry what
their language holds to be a space, and find the highest version each in its own
way. -/

namespace Xcp.VersionAgreement
open JavaScript (Engine sortTexts codeUnits)
open Python (Host Json splitOn)
open Spaces

/-! ### What is to be agreed on -/

/-- One version has a lower number than another. -/
def Older (version other : String) : Prop :=
  ∃ number number', Version.key version = .ok number ∧ Version.key other = .ok number' ∧ number < number'

/-- The highest version that is listed and supported. -/
structure Highest (listed : List String) (version : String) : Prop where
  member : version ∈ listed
  supported : version ∈ Version.supported
  most : ∀ other ∈ listed, other ∈ Version.supported → ¬ Older version other

/-- The oldest version for a caller that lists nothing, the highest one for any other,
and a refusal where there is none. -/
def Agreed (listed : List String) : Option String → Prop
  | some version => if listed = [] then version = Version.minimum else Highest listed version
  | none => listed ≠ [] ∧ ∀ version ∈ listed, version ∉ Version.supported

def outcome (listed : List String) : Option String :=
  if "0.2" ∈ listed then some "0.2" else if "0.1" ∈ listed ∨ listed = [] then some "0.1" else none

theorem mem_supported {version : String} : version ∈ Version.supported ↔ version = "0.1" ∨ version = "0.2" := by
  simp [Version.supported]

theorem older_iff {version other : String} (first : version ∈ Version.supported) (second : other ∈ Version.supported) :
    Older version other ↔ version = "0.1" ∧ other = "0.2" := by
  have keys : ∀ version ∈ Version.supported, Version.key version = .ok (if version = "0.1" then [0, 1] else [0, 2]) := by
    decide
  have order : ∀ version ∈ Version.supported, ∀ other ∈ Version.supported,
      ((if version = "0.1" then [0, 1] else [0, 2] : List Int) < if other = "0.1" then [0, 1] else [0, 2]) ↔
        version = "0.1" ∧ other = "0.2" := by decide
  rw [← order version first other second]
  constructor
  · intro ⟨number, number', read, read', less⟩
    rw [keys version first] at read
    rw [keys other second] at read'
    rwa [Except.ok.inj read, Except.ok.inj read']
  · intro less
    exact ⟨_, _, keys version first, keys other second, less⟩

theorem highest_iff (listed : List String) (version : String) :
    Highest listed version ↔ version = "0.2" ∧ "0.2" ∈ listed ∨ version = "0.1" ∧ "0.1" ∈ listed ∧ "0.2" ∉ listed := by
  constructor
  · intro highest
    obtain rfl | rfl := mem_supported.mp highest.supported
    · refine .inr ⟨rfl, highest.member, fun newer => ?_⟩
      have new : "0.2" ∈ Version.supported := by decide
      exact highest.most "0.2" newer new ((older_iff highest.supported new).mpr ⟨rfl, rfl⟩)
    · exact .inl ⟨rfl, highest.member⟩
  · rintro (⟨rfl, member⟩ | ⟨rfl, member, none⟩)
    · refine { member, supported := by decide, most := fun other _ supported older => ?_ }
      have old := ((older_iff (by decide) supported).mp older).1
      revert old
      decide
    · refine { member, supported := by decide, most := fun other listed supported older => ?_ }
      obtain rfl := ((older_iff (by decide) supported).mp older).2
      exact none listed

theorem outcome_of_listed {listed : List String} (present : listed ≠ []) (answer : Option String) :
    Agreed listed answer ↔ answer = outcome listed := by
  cases answer with
  | none =>
    constructor
    · intro ⟨_, unsupported⟩
      have old : "0.1" ∉ listed := fun member => unsupported "0.1" member (by decide)
      have new : "0.2" ∉ listed := fun member => unsupported "0.2" member (by decide)
      simp [outcome, old, new, present]
    · intro refused
      refine ⟨present, fun version member known => ?_⟩
      obtain rfl | rfl := mem_supported.mp known <;> simp [outcome, member] at refused
      split at refused <;> cases refused
  | some version =>
    simp only [Agreed, if_neg present, highest_iff, outcome]
    by_cases new : "0.2" ∈ listed <;> by_cases old : "0.1" ∈ listed <;> simp [new, old, present]

theorem agreed_iff (listed : List String) (answer : Option String) : Agreed listed answer ↔ answer = outcome listed := by
  by_cases nothing : listed = []
  · subst nothing
    cases answer with
    | none => simp [Agreed, outcome]
    | some version => simp [Agreed, outcome, Version.minimum]
  · exact outcome_of_listed nothing answer

/-! ### The highest of the common versions -/

/-- The one of two supported versions that is not older. -/
def newer (version other : String) : String := if other = "0.2" then other else version

theorem newer_supported {version other : String} (first : version ∈ Version.supported) (second : other ∈ Version.supported) :
    newer version other ∈ Version.supported := by
  unfold newer
  split
  · exact second
  · exact first

/-- Where the newer version wins each time, the newest wins. -/
theorem foldl_newer {first : String} {rest : List String} (known : first ∈ Version.supported)
    (others : ∀ other ∈ rest, other ∈ Version.supported) :
    rest.foldl newer first = if "0.2" ∈ first :: rest then "0.2" else "0.1" := by
  induction rest generalizing first with
  | nil =>
    revert first
    decide
  | cons other rest ih =>
    obtain ⟨head, tail⟩ := List.forall_mem_cons.mp others
    rw [List.foldl_cons, ih (newer_supported known head) tail]
    by_cases new : other = "0.2"
    · simp [newer, new]
    · have same : "0.2" ∈ first :: other :: rest ↔ "0.2" ∈ first :: rest := by
        simp [Ne.symm new]
      simp only [newer, if_neg new, same]

/-- A reduction that takes the newer version each time. -/
theorem foldl_of_picks {pick : String → String → String}
    (picks : ∀ version ∈ Version.supported, ∀ other ∈ Version.supported, pick version other = newer version other)
    {first : String} {rest : List String} (known : first ∈ Version.supported)
    (others : ∀ other ∈ rest, other ∈ Version.supported) : rest.foldl pick first = rest.foldl newer first := by
  induction rest generalizing first with
  | nil => rw [List.foldl_nil, List.foldl_nil]
  | cons other rest ih =>
    obtain ⟨head, tail⟩ := List.forall_mem_cons.mp others
    rw [List.foldl_cons, List.foldl_cons, picks first known other head]
    exact ih (newer_supported known head) tail

/-- The newest of the common versions, where there are any. -/
theorem outcome_of_common {listed : List String} (present : listed ≠ []) :
    outcome listed =
      if listed.filter Version.supported.contains = [] then none
      else some (if "0.2" ∈ listed.filter Version.supported.contains then "0.2" else "0.1") := by
  have new : "0.2" ∈ listed.filter Version.supported.contains ↔ "0.2" ∈ listed := by
    simp [List.mem_filter, Version.supported]
  have nothing : listed.filter Version.supported.contains = [] ↔ "0.1" ∉ listed ∧ "0.2" ∉ listed := by
    rw [List.filter_eq_nil_iff]
    constructor
    · intro refused
      exact ⟨fun member => refused "0.1" member (by decide), fun member => refused "0.2" member (by decide)⟩
    · intro ⟨old, newest⟩ version member
      have other : version ≠ "0.1" ∧ version ≠ "0.2" := by
        constructor
        · rintro rfl
          exact old member
        · rintro rfl
          exact newest member
      simp [Version.supported, other]
  rw [outcome]
  simp only [new, nothing]
  by_cases newest : "0.2" ∈ listed <;> by_cases old : "0.1" ∈ listed <;> simp [newest, old, present]

/-- All that is common is supported. -/
theorem common_supported {listed : List String} :
    ∀ version ∈ listed.filter Version.supported.contains, version ∈ Version.supported := by
  intro version member
  simpa using (List.mem_filter.mp member).2

/-! ### Python -/

theorem greatest_eq {first : String} {rest : List String} (known : first ∈ Version.supported)
    (others : ∀ other ∈ rest, other ∈ Version.supported) : Version.greatest first rest = .ok (rest.foldl newer first) := by
  have pick : ∀ best ∈ Version.supported, ∀ version ∈ Version.supported,
      Version.greatest best [version] = .ok (newer best version) := by decide
  induction rest generalizing first with
  | nil => rfl
  | cons other rest ih =>
    obtain ⟨head, tail⟩ := List.forall_mem_cons.mp others
    have step : Version.greatest first (other :: rest) = Version.greatest first [other] >>= fun best => Version.greatest best rest := by
      simp [Version.greatest]
    rw [step, pick first known other head]
    exact ih (newer_supported known head) tail

theorem mapM_strings {α : Type} (read : Json → Python.Raises α) (value : String → α)
    (reads : ∀ text, read (.str text) = .ok (value text)) (texts : List String) : (texts.map Json.str).mapM read = .ok (texts.map value) := by
  rw [Checked.mapM_eq_ok, List.forall₂_map_left_iff, List.forall₂_map_right_iff, List.forall₂_same]
  exact fun text _ => reads text

theorem common_strings (listed : List String) :
    Version.common (listed.map Json.str) = listed.filter Version.supported.contains := by
  rw [Version.common, List.filterMap_map, ← List.filterMap_eq_filter]
  apply List.filterMap_congr
  intro version _
  simp [Option.guard]

section Raising
variable [Host]

theorem noCommonVersion_strings (listed : List String) :
    ∃ exception, Version.noCommonVersion (listed.map Json.str) = .error exception ∧ Version.isVersionError exception = true := by
  have sorted : ∃ values, Version.sorted (listed.map Json.str) = .ok values := by
    have texts := mapM_strings (fun value => value.asStr "") id (fun _ => rfl) listed
    rw [Version.sorted, texts]
    exact ⟨_, rfl⟩
  obtain ⟨values, sorted⟩ := sorted
  rw [Version.noCommonVersion, sorted]
  exact ⟨_, rfl, rfl⟩

/-- What Python makes of a list of strings that are not empty. -/
theorem negotiate_strings {listed : List String} (full : "" ∉ listed) (present : listed ≠ []) :
    Version.negotiate (listed.map Json.str) =
      match listed.filter Version.supported.contains with
      | [] => Version.noCommonVersion (listed.map Json.str)
      | first :: rest => Version.greatest first rest := by
  have said : (listed.map Json.str).filter Json.truthy = listed.map Json.str := by
    rw [List.filter_eq_self]
    intro value member
    obtain ⟨text, inside, rfl⟩ := List.mem_map.mp member
    have present : text ≠ "" := fun nothing => full (nothing ▸ inside)
    simp [Json.truthy, present]
  have hashed : (listed.map Json.str).mapM Json.key = .ok (listed.map Json.str) :=
    mapM_strings Json.key Json.str Json.key_str listed
  rw [Version.negotiate, said, ← common_strings]
  cases values : listed.map Json.str with
  | nil => exact absurd (List.map_eq_nil_iff.mp values) present
  | cons value rest =>
    rw [values] at hashed
    simp only [hashed]
    rfl

theorem python_negotiate {listed : List String} (full : "" ∉ listed) :
    (Version.negotiate (listed.map Json.str)).toOption = outcome listed ∧
      ∀ exception, Version.negotiate (listed.map Json.str) = .error exception → Version.isVersionError exception = true := by
  by_cases nothing : listed = []
  · subst nothing
    exact ⟨rfl, by simp [Version.negotiate]⟩
  · rw [negotiate_strings full nothing, outcome_of_common nothing]
    have supported := @common_supported listed
    cases shared : listed.filter Version.supported.contains with
    | nil =>
      obtain ⟨exception, raised, own⟩ := noCommonVersion_strings listed
      simp only [raised]
      refine ⟨rfl, fun other same => ?_⟩
      rwa [← Except.error.inj same]
    | cons first others =>
      rw [shared] at supported
      obtain ⟨known, rest⟩ := List.forall_mem_cons.mp supported
      simp only [greatest_eq known rest, foldl_newer known rest]
      exact ⟨rfl, fun exception raised => by cases raised⟩

end Raising

/-! ### JavaScript -/

/-- The last of the sorted versions is the newest. -/
theorem sortTexts_last {texts : List String} (present : texts ≠ []) (supported : ∀ text ∈ texts, text ∈ Version.supported) :
    (sortTexts texts).getLastD "" = if "0.2" ∈ texts then "0.2" else "0.1" := by
  have perm : (sortTexts texts).Perm texts := List.perm_insertionSort _ texts
  have filled : sortTexts texts ≠ [] := by
    intro nothing
    rw [nothing] at perm
    exact present perm.symm.eq_nil
  have last : (sortTexts texts).getLast filled ∈ texts := perm.mem_iff.mp (List.getLast_mem filled)
  have largest {text : String} (member : text ∈ texts) : codeUnits text ≤ codeUnits ((sortTexts texts).getLast filled) := by
    have total : Std.Total (fun first second => codeUnits first ≤ codeUnits second) :=
      ⟨fun first second => le_total (codeUnits first) (codeUnits second)⟩
    have trans : IsTrans String (fun first second => codeUnits first ≤ codeUnits second) :=
      ⟨fun first second third below above => le_trans below above⟩
    have sorted := List.pairwise_insertionSort (fun first second => codeUnits first ≤ codeUnits second) texts
    have refl : Std.Refl (fun first second => codeUnits first ≤ codeUnits second) := ⟨fun text => le_refl (codeUnits text)⟩
    exact sorted.rel_getLast (perm.mem_iff.mpr member)
  rw [List.getLastD_eq_getLast?, List.getLast?_eq_some_getLast filled, Option.getD_some]
  obtain old | new := mem_supported.mp (supported _ last)
  · by_cases newest : "0.2" ∈ texts
    · have order : ¬ codeUnits "0.2" ≤ codeUnits "0.1" := by decide
      rw [old] at largest
      exact absurd (largest newest) order
    · rw [if_neg newest, old]
  · rw [new] at last ⊢
    rw [if_pos last]

theorem outcome_sorted {listed : List String} (present : listed ≠ []) :
    outcome listed =
      if listed.filter Version.supported.contains = [] then none
      else some ((sortTexts (listed.filter Version.supported.contains)).getLastD "") := by
  rw [outcome_of_common present]
  by_cases shared : listed.filter Version.supported.contains = []
  · rw [if_pos shared, if_pos shared]
  · rw [if_neg shared, if_neg shared, sortTexts_last shared common_supported]

theorem gatewayTs_negotiate (header : String) :
    (GatewayTs.negotiate header).toOption = outcome (TypeScript.parseAccept header) := by
  have listed : ((splitOn header ',').map JavaScript.trim).filter (· ≠ "") = TypeScript.parseAccept header := rfl
  rw [GatewayTs.negotiate, listed]
  by_cases nothing : TypeScript.parseAccept header = []
  · rw [if_pos nothing, nothing]
    rfl
  · rw [if_neg nothing, outcome_sorted nothing]
    by_cases shared : (TypeScript.parseAccept header).filter Version.supported.contains = []
    · rw [if_pos shared]
      exact congrArg Except.toOption (if_pos shared)
    · rw [if_neg shared]
      exact congrArg Except.toOption (if_neg shared)

theorem implNode_negotiate (header : String) : ImplNode.negotiate header = outcome (TypeScript.parseAccept header) := by
  have listed : ((splitOn header ',').map JavaScript.trim).filter (· ≠ "") = TypeScript.parseAccept header := rfl
  rw [ImplNode.negotiate, listed]
  by_cases nothing : TypeScript.parseAccept header = []
  · rw [if_pos nothing, nothing]
    rfl
  · rw [if_neg nothing, outcome_sorted nothing]
    rfl

section Numbers
variable [Engine]

/-- A double holds a small whole number as it is. -/
def Exact : Prop := ∀ value : Int, value.natAbs ≤ 2 ^ 53 → Engine.toDouble value = .finite value

variable (exact : Exact)
include exact

/-- The second number of a version. -/
theorem versionKey_of_digits {version minor : String} {value : Nat}
    (pieces : splitOn ((splitOn (JavaScript.trim version) '-').headD "") '.' = ["0", minor])
    (decimal : Digits.Decimal minor.toList) (worth : Digits.value minor.toList = value) (small : value ≤ 9) :
    TypeScript.versionKey version = [.finite 0, .finite value] := by
  have zero : JavaScript.numberOfText "0" = .finite 0 := by
    have read : JavaScript.numberOfText "0" = Engine.toDouble ((0 : Int) : Rat) :=
      Digits.javaScript_numberOfText (Digits.decimal_of_digit '0' (by simp) rfl)
    rw [read, exact 0 (by decide)]
    rfl
  have number : JavaScript.numberOfText minor = .finite value := by
    have read := Digits.javaScript_numberOfText decimal
    have rounded := exact value (by omega)
    rw [worth] at read
    rw [read]
    exact_mod_cast rounded
  rw [TypeScript.versionKey, pieces, List.map_cons, List.map_cons, List.map_nil, zero, number]

/-- Versions that differ in the second number compare by it. -/
theorem compareVersions_of_keys {version other : String} {first second : Nat} (small : first ≤ 9 ∧ second ≤ 9)
    (key : TypeScript.versionKey version = [.finite 0, .finite first])
    (key' : TypeScript.versionKey other = [.finite 0, .finite second]) (distinct : first ≠ second) :
    TypeScript.compareVersions version other = .finite ((first : Int) - second : Int) := by
  have rounded := exact ((first : Int) - second) (by omega)
  have difference : JavaScript.subtract (.finite first) (.finite second) = .finite ((first : Int) - second : Int) := by
    rw [JavaScript.subtract, ← rounded]
    push_cast
    rfl
  have places : (List.range 2).find? (fun index =>
      !JavaScript.strictlyEqual ([.finite 0, .finite (first : Rat)].getD index (.finite 0))
        ([.finite 0, .finite (second : Rat)].getD index (.finite 0))) = some 1 := by
    simp [List.range_succ, JavaScript.strictlyEqual, distinct]
  delta TypeScript.compareVersions
  simp only [key, key', List.length_cons, List.length_nil, Nat.zero_add, Nat.reduceAdd, max_self, places]
  exact difference

theorem compareVersions_picks : ∀ version ∈ Version.supported, ∀ other ∈ Version.supported,
    (if (Python.Double.finite 0).le (TypeScript.compareVersions version other) then version else other) =
      newer version other := by
  have old : TypeScript.versionKey "0.1" = [.finite 0, .finite (1 : Nat)] :=
    versionKey_of_digits exact (by decide : _ = ["0", "1"])
      (Digits.decimal_of_digit '1' (by simp) rfl) rfl (by decide)
  have new : TypeScript.versionKey "0.2" = [.finite 0, .finite (2 : Nat)] :=
    versionKey_of_digits exact (by decide : _ = ["0", "2"])
      (Digits.decimal_of_digit '2' (by simp) rfl) rfl (by decide)
  intro version first other second
  obtain rfl | rfl := mem_supported.mp first
  · obtain rfl | rfl := mem_supported.mp second
    · simp [newer]
    · rw [compareVersions_of_keys exact (by decide) old new (by decide)]
      decide
  · obtain rfl | rfl := mem_supported.mp second
    · rw [compareVersions_of_keys exact (by decide) new old (by decide)]
      decide
    · simp [newer]

theorem typeScript_negotiate {listed : List String} (full : "" ∉ listed) :
    ((TypeScript.negotiate listed).map (·.version)).toOption = outcome listed := by
  have said : listed.filter (fun version => decide (version ≠ "")) = listed := by
    rw [List.filter_eq_self]
    intro version member
    have present : version ≠ "" := fun nothing => full (nothing ▸ member)
    simpa using present
  by_cases nothing : listed = []
  · subst nothing
    rfl
  · rw [TypeScript.negotiate, said, outcome_of_common nothing]
    have supported := @common_supported listed
    simp only [if_neg nothing]
    change ∀ version ∈ listed.filter TypeScript.supported.contains, version ∈ Version.supported at supported
    change _ = if listed.filter TypeScript.supported.contains = [] then none else _
    cases shared : listed.filter TypeScript.supported.contains with
    | nil => rfl
    | cons first others =>
      rw [shared] at supported
      obtain ⟨known, rest⟩ := List.forall_mem_cons.mp supported
      simp only [foldl_of_picks (compareVersions_picks exact) known rest, foldl_newer known rest]
      have shared' : listed.filter Version.supported.contains = first :: others := shared
      rw [if_neg (List.cons_ne_nil _ _), shared', Except.map, Except.toOption]

end Numbers

/-! ### One version -/

/-- The four agree on what they make of a header. -/
structure OneVersion [Host] [Engine] (header : String) (answer : Option String) : Prop where
  python : (Version.negotiate ((Version.parseAccept header).map Json.str)).toOption = answer
  refused : ∀ exception, Version.negotiate ((Version.parseAccept header).map Json.str) = .error exception →
    Version.isVersionError exception = true
  typeScript : ((TypeScript.negotiate (TypeScript.parseAccept header)).map (·.version)).toOption = answer
  gatewayTs : (GatewayTs.negotiate header).toOption = answer
  implNode : ImplNode.negotiate header = answer
  highest : Agreed (Version.parseAccept header) answer

/-- An entry of the header, without what a language holds to be space around it, is a
version. -/
def Lists (language : Language) (header version : String) : Prop :=
  ∃ entry ∈ splitOn header ',', trim language entry = version

instance (language : Language) (header version : String) : Decidable (Lists language header version) :=
  inferInstanceAs (Decidable (∃ entry ∈ splitOn header ',', trim language entry = version))

/-- All entries of the header are space. -/
def Silent (language : Language) (header : String) : Prop := ∀ entry ∈ splitOn header ',', trim language entry = ""

/-- The two languages find the newest version in the header alike, and where it is not
there the oldest one or nothing at all. -/
def Undisputed (header : String) : Prop :=
  (Lists .python header "0.2" ↔ Lists .javaScript header "0.2") ∧
    (¬ Lists .python header "0.2" → (Lists .python header "0.1" ∨ Silent .python header ↔
      Lists .javaScript header "0.1" ∨ Silent .javaScript header))

section Entries
variable {entries : List String} {take : String → String} {version : String}

theorem mem_entries (present : version ≠ "") :
    version ∈ (entries.map take).filter (fun entry => decide (entry ≠ "")) ↔ ∃ entry ∈ entries, take entry = version := by
  simp [List.mem_filter, present]

theorem entries_eq_nil :
    (entries.map take).filter (fun entry => decide (entry ≠ "")) = [] ↔ ∀ entry ∈ entries, take entry = "" := by
  simp [List.filter_eq_nil_iff]

theorem not_mem_entries : "" ∉ (entries.map take).filter (fun entry => decide (entry ≠ "")) := by
  simp [List.mem_filter]

end Entries

theorem outcome_eq_iff (listed other : List String) : outcome listed = outcome other ↔
    ("0.2" ∈ listed ↔ "0.2" ∈ other) ∧
      ("0.2" ∉ listed → ("0.1" ∈ listed ∨ listed = [] ↔ "0.1" ∈ other ∨ other = [])) := by
  unfold outcome
  by_cases new : "0.2" ∈ listed
  · by_cases new' : "0.2" ∈ other
    · simp [new, new']
    · by_cases old' : "0.1" ∈ other ∨ other = [] <;> simp [new, new', old']
  · by_cases new' : "0.2" ∈ other
    · by_cases old : "0.1" ∈ listed ∨ listed = [] <;> simp [new, new', old]
    · by_cases old : "0.1" ∈ listed ∨ listed = [] <;> by_cases old' : "0.1" ∈ other ∨ other = [] <;>
        simp [new, new', old, old']

theorem undisputed_iff (header : String) :
    Undisputed header ↔ outcome (Version.parseAccept header) = outcome (TypeScript.parseAccept header) := by
  have python (version : String) (present : version ≠ "") : version ∈ Version.parseAccept header ↔ Lists .python header version :=
    mem_entries present
  have javaScript (version : String) (present : version ≠ "") :
      version ∈ TypeScript.parseAccept header ↔ Lists .javaScript header version := mem_entries present
  have silent : Version.parseAccept header = [] ↔ Silent .python header := entries_eq_nil
  have silent' : TypeScript.parseAccept header = [] ↔ Silent .javaScript header := entries_eq_nil
  rw [outcome_eq_iff, python "0.2" (by decide), python "0.1" (by decide), javaScript "0.2" (by decide),
    javaScript "0.1" (by decide), silent, silent', Undisputed]

/-- The four negotiate one version exactly where Python and JavaScript find the same of
the supported versions in the header. -/
theorem one_version_iff [Host] [Engine] (exact : Exact) (header : String) :
    (∃ answer, OneVersion header answer) ↔ Undisputed header := by
  have full : "" ∉ Version.parseAccept header := not_mem_entries
  have full' : "" ∉ TypeScript.parseAccept header := not_mem_entries
  obtain ⟨python, refused⟩ := python_negotiate full
  have typeScript := typeScript_negotiate exact full'
  rw [undisputed_iff]
  constructor
  · intro ⟨answer, one⟩
    rw [← python, one.python, ← typeScript, one.typeScript]
  · intro same
    exact ⟨outcome (Version.parseAccept header), {
      python
      refused
      typeScript := typeScript.trans same.symm
      gatewayTs := (gatewayTs_negotiate header).trans same.symm
      implNode := (implNode_negotiate header).trans same.symm
      highest := (agreed_iff _ _).mpr rfl }⟩

/-! ### Runs -/

local instance : Host := Python.asciiHost []

local instance : Engine where
  parse := fun _ => none
  toDouble := .finite
  numberText := fun _ => ""

theorem exact_finite : Exact := fun _ _ => rfl

theorem one_version_iff_listed : ∃ answer, OneVersion "9.9, 0.2 ,0.1" answer := by
  refine (one_version_iff exact_finite "9.9, 0.2 ,0.1").mpr ⟨?_, ?_⟩
  · exact iff_of_true (by decide) (by decide)
  · exact fun absent => absurd (by decide) absent

/-- What ends the line is a space in Python, and a part of the version in JavaScript. -/
theorem next_line_refused : ¬ ∃ answer, OneVersion "0.2\u0085" answer := by
  intro ⟨answer, one⟩
  have python := one.python
  have node := one.implNode
  have found : (Version.negotiate ((Version.parseAccept "0.2\u0085").map Json.str)).toOption = some "0.2" := by decide
  have refused : ImplNode.negotiate "0.2\u0085" = none := by decide
  rw [found] at python
  rw [refused, ← python] at node
  cases node

end Xcp.VersionAgreement
