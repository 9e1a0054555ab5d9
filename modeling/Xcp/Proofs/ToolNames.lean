import Xcp.Connectors.Wrap
import Xcp.Library.Delimited
import Xcp.Library.Occurrences

/-! When the tools of a wrapped API have names of their own. A name that repeats gets
a number, but the name with its number is not checked against the names that the
document has. -/

namespace Xcp.Connectors
open Checked Python Occurrences

/-! ### What a document declares -/

section Declared

/-- An operation of a document: where, by what method, and what is said of it. -/
abbrev Declared := String × String × Json

/-- What a path declares that is wrapped. -/
def usableAt (options : ParseOptions) (path : String) (item : Json) (methods : List String) : List Declared :=
  methods.filterMap (fun method =>
    match item.get method with
    | .ok operation =>
      if operation.isDict && !(destructiveMethods.contains method && !options.includeDestructive) then
        some (path, method, operation)
      else none
    | .error _ => none)

def usable (options : ParseOptions) (paths : List (String × Json)) : List Declared :=
  paths.flatMap (fun (path, item) => if item.isDict then usableAt options path item httpMethods else [])

/-- How many operations are still taken. One is, whatever the limit says. -/
def room (options : ParseOptions) (read : Nat) : Nat := max 1 (options.maxOperations - read).toNat

/-- The name of an operation before any number. -/
def nameOf? : Declared → Option String
  | (path, method, operation) =>
    (do let raw ← operation.get "operationId" (.str "")
        safeId raw method path).toOption

/-- The names that the operations of a document have before any number, as far as they are taken. -/
def declaredNames (options : ParseOptions) (document : Json) : List String :=
  match document.get "paths" with
  | .ok (.dict paths) => ((usable options paths).take (room options 0)).filterMap nameOf?
  | _ => []

/-- A declared operation is read under its name. -/
def ReadAs (declared : Declared) (operation : Operation) : Prop := nameOf? declared = some operation.operationId

theorem readAs_of_read {path method : String} {shared : List Json} {declared : Json} {operation : Operation}
    (read : readOperation path method shared declared = .ok operation) : ReadAs (path, method, declared) operation := by
  simp only [readOperation, bind_eq_ok, pure_eq_ok] at read
  obtain ⟨listed, _, own, _, body, _, raw, stated, name, named, summary, _, description, _, text, _, required, _, rfl⟩ := read
  rw [ReadAs, nameOf?, stated, ok_bind, named]
  rfl

/-- A method that the rounds pass over declares nothing. -/
theorem usableAt_of_skipped {options : ParseOptions} {path method : String} {item declared : Json} (rest : List String)
    (found : item.get method = .ok declared)
    (skipped : (!declared.isDict || destructiveMethods.contains method && !options.includeDestructive) = true) :
    usableAt options path item (method :: rest) = usableAt options path item rest := by
  rw [usableAt, List.filterMap_cons_none]
  · rfl
  · simp only [found]
    grind

theorem usableAt_of_taken {options : ParseOptions} {path method : String} {item declared : Json} (rest : List String)
    (found : item.get method = .ok declared)
    (taken : ¬ (!declared.isDict || destructiveMethods.contains method && !options.includeDestructive) = true) :
    usableAt options path item (method :: rest) = (path, method, declared) :: usableAt options path item rest := by
  rw [usableAt, List.filterMap_cons_some]
  · rfl
  · simp only [found]
    grind

theorem methodRounds_reads {options : ParseOptions} {path : String} {item : Json} {shared : List Json} {methods : List String}
    {read result : List Operation} (done : methodRounds options path item shared methods read = .ok result) :
    ∃ more, result = read ++ more ∧
      List.Forall₂ ReadAs ((usableAt options path item methods).take (room options read.length)) more := by
  induction methods generalizing read with
  | nil =>
    cases done
    exact ⟨[], (List.append_nil _).symm, by simp [usableAt]⟩
  | cons method rest ih =>
    rw [methodRounds, bind_eq_ok] at done
    obtain ⟨declared, found, done⟩ := done
    dsimp only at done
    split at done
    next skipped =>
      rw [usableAt_of_skipped rest found skipped]
      exact ih done
    next taken =>
      rw [bind_eq_ok] at done
      obtain ⟨operation, got, done⟩ := done
      rw [usableAt_of_taken rest found taken]
      have named := readAs_of_read got
      split at done
      next full =>
        cases done
        have last : room options read.length = 1 := by
          rw [List.length_append, List.length_singleton] at full
          rw [room]
          omega
        rw [last]
        exact ⟨[operation], rfl, .cons named .nil⟩
      next =>
        obtain ⟨more, rfl, reads⟩ := ih done
        have step : room options read.length = room options (read ++ [operation]).length + 1 := by
          rw [List.length_append, List.length_singleton] at *
          rw [room, room]
          omega
        rw [step, List.take_succ_cons]
        exact ⟨operation :: more, by simp, .cons named reads⟩

theorem names_of_reads {declared : List Declared} {operations : List Operation} (reads : List.Forall₂ ReadAs declared operations) :
    declared.filterMap nameOf? = operations.map Operation.operationId := by
  induction reads with
  | nil => rfl
  | cons first _ ih => rw [List.filterMap_cons_some first, ih, List.map_cons]

theorem usable_cons (options : ParseOptions) (path : String) (item : Json) (rest : List (String × Json)) :
    usable options ((path, item) :: rest) =
      (if item.isDict then usableAt options path item httpMethods else []) ++ usable options rest := by
  rw [usable, List.flatMap_cons]
  rfl

/-- Operations are read in the order of the document, up to the limit. -/
theorem pathRounds_reads {options : ParseOptions} {paths : List (String × Json)} {read result : List Operation}
    (done : pathRounds options paths read = .ok result) (space : read.length < options.maxOperations ∨ read = []) :
    result = [] ∨ ∃ more, result = read ++ more ∧
      List.Forall₂ ReadAs ((usable options paths).take (room options read.length)) more := by
  induction paths generalizing read with
  | nil =>
    cases done
    exact .inr ⟨[], (List.append_nil _).symm, by simp [usable]⟩
  | cons entry rest ih =>
    obtain ⟨path, item⟩ := entry
    rw [pathRounds] at done
    split at done
    next skipped =>
      rw [Bool.not_eq_true'] at skipped
      rw [usable_cons, skipped]
      exact ih done space
    next dict =>
      rw [Bool.not_eq_true', Bool.not_eq_false] at dict
      simp only [bind_eq_ok] at done
      obtain ⟨_, _, shared, _, further, rounds, done⟩ := done
      obtain ⟨more, rfl, reads⟩ := methodRounds_reads rounds
      have lengths := reads.length_eq
      rw [List.length_take] at lengths
      rw [usable_cons, dict, if_pos rfl]
      split at done
      next full =>
        cases done
        rw [List.length_append] at full
        by_cases all : room options read.length ≤ (usableAt options path item httpMethods).length
        · rw [List.take_append_of_le_length all]
          exact .inr ⟨more, rfl, reads⟩
        · -- nothing is taken, and nothing was allowed
          have none : more = [] ∧ read = [] := by
            rw [room] at all lengths
            rcases space with space | rfl
            · omega
            · exact ⟨List.length_eq_zero_iff.mp (by rw [List.length_nil] at *; omega), rfl⟩
          rw [none.1, none.2]
          exact .inl rfl
      next left =>
        rw [List.length_append] at left
        have later : room options (read ++ more).length = room options read.length - (usableAt options path item httpMethods).length ∧
            (usableAt options path item httpMethods).length ≤ room options read.length := by
          rw [List.length_append]
          rw [room] at lengths ⊢
          rw [room]
          omega
        obtain rfl | ⟨others, rfl, behind⟩ := ih done (.inl (by rw [List.length_append]; omega))
        · exact .inl rfl
        · rw [List.take_of_length_le later.2] at reads
          rw [later.1] at behind
          rw [List.take_append, List.take_of_length_le later.2]
          exact .inr ⟨more ++ others, List.append_assoc .., List.rel_append reads behind⟩

end Declared

/-! ### Numbers for names that repeat -/

/-- A name, with how often it came before if it did. -/
def numbered (name : String) (count : Nat) : String := if count = 0 then name else s!"{name}_{count}"

/-- A number shows, as it has no underscore. -/
theorem numbered_apart (first second : String) (count other : Nat) (same : numbered first (count + 1) = numbered second (other + 1)) :
    first = second ∧ count = other := by
  have letters (name : String) (count : Nat) :
      (numbered name (count + 1)).toList = name.toList ++ '_' :: (toString (count + 1)).toList := by
    simp [numbered, toString_text]
  have plain (count : Nat) : '_' ∉ (toString count).toList.reverse := by
    rw [List.mem_reverse, show (toString count).toList = Nat.toDigits 10 count by simp [toString, Nat.repr]]
    intro member
    exact absurd (Nat.isDigit_of_mem_toDigits (by decide) (by decide) member) (by decide)
  have backwards := congrArg (fun text : String => text.toList.reverse) same
  simp only [letters, List.reverse_append, List.reverse_cons, List.append_assoc, List.singleton_append] at backwards
  obtain ⟨numbers, names⟩ := PrefixCode.before_mark_inj (plain _) (plain _) backwards
  have counts := Nat.repr_inj.mp (String.toList_inj.mp (List.reverse_inj.mp numbers))
  exact ⟨String.toList_inj.mp (List.reverse_inj.mp names), by omega⟩

/-- A table holds how often each name has come after the first time. -/
def Counts (seen : Dict String Nat) (before : List String) : Prop :=
  ∀ name, seen.get? name = if before.count name = 0 then none else some (before.count name - 1)

theorem Counts.set {seen : Dict String Nat} {before : List String} (counts : Counts seen before) (name : String) :
    Counts (seen.set name (before.count name)) (name :: before) := by
  intro other
  rw [Dict.get?_set, counts]
  by_cases same : other = name
  · simp [same]
  · simp [same, List.count_cons_of_ne (Ne.symm same)]

theorem numberRepeated_ids {seen : Dict String Nat} {before : List String} (counts : Counts seen before) (operations : List Operation) :
    (numberRepeated seen operations).map Operation.operationId =
      (counted before (operations.map Operation.operationId)).map (fun entry => numbered entry.1 entry.2) := by
  induction operations generalizing seen before with
  | nil => rfl
  | cons operation rest ih =>
    have later := ih (counts.set operation.operationId)
    rw [numberRepeated, List.map_cons, counted, List.map_cons, ← later]
    dsimp only
    rw [counts]
    by_cases fresh : before.count operation.operationId = 0
    · rw [if_pos fresh, fresh]
      rfl
    · rw [if_neg fresh]
      dsimp only
      rw [Nat.sub_add_cancel (Nat.pos_of_ne_zero fresh), List.map_cons]
      simp [numbered, fresh]

/-! ### One tool per operation -/

section Tools
variable [Host]

def EntryOf (operation : Operation) (entry : String × Tool) : Prop :=
  entry.1 = operation.toolName ∧ operation.tool = .ok entry.2

/-- Operations have ids of their own, and the table has an entry for each of them. -/
def NoneLost (spec : WrapSpec) : Prop :=
  (spec.operations.map Operation.operationId).Nodup ∧
    ∀ tools, spec.tools = .ok tools → List.Forall₂ EntryOf spec.operations tools.entries

theorem tools_foldlM {operations : List Operation} {dict tools : Dict String Tool}
    (distinct : (operations.map Operation.operationId).Nodup)
    (fresh : ∀ operation ∈ operations, dict.get? operation.toolName = none)
    (folded : operations.foldlM (fun tools operation => tools.set operation.toolName <$> operation.tool) dict = .ok tools) :
    ∃ more, tools.entries = dict.entries ++ more ∧ List.Forall₂ EntryOf operations more := by
  induction operations generalizing dict with
  | nil =>
    cases folded
    exact ⟨[], (List.append_nil _).symm, .nil⟩
  | cons operation rest ih =>
    rw [List.map_cons, List.nodup_cons] at distinct
    rw [List.foldlM_cons, bind_eq_ok] at folded
    obtain ⟨_, step, folded⟩ := folded
    obtain ⟨tool, made, rfl⟩ := (map_eq_ok _ _ _).mp step
    have absent := fresh operation (List.mem_cons_self ..)
    obtain ⟨more, entries, each⟩ := ih distinct.2 (by
      intro other member
      have differ : other.toolName ≠ operation.toolName := by
        intro same
        exact distinct.1 (List.mem_map.mpr ⟨other, member, same⟩)
      rw [Dict.get?_set, if_neg differ]
      exact fresh other (List.mem_cons_of_mem _ member)) folded
    refine ⟨(operation.toolName, tool) :: more, ?_, .cons ⟨rfl, made⟩ each⟩
    rw [entries, Dict.entries_set_of_none absent, List.append_assoc, List.singleton_append]

theorem noneLost_iff {spec : WrapSpec} : NoneLost spec ↔ (spec.operations.map Operation.operationId).Nodup := by
  refine ⟨And.left, fun distinct => ⟨distinct, ?_⟩⟩
  intro tools table
  obtain ⟨more, entries, each⟩ := tools_foldlM distinct (fun _ _ => rfl) table
  rw [entries]
  exact each

/-- The ids of a document that is accepted are the names it declares, with numbers for those that repeat. -/
theorem parsed_ids {document : Json} {options : ParseOptions} {spec : WrapSpec} (accepted : parseOpenapi document options = .ok spec) :
    spec.operations.map Operation.operationId = labels numbered (declaredNames options document) := by
  rw [parseOpenapi] at accepted
  split at accepted
  next => cases accepted
  next =>
    rw [bind_eq_ok] at accepted
    obtain ⟨keys, _, accepted⟩ := accepted
    dsimp only at accepted
    split at accepted
    next => cases accepted
    next =>
      simp only [bind_eq_ok] at accepted
      obtain ⟨_, _, _, _, _, _, listed, stated, paths, members, read, rounds, accepted⟩ := accepted
      split at accepted
      next => cases accepted
      next some =>
        simp only [bind_eq_ok, pure_eq_ok] at accepted
        obtain ⟨_, _, _, _, _, _, _, _, _, _, _, _, _, _, rfl⟩ := accepted
        have within : List.Forall₂ ReadAs ((usable options paths).take (room options 0)) read := by
          obtain none | ⟨more, rfl, reads⟩ := pathRounds_reads rounds (.inr rfl)
          · exact (some none).elim
          · exact reads
        have names : declaredNames options document = read.map Operation.operationId := by
          have declared : listed = .dict paths := by
            rw [Json.orElse] at members
            split at members
            · cases listed <;> cases members
              rfl
            · cases members
              cases rounds
              exact (some rfl).elim
          rw [declaredNames, stated, declared]
          exact names_of_reads within
        rw [names]
        apply numberRepeated_ids
        exact fun _ => rfl

/-- No operation is lost exactly if no name of the document is another with a number that it gets. -/
theorem noneLost_iff_apart {document : Json} {options : ParseOptions} {spec : WrapSpec}
    (accepted : parseOpenapi document options = .ok spec) :
    NoneLost spec ↔ ∀ name count, 0 < count → count < (declaredNames options document).count name →
      numbered name count ∉ declaredNames options document := by
  rw [noneLost_iff, parsed_ids accepted]
  exact labels_nodup_iff (fun _ => rfl) numbered_apart

end Tools

/-! ### Documents at hand -/

section Sample
local instance storeHost : Host := decimalHost []

/-- An API whose paths can be read, each under a name. -/
def namedPaths (names : List (String × String)) : Json := .dict [
  ("openapi", .str "3.1.0"), ("servers", .list [.dict [("url", .str "https://store.example")]]),
  ("paths", .dict (names.map (fun (path, name) => (path, .dict [("get", .dict [("operationId", .str name)])]))))]

def namedOperation (path name : String) : Operation where
  operationId := name
  method := "get"
  path := path
  summary := .str ""
  parameters := []
  hasBody := false
  bodyRequired := false
  destructive := false

def storeSpec (operations : List Operation) : WrapSpec where
  id := "api"
  title := .str "API"
  baseUrl := "https://store.example"
  credentialSource := .none
  operations := operations

theorem list_list_kept : NoneLost (storeSpec [namedOperation "/pets" "list", namedOperation "/toys" "list_1"]) := by
  have parsed : parseOpenapi (namedPaths [("/pets", "list"), ("/toys", "list")]) {} =
      .ok (storeSpec [namedOperation "/pets" "list", namedOperation "/toys" "list_1"]) := rfl
  apply (noneLost_iff_apart parsed).mpr
  have names : declaredNames {} (namedPaths [("/pets", "list"), ("/toys", "list")]) = ["list", "list"] := rfl
  rw [names]
  intro name count positive repeated
  have present : name ∈ ["list", "list"] := List.count_pos_iff.mp (by omega)
  obtain rfl : name = "list" := by simpa using present
  have twice : ["list", "list"].count "list" = 2 := rfl
  obtain rfl : count = 1 := by omega
  decide

/-- A name that gets a number, and a name that had it: two tools of one name. -/
theorem list_one_lost : ∃ spec, parseOpenapi (namedPaths [("/pets", "list"), ("/toys", "list"), ("/shops", "list_1")]) {} = .ok spec ∧
    ¬ NoneLost spec := by
  refine ⟨storeSpec [namedOperation "/pets" "list", namedOperation "/toys" "list_1", namedOperation "/shops" "list_1"], rfl, ?_⟩
  rw [noneLost_iff]
  decide

end Sample

end Xcp.Connectors
