import Xcp.Library.Delimited

/-! Paths, and the places that they lead to in a tree of names. Nothing is asked
of the file system: a path is what its letters say. -/

namespace Paths

/-! ### Walks -/

section Walks
variable {α : Type}

inductive Step (α : Type) where
  | here
  | up
  | down (name : α)

/-- Where steps lead from a place, which is named from the root on. Above the root
is the root. -/
def walk : List α → List (Step α) → List α
  | place, [] => place
  | place, .here :: rest => walk place rest
  | place, .up :: rest => walk place.dropLast rest
  | place, .down name :: rest => walk (place ++ [name]) rest

theorem walk_append (place : List α) (first second : List (Step α)) :
    walk place (first ++ second) = walk (walk place first) second := by
  induction first generalizing place with
  | nil => rfl
  | cons step rest ih =>
    cases step with
    | here => exact ih place
    | up => exact ih place.dropLast
    | down name => exact ih (place ++ [name])

theorem mem_walk {place : List α} {steps : List (Step α)} {name : α} (member : name ∈ walk place steps) :
    name ∈ place ∨ .down name ∈ steps := by
  induction steps generalizing place with
  | nil => exact .inl member
  | cons step rest ih =>
    cases step with
    | here => exact (ih member).imp_right (List.mem_cons_of_mem _)
    | up => exact (ih member).imp (List.dropLast_subset place ·) (List.mem_cons_of_mem _)
    | down found =>
      rcases ih member with before | later
      · rcases List.mem_append.mp before with earlier | here
        · exact .inl earlier
        · obtain rfl := List.mem_singleton.mp here
          exact .inr List.mem_cons_self
      · exact .inr (List.mem_cons_of_mem _ later)

/-- How far steps climb above where they start, and the names from there down. -/
structure Course (α : Type) where
  climbs : Nat
  names : List α
deriving DecidableEq, Repr

namespace Course

def next (course : Course α) : Step α → Course α
  | .here => course
  | .up =>
    if course.names.isEmpty then { course with climbs := course.climbs + 1 }
    else { course with names := course.names.dropLast }
  | .down name => { course with names := course.names ++ [name] }

def ofSteps (steps : List (Step α)) : Course α := steps.foldl next { climbs := 0, names := [] }

/-- Where a course leads from a place. -/
def reached (course : Course α) (place : List α) : List α :=
  place.take (place.length - course.climbs) ++ course.names

theorem reached_next (course : Course α) (place : List α) (step : Step α) :
    (course.next step).reached place = walk (course.reached place) [step] := by
  cases step with
  | here => rfl
  | up =>
    by_cases empty : course.names = []
    · have shorter : (place.take (place.length - course.climbs)).dropLast = place.take (place.length - (course.climbs + 1)) := by
        rw [List.dropLast_eq_take, List.take_take, List.length_take]
        congr 1
        omega
      simp only [next, reached, walk, empty, List.isEmpty_nil, if_true, List.append_nil, shorter]
    · have some : course.names.isEmpty = false := by simpa using empty
      simp only [next, reached, walk, some, Bool.false_eq_true, if_false, List.dropLast_append_of_ne_nil empty]
  | down name => simp only [next, reached, walk, List.append_assoc]

theorem reached_foldl (course : Course α) (place : List α) (steps : List (Step α)) :
    (steps.foldl next course).reached place = walk (course.reached place) steps := by
  induction steps generalizing course with
  | nil => rfl
  | cons step rest ih =>
    rw [List.foldl_cons, ih (course.next step), course.reached_next, ← walk_append]
    rfl

theorem reached_ofSteps (place : List α) (steps : List (Step α)) : (ofSteps steps).reached place = walk place steps := by
  rw [ofSteps, reached_foldl]
  simp only [reached, Nat.sub_zero, List.take_length, List.append_nil]

/-- Who climbs above a place is inside it again after the names that were climbed. -/
theorem prefix_reached_iff {course : Course α} {place : List α} :
    place <+: course.reached place ↔ place.drop (place.length - course.climbs) <+: course.names := by
  rw [reached]
  nth_rewrite 1 [← List.take_append_drop (place.length - course.climbs) place]
  exact List.prefix_append_right_inj _

end Course
end Walks

/-! ### Paths of `os.path` on POSIX -/

open Python

def isAbs (path : String) : Bool := startsWith path "/"

def join (first second : String) : String :=
  if isAbs second then second
  else if first = "" || endsWith first "/" then first ++ second
  else first ++ "/" ++ second

/-- The slashes that make a path absolute, of which two are kept, and what comes after them. -/
def splitRoot (path : String) : String × String :=
  if !isAbs path then ("", path)
  else if !startsWith path "//" || startsWith path "///" then ("/", dropStart path 1)
  else ("//", dropStart path 2)

/-- The loop over the components of a path. -/
def newComps (initialSlashes : String) : List String → List String → List String
  | kept, [] => kept
  | kept, comp :: rest =>
    if comp = "" || comp = "." then newComps initialSlashes kept rest
    else if comp ≠ ".." || (initialSlashes = "" && kept = []) || kept.getLast? = some ".." then
      newComps initialSlashes (kept ++ [comp]) rest
    else newComps initialSlashes kept.dropLast rest

def normpath (path : String) : String :=
  if path = "" then "."
  else
    let (initialSlashes, rest) := splitRoot path
    let normal := initialSlashes ++ joinWith "/" (newComps initialSlashes [] (splitOn rest '/'))
    if normal = "" then "." else normal

/-- The components of a path that name something. -/
def parts (path : String) : List String := (splitOn path '/').filter (· ≠ "")

/-- Once both are normalised, an absolute path begins with the components of the root. -/
def Inside (root path : String) : Prop := isAbs path = true ∧ parts (normpath root) <+: parts (normpath path)

instance (root path : String) : Decidable (Inside root path) := inferInstanceAs (Decidable (_ ∧ _))

/-! ### Paths as walks -/

def step (comp : String) : Step String :=
  if comp = "" || comp = "." then .here else if comp = ".." then .up else .down comp

def steps (path : String) : List (Step String) := (splitOn path '/').map step

def course (path : String) : Course String := .ofSteps (steps path)

theorem step_eq_down {comp name : String} : step comp = .down name ↔ comp = name ∧ name ≠ "" ∧ name ≠ "." ∧ name ≠ ".." := by
  unfold step
  split
  next skipped =>
    simp only [Bool.or_eq_true, decide_eq_true_eq] at skipped
    simp only [reduceCtorEq, false_iff, not_and]
    rintro rfl filled named
    exact absurd skipped (by simp [filled, named])
  next kept =>
    simp only [Bool.or_eq_true, decide_eq_true_eq, not_or] at kept
    split
    next up =>
      simp only [reduceCtorEq, up, false_iff, not_and, not_not]
      rintro rfl _ _
      rfl
    next down =>
      simp only [Step.down.injEq]
      constructor
      · rintro rfl
        exact ⟨rfl, kept.1, kept.2, down⟩
      · rintro ⟨rfl, _⟩
        rfl

theorem newComps_rooted {initialSlashes : String} (rooted : initialSlashes ≠ "") (kept comps : List String)
    (plain : ".." ∉ kept) : newComps initialSlashes kept comps = walk kept (comps.map step) := by
  induction comps generalizing kept with
  | nil => rfl
  | cons comp rest ih =>
    rw [List.map_cons, newComps, step]
    split
    next => exact ih kept plain
    next skipped =>
      have last : kept.getLast? ≠ some ".." := fun last => plain (List.mem_of_getLast? last)
      by_cases up : comp = ".."
      · simp only [up, rooted, last, ne_eq, not_true_eq_false, decide_false, Bool.false_and, Bool.or_self, Bool.false_eq_true,
          if_false, if_true]
        exact ih kept.dropLast (fun member => plain (List.dropLast_subset kept member))
      · simp only [up, ne_eq, not_false_eq_true, decide_true, Bool.true_or, if_true, if_false]
        apply ih
        simp [plain, Ne.symm up]

theorem splitOn_slash (first second : String) :
    splitOn (first ++ "/" ++ second) '/' = splitOn first '/' ++ splitOn second '/' := by
  have letters : (first ++ "/" ++ second).toList = first.toList ++ '/' :: second.toList := by
    simp [String.toList_append]
  rw [splitOn, letters, List.splitOn_append_cons_self, List.map_append]
  rfl

theorem splitOn_joinWith {comps : List String} (some : comps ≠ []) (plain : ∀ comp ∈ comps, '/' ∉ comp.toList) :
    splitOn (joinWith "/" comps) '/' = comps := by
  have single {comp : String} (none : '/' ∉ comp.toList) : splitOn comp '/' = [comp] := by
    rw [splitOn, List.splitOn_eq_singleton none, List.map_singleton, String.ofList_toList]
  induction comps with
  | nil => exact absurd rfl some
  | cons comp rest ih =>
    obtain ⟨here, later⟩ := List.forall_mem_cons.mp plain
    cases rest with
    | nil => exact single here
    | cons next rest =>
      have joined : joinWith "/" (comp :: next :: rest) = comp ++ "/" ++ joinWith "/" (next :: rest) := rfl
      rw [joined, splitOn_slash, single here, ih (List.cons_ne_nil next rest) later]
      rfl

/-! ### Slashes at the start -/

theorem startsWith_eq {path start : String} (starts : startsWith path start = true) :
    path = start ++ dropStart path start.toList.length := by
  rw [startsWith, List.isPrefixOf_iff_prefix] at starts
  obtain ⟨tail, whole⟩ := starts
  rw [dropStart, ← whole, List.drop_left]
  apply String.toList_inj.mp
  rw [String.toList_append, String.toList_ofList, whole]

theorem splitOn_root (rest : String) : splitOn ("/" ++ rest) '/' = "" :: splitOn rest '/' := splitOn_slash "" rest

theorem steps_root (place : List String) (rest : String) : walk place (steps ("/" ++ rest)) = walk place (steps rest) := by
  rw [steps, splitOn_root]
  rfl

theorem parts_root (rest : String) : parts ("/" ++ rest) = parts rest := by
  rw [parts, splitOn_root]
  rfl

theorem splitRoot_eq {path initialSlashes rest : String} (abs : isAbs path = true) (split : splitRoot path = (initialSlashes, rest)) :
    path = initialSlashes ++ rest ∧ (initialSlashes = "/" ∨ initialSlashes = "/" ++ "/") := by
  unfold splitRoot at split
  rw [abs] at split
  split at split
  · contradiction
  · split at split
    · obtain ⟨rfl, rfl⟩ := Prod.mk.inj split
      exact ⟨startsWith_eq abs, .inl rfl⟩
    next two =>
      obtain ⟨rfl, rfl⟩ := Prod.mk.inj split
      simp only [Bool.or_eq_true, Bool.not_eq_true', not_or, Bool.not_eq_false] at two
      exact ⟨startsWith_eq two.1, .inr rfl⟩

theorem parts_joinWith {comps : List String} (plain : ∀ comp ∈ comps, comp ≠ "" ∧ '/' ∉ comp.toList) :
    parts (joinWith "/" comps) = comps := by
  by_cases none : comps = []
  · subst none
    rfl
  · rw [parts, splitOn_joinWith none (fun comp member => (plain comp member).2), List.filter_eq_self]
    intro comp member
    simpa using (plain comp member).1

/-- What is left of an absolute path once it is normalised are the names that it leads to. -/
theorem parts_normpath {path : String} (abs : isAbs path = true) : parts (normpath path) = walk [] (steps path) := by
  rcases split : splitRoot path with ⟨initialSlashes, rest⟩
  obtain ⟨whole, slashes⟩ := splitRoot_eq abs split
  have rooted : initialSlashes ≠ "" := by rcases slashes with rfl | rfl <;> decide
  have filled : path ≠ "" := by
    rintro rfl
    contradiction
  have named : newComps initialSlashes [] (splitOn rest '/') = walk [] (steps rest) :=
    newComps_rooted rooted [] (splitOn rest '/') List.not_mem_nil
  have plain : ∀ comp ∈ walk [] (steps rest), comp ≠ "" ∧ '/' ∉ comp.toList := by
    intro comp member
    rcases mem_walk member with none | down
    · exact absurd none List.not_mem_nil
    · obtain ⟨found, inside, stepped⟩ := List.mem_map.mp down
      obtain ⟨rfl, some, _⟩ := step_eq_down.mp stepped
      obtain ⟨letters, piece, rfl⟩ := List.mem_map.mp inside
      refine ⟨some, ?_⟩
      rw [String.toList_ofList]
      exact not_mem_of_mem_splitOn piece
  have normal : normpath path = initialSlashes ++ joinWith "/" (walk [] (steps rest)) := by
    have kept : initialSlashes ++ joinWith "/" (walk [] (steps rest)) ≠ "" := by
      rcases slashes with rfl | rfl <;> simp
    rw [normpath, if_neg filled, split]
    simp only [named, kept, if_false]
  rw [normal, whole]
  rcases slashes with rfl | rfl
  · rw [parts_root, parts_joinWith plain, steps_root]
  · rw [String.append_assoc, parts_root, parts_root, parts_joinWith plain, String.append_assoc, steps_root, steps_root]

theorem walk_steps (path : String) : walk [] (steps path) = (course path).names := by
  rw [← Course.reached_ofSteps, Course.reached, List.take_nil, List.nil_append]
  rfl

/-! ### Joined paths -/

theorem steps_slash (first second : String) : steps (first ++ "/" ++ second) = steps first ++ steps second := by
  rw [steps, splitOn_slash, List.map_append]
  rfl

theorem isAbs_append {first : String} (abs : isAbs first = true) (second : String) : isAbs (first ++ second) = true := by
  rw [isAbs, startsWith, List.isPrefixOf_iff_prefix] at abs ⊢
  rw [String.toList_append]
  exact abs.trans (List.prefix_append ..)

theorem isAbs_join {first : String} (abs : isAbs first = true) (second : String) : isAbs (join first second) = true := by
  unfold join
  split
  · assumption
  split
  · exact isAbs_append abs second
  · rw [String.append_assoc]
    exact isAbs_append abs _

/-- A relative path goes on where the path before it leads to. -/
theorem walk_join {first second : String} (filled : first ≠ "") (relative : isAbs second = false) :
    walk [] (steps (join first second)) = walk (walk [] (steps first)) (steps second) := by
  by_cases slashed : endsWith first "/" = true
  · have joined : join first second = first ++ second := by simp [join, relative, slashed]
    rw [endsWith, List.isSuffixOf_iff_suffix] at slashed
    obtain ⟨front, whole⟩ := slashed
    obtain rfl : first = String.ofList front ++ "/" ++ "" := by
      apply String.toList_inj.mp
      rw [← whole]
      simp
    have stays (place : List String) : walk place (steps "") = place := rfl
    rw [joined, String.append_empty, steps_slash, walk_append, ← String.append_empty (s := String.ofList front ++ "/"),
      steps_slash, walk_append, stays]
  · have joined : join first second = first ++ "/" ++ second := by simp [join, relative, slashed, filled]
    rw [joined, steps_slash, walk_append]

/-- A path that is absolute has to name the root first. Any other may climb above
where it starts only if it comes down again by the names of the root. -/
def StaysUnder (root path : String) : Prop :=
  if isAbs path then (course root).names <+: (course path).names
  else (course root).names.drop ((course root).names.length - (course path).climbs) <+: (course path).names

theorem inside_join_iff {root : String} (abs : isAbs root = true) (path : String) :
    Inside root (join root path) ↔ StaysUnder root path := by
  have joined := isAbs_join abs path
  have filled : root ≠ "" := by
    rintro rfl
    contradiction
  simp only [Inside, joined, true_and, parts_normpath abs, parts_normpath joined, StaysUnder]
  by_cases absolute : isAbs path = true
  · have replaced : join root path = path := by simp [join, absolute]
    rw [replaced, if_pos absolute, walk_steps, walk_steps]
  · rw [if_neg absolute, walk_join filled (Bool.eq_false_iff.mpr absolute), ← Course.reached_ofSteps (walk [] (steps root)),
      Course.prefix_reached_iff, walk_steps]
    rfl

/-- Who never climbs above the start stays, whatever the root. -/
theorem staysUnder_of_level {root path : String} (relative : isAbs path = false) (level : (course path).climbs = 0) :
    StaysUnder root path := by
  simp only [StaysUnder, relative, Bool.false_eq_true, if_false, level, Nat.sub_zero, List.drop_length]
  exact List.nil_prefix

end Paths
