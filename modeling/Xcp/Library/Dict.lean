import Mathlib.Algebra.BigOperators.Group.List.Basic
import Mathlib.Algebra.GroupWithZero.Nat
import Mathlib.Data.List.Nodup

/-! Tables that keep the order in which their keys first arrived. A new value
for a key takes the place of the old one. -/

structure Dict (κ α : Type*) where
  entries : List (κ × α) := []
  distinct : (entries.map Prod.fst).Nodup := by first | exact List.nodup_nil | simp

namespace Dict

variable {κ α : Type*} [DecidableEq κ]

instance : Inhabited (Dict κ α) := ⟨{}⟩

def keys (dict : Dict κ α) : List κ := dict.entries.map Prod.fst

def values (dict : Dict κ α) : List α := dict.entries.map Prod.snd

def look (key : κ) : List (κ × α) → Option α
  | [] => none
  | entry :: rest => if key = entry.1 then some entry.2 else look key rest

def get? (dict : Dict κ α) (key : κ) : Option α := look key dict.entries

def put (key : κ) (value : α) : List (κ × α) → List (κ × α)
  | [] => [(key, value)]
  | entry :: rest => if entry.1 = key then (key, value) :: rest else entry :: put key value rest

theorem mem_keys_put {key other : κ} {value : α} {entries : List (κ × α)} :
    other ∈ (put key value entries).map Prod.fst ↔ other = key ∨ other ∈ entries.map Prod.fst := by
  induction entries with
  | nil => simp [put]
  | cons entry rest ih =>
    unfold put
    split
    next same => simp [← same]
    next =>
      simp only [List.map_cons, List.mem_cons, ih]
      exact or_left_comm

theorem put_distinct {key : κ} {value : α} {entries : List (κ × α)}
    (distinct : (entries.map Prod.fst).Nodup) : ((put key value entries).map Prod.fst).Nodup := by
  induction entries with
  | nil => simp [put]
  | cons entry rest ih =>
    rw [List.map_cons, List.nodup_cons] at distinct
    obtain ⟨absent, distinct⟩ := distinct
    unfold put
    split
    next same =>
      rw [List.map_cons, List.nodup_cons]
      exact ⟨same ▸ absent, distinct⟩
    next other =>
      rw [List.map_cons, List.nodup_cons, mem_keys_put]
      refine ⟨?_, ih distinct⟩
      rintro (same | present)
      · exact other same
      · exact absent present

theorem look_put (key other : κ) (value : α) (entries : List (κ × α)) :
    look other (put key value entries) = if other = key then some value else look other entries := by
  induction entries with
  | nil => simp [put, look]
  | cons entry rest ih =>
    by_cases here : entry.1 = key
    · by_cases same : other = key
      · simp [put, look, here, same]
      · simp [put, look, here, same]
    · by_cases found : other = entry.1
      · simp [put, look, here, found]
      · simp [put, look, here, found, ih]

def set (dict : Dict κ α) (key : κ) (value : α) : Dict κ α where
  entries := put key value dict.entries
  distinct := put_distinct dict.distinct

def mapValues (dict : Dict κ α) (change : α → α) : Dict κ α where
  entries := dict.entries.map (fun entry => (entry.1, change entry.2))
  distinct := by simpa [List.map_map, Function.comp_def] using dict.distinct

@[simp] theorem get?_set (dict : Dict κ α) (key other : κ) (value : α) :
    (dict.set key value).get? other = if other = key then some value else dict.get? other :=
  look_put key other value dict.entries

theorem get?_set_eq_some {dict : Dict κ α} {key other : κ} {value found : α}
    (held : (dict.set key value).get? other = some found) :
    other = key ∧ found = value ∨ dict.get? other = some found := by
  rw [get?_set] at held
  split at held
  next same => exact .inl ⟨same, (Option.some.inj held).symm⟩
  next => exact .inr held

section Rows
variable {β : Type*} (key : β → κ) (value : β → α)

theorem get?_foldl_set_of_not_mem {rows : List β} {name : κ} (absent : name ∉ rows.map key) (dict : Dict κ α) :
    (rows.foldl (fun dict row => dict.set (key row) (value row)) dict).get? name = dict.get? name := by
  induction rows generalizing dict with
  | nil => rfl
  | cons first rest ih =>
    rw [List.map_cons, List.mem_cons, not_or] at absent
    rw [List.foldl_cons, ih absent.2, get?_set, if_neg absent.1]

theorem get?_foldl_set_of_mem {rows : List β} (distinct : (rows.map key).Nodup) {row : β} (member : row ∈ rows)
    (dict : Dict κ α) :
    (rows.foldl (fun dict row => dict.set (key row) (value row)) dict).get? (key row) = some (value row) := by
  induction rows generalizing dict with
  | nil => cases member
  | cons first rest ih =>
    rw [List.map_cons, List.nodup_cons] at distinct
    rw [List.foldl_cons]
    cases member with
    | head => rw [get?_foldl_set_of_not_mem key value distinct.1, get?_set, if_pos rfl]
    | tail _ later => exact ih distinct.2 later _

end Rows

@[simp] theorem get?_mapValues (dict : Dict κ α) (change : α → α) (key : κ) :
    (dict.mapValues change).get? key = (dict.get? key).map change := by
  obtain ⟨entries, distinct⟩ := dict
  unfold get? mapValues
  induction entries with
  | nil => rfl
  | cons entry rest ih =>
    rw [List.map_cons, List.nodup_cons] at distinct
    by_cases found : key = entry.1
    · simp [look, found]
    · simpa [look, found] using ih distinct.2

theorem mem_entries {dict : Dict κ α} {key : κ} {value : α} :
    (key, value) ∈ dict.entries ↔ dict.get? key = some value := by
  obtain ⟨entries, distinct⟩ := dict
  unfold get?
  induction entries with
  | nil => simp [look]
  | cons entry rest ih =>
    rw [List.map_cons, List.nodup_cons] at distinct
    obtain ⟨absent, distinct⟩ := distinct
    by_cases found : key = entry.1
    · subst found
      have later : (entry.1, value) ∉ rest := fun member =>
        absent (List.mem_map.mpr ⟨(entry.1, value), member, rfl⟩)
      simp [look, Prod.ext_iff, later, eq_comm]
    · have here : (key, value) ≠ entry := fun same => found (by rw [← same])
      simp [look, found, here, ih distinct]

theorem mem_values {dict : Dict κ α} {value : α} : value ∈ dict.values ↔ ∃ key, dict.get? key = some value := by
  simp only [values, List.mem_map, ← mem_entries]
  constructor
  · rintro ⟨entry, member, rfl⟩
    exact ⟨entry.1, member⟩
  · intro ⟨key, member⟩
    exact ⟨(key, value), member, rfl⟩

theorem look_of_not_mem {key : κ} {entries : List (κ × α)} (absent : key ∉ entries.map Prod.fst) : look key entries = none := by
  induction entries with
  | nil => rfl
  | cons entry rest ih =>
    rw [List.map_cons, List.mem_cons, not_or] at absent
    rw [look, if_neg absent.1]
    exact ih absent.2

theorem put_of_none {key : κ} {entries : List (κ × α)} (absent : look key entries = none) (value : α) :
    put key value entries = entries ++ [(key, value)] := by
  induction entries with
  | nil => rfl
  | cons entry rest ih =>
    by_cases here : entry.1 = key
    · simp [look, here] at absent
    · rw [look, if_neg (Ne.symm here)] at absent
      rw [put, if_neg here, ih absent, List.cons_append]

/-- A new key comes last. -/
theorem entries_set_of_none {dict : Dict κ α} {key : κ} (absent : dict.get? key = none) (value : α) :
    (dict.set key value).entries = dict.entries ++ [(key, value)] :=
  put_of_none absent value

/-! ### Removal -/

theorem look_filter (key other : κ) (entries : List (κ × α)) :
    look other (entries.filter (fun entry => entry.1 ≠ key)) = if other = key then none else look other entries := by
  induction entries with
  | nil => simp [look]
  | cons entry rest ih =>
    by_cases removed : entry.1 = key
    · by_cases same : other = key
      · simpa [removed, same] using ih
      · have later : other ≠ entry.1 := fun equal => same (equal.trans removed)
        simpa [removed, same, look, later] using ih
    · by_cases found : other = entry.1
      · simp [removed, look, found]
      · simpa [removed, look, found] using ih

def remove (dict : Dict κ α) (key : κ) : Dict κ α where
  entries := dict.entries.filter (fun entry => entry.1 ≠ key)
  distinct := dict.distinct.sublist (List.filter_sublist.map Prod.fst)

@[simp] theorem get?_remove (dict : Dict κ α) (key other : κ) :
    (dict.remove key).get? other = if other = key then none else dict.get? other :=
  look_filter key other dict.entries

/-- The entry of a key becomes the last one. -/
def moveToEnd (dict : Dict κ α) (key : κ) : Option (Dict κ α) :=
  (dict.get? key).map (fun value => (dict.remove key).set key value)

theorem moveToEnd_eq_none {dict : Dict κ α} {key : κ} : dict.moveToEnd key = none ↔ dict.get? key = none := by
  simp [moveToEnd]

theorem get?_moveToEnd {dict moved : Dict κ α} {key : κ} (found : dict.moveToEnd key = some moved) (other : κ) :
    moved.get? other = dict.get? other := by
  obtain ⟨value, held, rfl⟩ := Option.map_eq_some_iff.mp found
  by_cases same : other = key
  · simp [same, held]
  · simp [same]

/-! ### Sums over the values -/

def sum (measure : α → Nat) (dict : Dict κ α) : Nat := (dict.values.map measure).sum

def size (dict : Dict κ α) : Nat := dict.entries.length

/-- What the value of a key adds to a sum. -/
def part (measure : α → Nat) (dict : Dict κ α) (key : κ) : Nat := ((dict.get? key).map measure).getD 0

variable {measure : α → Nat} {dict : Dict κ α} {key : κ}

omit [DecidableEq κ] in
theorem size_eq_sum (dict : Dict κ α) : dict.size = dict.sum (fun _ => 1) := by
  simp [size, sum, values, Function.comp_def]

theorem part_of_some {value : α} (held : dict.get? key = some value) : dict.part measure key = measure value := by
  simp [part, held]

theorem part_of_none (absent : dict.get? key = none) : dict.part measure key = 0 := by
  simp [part, absent]

theorem sum_set (measure : α → Nat) (dict : Dict κ α) (key : κ) (value : α) :
    (dict.set key value).sum measure + dict.part measure key = dict.sum measure + measure value := by
  obtain ⟨entries, distinct⟩ := dict
  unfold sum part values get? set
  induction entries with
  | nil => simp [put, look]
  | cons entry rest ih =>
    rw [List.map_cons, List.nodup_cons] at distinct
    by_cases here : entry.1 = key
    · simp [put, look, here]
      omega
    · have later := ih distinct.2
      simp only [put, look, here, Ne.symm here, if_false, List.map_cons, List.sum_cons] at later ⊢
      omega

theorem sum_remove (measure : α → Nat) (dict : Dict κ α) (key : κ) :
    (dict.remove key).sum measure + dict.part measure key = dict.sum measure := by
  obtain ⟨entries, distinct⟩ := dict
  unfold sum part values get? remove
  induction entries with
  | nil => simp [look]
  | cons entry rest ih =>
    rw [List.map_cons, List.nodup_cons] at distinct
    by_cases here : entry.1 = key
    · have others : ∀ other ∈ rest, decide (other.1 ≠ key) = true := by
        intro other member
        rw [decide_eq_true_eq, ← here]
        exact fun same => distinct.1 (List.mem_map.mpr ⟨other, member, same⟩)
      simp only [look, here, ne_eq, not_true_eq_false, decide_false, Bool.false_eq_true, not_false_eq_true, if_true,
        List.filter_cons_of_neg, List.filter_eq_self.mpr others, Option.map_some, Option.getD_some, List.map_cons,
        List.sum_cons]
      exact Nat.add_comm _ _
    · have later := ih distinct.2
      simp only [look, here, Ne.symm here, if_false, ne_eq, not_false_eq_true, decide_true, List.filter_cons_of_pos,
        List.map_cons, List.sum_cons] at later ⊢
      omega

theorem size_remove {value : α} (held : dict.get? key = some value) : (dict.remove key).size + 1 = dict.size := by
  have removed := sum_remove (fun _ => 1) dict key
  rwa [part_of_some held, ← size_eq_sum, ← size_eq_sum] at removed

theorem size_set_of_some {old : α} (held : dict.get? key = some old) (value : α) : (dict.set key value).size = dict.size := by
  have added := sum_set (fun _ => 1) dict key value
  rw [part_of_some held, ← size_eq_sum, ← size_eq_sum] at added
  omega

theorem size_set_of_none (absent : dict.get? key = none) (value : α) : (dict.set key value).size = dict.size + 1 := by
  have added := sum_set (fun _ => 1) dict key value
  rwa [part_of_none absent, ← size_eq_sum, ← size_eq_sum] at added

theorem sum_moveToEnd (measure : α → Nat) {moved : Dict κ α} (found : dict.moveToEnd key = some moved) :
    moved.sum measure = dict.sum measure := by
  obtain ⟨value, held, rfl⟩ := Option.map_eq_some_iff.mp found
  have removed := sum_remove measure dict key
  have added := sum_set measure (dict.remove key) key value
  have absent : (dict.remove key).part measure key = 0 := part_of_none (by simp)
  rw [part_of_some held] at removed
  omega

end Dict
