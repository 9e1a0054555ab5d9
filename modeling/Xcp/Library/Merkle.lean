import Mathlib.Data.List.Basic
import Mathlib.Order.Defs.LinearOrder
import Mathlib.Order.Lattice
import Xcp.Library.Checked

/-! Merkle trees whose pairs are sorted before they are hashed, so that a proof
is a list of siblings without sides. -/

namespace Merkle

variable {α : Type*} [LinearOrder α] (pair : α → α → α)

def join (node sibling : α) : α :=
  if node < sibling then pair node sibling else pair sibling node

/-- The root that a leaf and its siblings lead to. -/
def climb (leaf : α) (proof : List α) : α := proof.foldl (join pair) leaf

@[simp] theorem climb_nil (leaf : α) : climb pair leaf [] = leaf := rfl

@[simp] theorem climb_concat (leaf sibling : α) (proof : List α) :
    climb pair leaf (proof ++ [sibling]) = join pair (climb pair leaf proof) sibling := by
  simp [climb]

theorem join_eq_pair (node sibling : α) : ∃ a b, join pair node sibling = pair a b := by
  unfold join
  split
  · exact ⟨_, _, rfl⟩
  · exact ⟨_, _, rfl⟩

/-- A value that is no hash of a pair is the root of its own one-leaf tree only. -/
theorem climb_eq_of_not_pair {root leaf : α} {proof : List α} (fresh : ∀ a b, pair a b ≠ root)
    (climbs : climb pair leaf proof = root) : leaf = root := by
  rcases List.eq_nil_or_concat proof with rfl | ⟨below, sibling, rfl⟩
  · exact climbs
  · obtain ⟨a, b, same⟩ := join_eq_pair pair (climb pair leaf below) sibling
    rw [List.concat_eq_append, climb_concat, same] at climbs
    exact absurd climbs (fresh a b)

end Merkle

/-! Merkle trees built level by level from a list of leaves. The last node of an
odd level goes up as it is. Hashing a pair of nodes may fail. -/

namespace MerkleTree
open Checked

universe u v

variable {α : Type u} {ε : Type v}

section Definitions
variable (pair : α → α → Except ε α)

def parents : List α → Except ε (List α)
  | first :: second :: rest => do
    let top ← pair first second
    let others ← parents rest
    return top :: others
  | odd => .ok odd

/-- The levels above a level, up to one that has no pair left. A level has fewer
nodes than the one below it, so that as many steps as there are leaves suffice. -/
def ascend : Nat → List α → Except ε (List α)
  | steps + 1, first :: second :: rest => do
    let next ← parents pair (first :: second :: rest)
    ascend steps next
  | _, level => .ok level

def siblings : Nat → List α → Nat → Except ε (List α)
  | steps + 1, first :: second :: rest, index => do
    let next ← parents pair (first :: second :: rest)
    let later ← siblings steps next (index / 2)
    return (first :: second :: rest)[index ^^^ 1]?.toList ++ later
  | _, _, _ => .ok []

/-- The node that a leaf and its siblings lead to. -/
def climb (leaf : α) (proof : List α) : Except ε α := proof.foldlM pair leaf

end Definitions

variable {pair : α → α → Except ε α}

theorem parents_length {level next : List α} (above : parents pair level = .ok next) :
    next.length = (level.length + 1) / 2 := by
  fun_induction parents pair level generalizing next with
  | case1 first second rest ih =>
    simp only [bind_eq_ok, pure_eq_ok] at above
    obtain ⟨top, _, others, up, rfl⟩ := above
    have shorter := ih up
    simp only [List.length_cons, shorter]
    omega
  | case2 odd short =>
    obtain rfl : odd = next := by simpa using above
    cases odd with
    | nil => simp
    | cons first later =>
      cases later with
      | nil => simp
      | cons second rest => exact absurd rfl (short first second rest)

theorem xor_one_add_two (index : Nat) : (index + 2) ^^^ 1 = (index ^^^ 1) + 2 := by
  have half : ((index + 2) ^^^ 1) / 2 = (index ^^^ 1) / 2 + 1 := by
    simp [Nat.xor_div_two]
  have parity : ((index + 2) ^^^ 1) % 2 = (index ^^^ 1) % 2 := by
    have low (number : Nat) : (number ^^^ 1) % 2 = (number % 2) ^^^ 1 := Nat.xor_mod_two_pow (n := 1)
    rw [low, low, Nat.add_mod_right]
  omega

theorem parents_step (commutes : ∀ a b, pair a b = pair b a) {level next : List α}
    (above : parents pair level = .ok next) {index : Nat} {node : α} (here : level[index]? = some node) :
    ∃ parent, next[index / 2]? = some parent ∧
      (level[index ^^^ 1]?.toList).foldlM pair node = .ok parent := by
  fun_induction parents pair level generalizing next index with
  | case1 first second rest ih =>
    simp only [bind_eq_ok, pure_eq_ok] at above
    obtain ⟨top, joined, others, up, rfl⟩ := above
    -- the first pair holds the two lowest indices, and the other pairs follow by induction
    obtain _ | _ | index := index
    · obtain rfl : first = node := by simpa using here
      exact ⟨top, rfl, by simpa using joined⟩
    · obtain rfl : second = node := by simpa using here
      exact ⟨top, rfl, by simpa [commutes second first] using joined⟩
    · have later : rest[index]? = some node := by simpa using here
      obtain ⟨parent, found, made⟩ := ih up later
      refine ⟨parent, ?_, ?_⟩
      · have half : (index + 1 + 1) / 2 = index / 2 + 1 := by omega
        simpa [half] using found
      · simpa [xor_one_add_two] using made
  | case2 odd short =>
    obtain rfl : odd = next := by simpa using above
    cases odd with
    | nil => simp at here
    | cons first later =>
      cases later with
      | nil =>
        cases index with
        | zero =>
          refine ⟨node, by simpa using here, ?_⟩
          simp
        | succ index => simp at here
      | cons second rest => exact absurd rfl (short first second rest)

theorem ascend_single {steps : Nat} {level top : List α} (enough : level.length ≤ steps + 1) (some : level ≠ [])
    (up : ascend pair steps level = .ok top) : ∃ root, top = [root] := by
  fun_induction ascend pair steps level with
  | case1 steps first second rest ih =>
    simp only [bind_eq_ok] at up
    obtain ⟨next, above, later⟩ := up
    have shorter := parents_length above
    simp only [List.length_cons] at shorter enough
    apply ih next _ _ later
    · omega
    · intro empty
      simp [empty] at shorter
      omega
  | case2 steps level short =>
    obtain rfl : level = top := by simpa using up
    cases level with
    | nil => exact absurd rfl some
    | cons first later =>
      cases later with
      | nil => exact ⟨first, rfl⟩
      | cons second rest =>
        cases steps with
        | zero => simp at enough
        | succ steps => exact absurd rfl (short steps first second rest rfl)

/-- Where a tree can be built every leaf has its siblings, and they lead to the
root. -/
theorem siblings_climb (commutes : ∀ a b, pair a b = pair b a) {steps : Nat} {level : List α} {root : α}
    (up : ascend pair steps level = .ok [root]) {index : Nat} {leaf : α} (here : level[index]? = some leaf) :
    ∃ proof, siblings pair steps level index = .ok proof ∧ climb pair leaf proof = .ok root := by
  fun_induction ascend pair steps level generalizing index leaf with
  | case1 steps first second rest ih =>
    simp only [bind_eq_ok] at up
    obtain ⟨next, above, later⟩ := up
    obtain ⟨parent, found, made⟩ := parents_step commutes above here
    obtain ⟨proof, met, climbs⟩ := ih next later found
    refine ⟨(first :: second :: rest)[index ^^^ 1]?.toList ++ proof, ?_, ?_⟩
    · simp [siblings, above, met, ok_bind]
    · rw [climb, List.foldlM_append, made]
      exact climbs
  | case2 steps level short =>
    obtain rfl : level = [root] := by simpa using up
    obtain ⟨rfl, rfl⟩ : root = leaf ∧ index = 0 := by
      cases index with
      | zero => exact ⟨by simpa using here, rfl⟩
      | succ index => simp at here
    exact ⟨[], by simp [siblings], rfl⟩

/-! ### Totality -/

section Totality
variable {holds : α → Prop}

theorem parents_total (closed : ∀ first second, holds first → holds second → ∃ node, pair first second = .ok node ∧ holds node)
    {level : List α} (all : ∀ node ∈ level, holds node) :
    ∃ next, parents pair level = .ok next ∧ ∀ node ∈ next, holds node := by
  fun_induction parents pair level with
  | case1 first second rest ih =>
    simp only [List.forall_mem_cons] at all
    obtain ⟨top, hashed, high⟩ := closed first second all.1 all.2.1
    obtain ⟨others, up, later⟩ := ih all.2.2
    exact ⟨top :: others, by simp [hashed, up, ok_bind], List.forall_mem_cons.mpr ⟨high, later⟩⟩
  | case2 odd short => exact ⟨odd, rfl, all⟩

/-- Where all pairs can be hashed that have a property, and have it again, a tree
can be built of leaves that have it. -/
theorem ascend_total (closed : ∀ first second, holds first → holds second → ∃ node, pair first second = .ok node ∧ holds node)
    (steps : Nat) {level : List α} (all : ∀ node ∈ level, holds node) :
    ∃ top, ascend pair steps level = .ok top ∧ ∀ node ∈ top, holds node := by
  fun_induction ascend pair steps level with
  | case1 steps first second rest ih =>
    obtain ⟨next, above, high⟩ := parents_total closed all
    obtain ⟨top, up, last⟩ := ih next high
    exact ⟨top, by simp [above, up, ok_bind], last⟩
  | case2 steps level short => exact ⟨level, rfl, all⟩

end Totality

/-! ### Soundness

A proof may come from anywhere: it may begin at an inner node, or go on below a
leaf. Where the hash has no collisions between the tree and the way up, what
reaches the root is a node of the tree. -/

section Soundness

/-- The pairs of a level. -/
def couples : List α → List (α × α)
  | first :: second :: rest => (first, second) :: couples rest
  | _ => []

variable (pair) in
/-- What is hashed to build the levels above a level. -/
def joins : Nat → List α → List (α × α)
  | steps + 1, first :: second :: rest =>
    couples (first :: second :: rest) ++
      match parents pair (first :: second :: rest) with
      | .ok next => joins steps next
      | .error _ => []
  | _, _ => []

variable (pair) in
/-- What is hashed on the way up from a leaf. -/
def path : α → List α → List (α × α)
  | _, [] => []
  | node, sibling :: rest =>
    (node, sibling) ::
      match pair node sibling with
      | .ok parent => path parent rest
      | .error _ => []

variable (pair) in
/-- The nodes that leaves make when the given pairs are hashed. -/
inductive Node (leaves : List α) (joined : List (α × α)) : α → Prop where
  | leaf {node} (member : node ∈ leaves) : Node leaves joined node
  | join {first second parent} (member : (first, second) ∈ joined) (hashed : pair first second = .ok parent)
      (left : Node leaves joined first) (right : Node leaves joined second) : Node leaves joined parent

variable {leaves : List α} {joined : List (α × α)}

theorem parents_nodes {level next : List α} (above : parents pair level = .ok next)
    (included : ∀ couple ∈ couples level, couple ∈ joined) (nodes : ∀ node ∈ level, Node pair leaves joined node) :
    ∀ node ∈ next, Node pair leaves joined node := by
  fun_induction parents pair level generalizing next with
  | case1 first second rest ih =>
    simp only [bind_eq_ok, pure_eq_ok] at above
    obtain ⟨top, hashed, others, up, rfl⟩ := above
    simp only [couples, List.forall_mem_cons] at included nodes ⊢
    obtain ⟨left, right, later⟩ := nodes
    constructor
    · exact .join included.1 hashed left right
    · exact ih up included.2 later
  | case2 odd short =>
    obtain rfl : odd = next := by simpa using above
    exact nodes

theorem ascend_nodes {steps : Nat} {level top : List α} (up : ascend pair steps level = .ok top)
    (included : ∀ couple ∈ joins pair steps level, couple ∈ joined)
    (nodes : ∀ node ∈ level, Node pair leaves joined node) : ∀ node ∈ top, Node pair leaves joined node := by
  fun_induction ascend pair steps level with
  | case1 steps first second rest ih =>
    simp only [bind_eq_ok] at up
    obtain ⟨next, above, later⟩ := up
    simp only [joins, above, List.mem_append] at included
    apply ih next later
    · exact fun couple member => included couple (.inr member)
    · exact parents_nodes above (fun couple member => included couple (.inl member)) nodes
  | case2 steps level short =>
    obtain rfl : level = top := by simpa using up
    exact nodes

theorem couples_all {holds : α → Prop} {level : List α} (all : ∀ node ∈ level, holds node) :
    ∀ couple ∈ couples level, holds couple.1 ∧ holds couple.2 := by
  fun_induction couples level with
  | case1 first second rest ih =>
    simp only [List.forall_mem_cons] at all ⊢
    exact ⟨⟨all.1, all.2.1⟩, ih all.2.2⟩
  | case2 odd short => simp

theorem parents_all {holds : α → Prop} (closed : ∀ first second node, pair first second = .ok node → holds node)
    {level next : List α} (above : parents pair level = .ok next) (all : ∀ node ∈ level, holds node) :
    ∀ node ∈ next, holds node := by
  fun_induction parents pair level generalizing next with
  | case1 first second rest ih =>
    simp only [bind_eq_ok, pure_eq_ok] at above
    obtain ⟨top, hashed, others, up, rfl⟩ := above
    simp only [List.forall_mem_cons] at all ⊢
    exact ⟨closed first second top hashed, ih up all.2.2⟩
  | case2 odd short =>
    obtain rfl : odd = next := by simpa using above
    exact all

theorem ascend_all {holds : α → Prop} (closed : ∀ first second node, pair first second = .ok node → holds node)
    {steps : Nat} {level top : List α} (up : ascend pair steps level = .ok top) (all : ∀ node ∈ level, holds node) :
    ∀ node ∈ top, holds node := by
  fun_induction ascend pair steps level with
  | case1 steps first second rest ih =>
    simp only [bind_eq_ok] at up
    obtain ⟨next, above, later⟩ := up
    exact ih next later (parents_all closed above all)
  | case2 steps level short =>
    obtain rfl : level = top := by simpa using up
    exact all

theorem siblings_all {holds : α → Prop} (closed : ∀ first second node, pair first second = .ok node → holds node)
    {steps : Nat} {level proof : List α} {index : Nat} (met : siblings pair steps level index = .ok proof)
    (all : ∀ node ∈ level, holds node) : ∀ sibling ∈ proof, holds sibling := by
  fun_induction siblings pair steps level index generalizing proof with
  | case1 steps first second rest index ih =>
    simp only [bind_eq_ok, pure_eq_ok] at met
    obtain ⟨next, above, later, up, rfl⟩ := met
    intro sibling member
    rcases List.mem_append.mp member with here | high
    · exact all sibling (List.mem_of_getElem? (Option.mem_toList.mp here))
    · exact ih next up (parents_all closed above all) sibling high
  | case2 steps level index short =>
    obtain rfl : [] = proof := by simpa using met
    simp

/-- What holds of the leaves and of every hash holds of all that is hashed. -/
theorem joins_all {holds : α → Prop} (closed : ∀ first second node, pair first second = .ok node → holds node)
    {steps : Nat} {level : List α} (all : ∀ node ∈ level, holds node) :
    ∀ couple ∈ joins pair steps level, holds couple.1 ∧ holds couple.2 := by
  induction steps generalizing level with
  | zero => simp [joins]
  | succ steps ih =>
    match level, all with
    | [], _ => simp [joins]
    | [last], _ => simp [joins]
    | first :: second :: rest, all =>
      intro couple member
      simp only [joins, List.mem_append] at member
      rcases member with here | above
      · exact couples_all all couple here
      · split at above
        next next made => exact ih (parents_all closed made all) couple above
        next => cases above

theorem path_all {holds : α → Prop} (closed : ∀ first second node, pair first second = .ok node → holds node)
    {start : α} {proof : List α} (begins : holds start) (all : ∀ sibling ∈ proof, holds sibling) :
    ∀ step ∈ path pair start proof, holds step.1 ∧ holds step.2 := by
  induction proof generalizing start with
  | nil => simp [path]
  | cons sibling rest ih =>
    intro step member
    simp only [List.forall_mem_cons] at all
    simp only [path, List.mem_cons] at member
    rcases member with rfl | above
    · exact ⟨begins, all.1⟩
    · split at above
      next parent made => exact ih (closed start sibling parent made) all.2 step above
      next => cases above

/-- A step begins where the way up begins, or where an earlier step has led. -/
theorem path_begins {start : α} {proof : List α} :
    ∀ step ∈ path pair start proof, step.1 = start ∨ ∃ before ∈ path pair start proof, pair before.1 before.2 = .ok step.1 := by
  induction proof generalizing start with
  | nil => simp [path]
  | cons sibling rest ih =>
    intro step member
    rw [path, List.mem_cons] at member
    rcases member with rfl | above
    · exact .inl rfl
    · right
      rw [path]
      split at above
      next parent made =>
        rcases ih step above with here | ⟨before, inside, joined⟩
        · exact ⟨(start, sibling), List.mem_cons_self .., here ▸ made⟩
        · exact ⟨before, List.mem_cons_of_mem _ (by simpa only [made] using inside), joined⟩
      next => cases above

/-- What holds of the siblings holds of what the steps meet. -/
theorem path_siblings {holds : α → Prop} {start : α} {proof : List α} (all : ∀ sibling ∈ proof, holds sibling) :
    ∀ step ∈ path pair start proof, holds step.2 := by
  induction proof generalizing start with
  | nil => simp [path]
  | cons sibling rest ih =>
    intro step member
    obtain ⟨here, later⟩ := List.forall_mem_cons.mp all
    rw [path, List.mem_cons] at member
    rcases member with rfl | above
    · exact here
    · split at above
      next parent made => exact ih later step above
      next => cases above

/-- A way up that ends at a node of the tree is inside the tree all along: its
last step hashes what the tree hashes there, and so on down. -/
theorem Node.of_climb {start root : α} {proof : List α}
    (binds : ∀ couple ∈ joined, ∀ step ∈ path pair start proof, ∀ node, pair couple.1 couple.2 = .ok node →
      pair step.1 step.2 = .ok node → step.1 = couple.1 ∨ step.1 = couple.2)
    (fresh : ∀ step ∈ path pair start proof, ∀ node, pair step.1 step.2 = .ok node → node ∉ leaves)
    (climbs : climb pair start proof = .ok root) (made : Node pair leaves joined root) :
    Node pair leaves joined start := by
  induction proof generalizing start with
  | nil =>
    obtain rfl : start = root := by simpa [climb, pure_eq_ok] using climbs
    exact made
  | cons sibling rest ih =>
    simp only [climb, List.foldlM_cons, bind_eq_ok] at climbs
    obtain ⟨parent, hashed, later⟩ := climbs
    simp only [path, hashed, List.mem_cons] at binds fresh
    have above : Node pair leaves joined parent := by
      apply ih _ _ later
      · exact fun couple member step inside => binds couple member step (.inr inside)
      · exact fun step inside => fresh step (.inr inside)
    cases above with
    | leaf member => exact absurd member (fresh _ (.inl rfl) parent hashed)
    | @join first second _ member joinedHash left right =>
      have side : start = first ∨ start = second :=
        binds (first, second) member (start, sibling) (.inl rfl) parent joinedHash hashed
      rcases side with rfl | rfl
      · exact left
      · exact right

/-! Inner nodes reach the root as well. -/

theorem couples_of_index {level : List α} {index : Nat} {node sibling : α} (here : level[index]? = some node)
    (beside : level[index ^^^ 1]? = some sibling) :
    (node, sibling) ∈ couples level ∨ (sibling, node) ∈ couples level := by
  fun_induction couples level generalizing index with
  | case1 first second rest ih =>
    match index with
    | 0 =>
      obtain rfl : first = node := by simpa using here
      obtain rfl : second = sibling := by simpa using beside
      exact .inl (List.mem_cons_self ..)
    | 1 =>
      obtain rfl : second = node := by simpa using here
      obtain rfl : first = sibling := by simpa using beside
      exact .inr (List.mem_cons_self ..)
    | index + 2 =>
      rw [xor_one_add_two] at beside
      exact (ih (by simpa using here) (by simpa using beside)).imp (List.mem_cons_of_mem _) (List.mem_cons_of_mem _)
  | case2 odd short =>
    match odd, short with
    | [], _ => simp at here
    | [last], _ =>
      match index with
      | 0 => simp at beside
      | index + 1 => simp at here
    | first :: second :: rest, short => exact absurd rfl (short first second rest)

/-- On the way up from a leaf the pairs of the tree are hashed. -/
theorem siblings_path (commutes : ∀ a b, pair a b = pair b a) {steps : Nat} {level proof : List α} {index : Nat} {leaf : α}
    (met : siblings pair steps level index = .ok proof) (here : level[index]? = some leaf) :
    ∀ step ∈ path pair leaf proof, step ∈ joins pair steps level ∨ step.swap ∈ joins pair steps level := by
  fun_induction siblings pair steps level index generalizing proof leaf with
  | case1 steps first second rest index ih =>
    simp only [bind_eq_ok, pure_eq_ok] at met
    obtain ⟨next, above, later, up, rfl⟩ := met
    obtain ⟨parent, found, made⟩ := parents_step commutes above here
    have higher := ih next up found
    have lift (step : α × α) (inside : step ∈ path pair parent later) :
        step ∈ joins pair (steps + 1) (first :: second :: rest) ∨
          step.swap ∈ joins pair (steps + 1) (first :: second :: rest) := by
      simp only [joins, above, List.mem_append]
      exact (higher step inside).imp .inr .inr
    cases beside : (first :: second :: rest)[index ^^^ 1]? with
    | none =>
      rw [beside] at made
      obtain rfl : leaf = parent := by simpa [pure_eq_ok] using made
      exact lift
    | some sibling =>
      rw [beside] at made
      have hashed : pair leaf sibling = .ok parent := by simpa using made
      simp only [Option.toList_some, List.cons_append, List.nil_append, path, hashed, List.forall_mem_cons]
      refine ⟨?_, lift⟩
      simp only [joins, List.mem_append]
      exact (couples_of_index here beside).imp .inl .inl
  | case2 steps level index short =>
    obtain rfl : [] = proof := by simpa using met
    simp [path]

theorem mem_parents {level next : List α} (above : parents pair level = .ok next) {couple : α × α} {node : α}
    (member : couple ∈ couples level) (hashed : pair couple.1 couple.2 = .ok node) : node ∈ next := by
  fun_induction parents pair level generalizing next with
  | case1 first second rest ih =>
    simp only [bind_eq_ok, pure_eq_ok] at above
    obtain ⟨top, made, others, up, rfl⟩ := above
    rcases List.mem_cons.mp member with rfl | later
    · obtain rfl : node = top := Except.ok.inj (hashed.symm.trans made)
      exact List.mem_cons_self ..
    · exact List.mem_cons_of_mem _ (ih up later)
  | case2 odd short =>
    cases odd with
    | nil => cases member
    | cons first later =>
      cases later with
      | nil => cases member
      | cons second rest => exact absurd rfl (short first second rest)

/-- What is hashed for the tree has siblings, nodes of the tree like itself, that
lead to the root. -/
theorem inner_climb {holds : α → Prop} (commutes : ∀ a b, pair a b = pair b a)
    (closed : ∀ first second node, pair first second = .ok node → holds node) {steps : Nat} {level : List α} {root : α}
    (up : ascend pair steps level = .ok [root]) (all : ∀ node ∈ level, holds node) {couple : α × α} {node : α}
    (member : couple ∈ joins pair steps level) (hashed : pair couple.1 couple.2 = .ok node) :
    ∃ proof, climb pair node proof = .ok root ∧ (∀ sibling ∈ proof, holds sibling) ∧
      ∀ step ∈ path pair node proof, step ∈ joins pair steps level ∨ step.swap ∈ joins pair steps level := by
  induction steps generalizing level with
  | zero => simp [joins] at member
  | succ steps ih =>
    match level, all with
    | [], _ => simp [joins] at member
    | [last], _ => simp [joins] at member
    | first :: second :: rest, all =>
      simp only [ascend, bind_eq_ok] at up
      obtain ⟨next, above, later⟩ := up
      have high := parents_all closed above all
      simp only [joins, above, List.mem_append] at member ⊢
      rcases member with here | inside
      · obtain ⟨index, found⟩ := List.mem_iff_getElem?.mp (mem_parents above here hashed)
        obtain ⟨proof, met, climbs⟩ := siblings_climb commutes later found
        refine ⟨proof, climbs, siblings_all closed met high, ?_⟩
        intro step taken
        exact (siblings_path commutes met found step taken).imp .inr .inr
      · obtain ⟨proof, climbs, words, taken⟩ := ih later high inside
        exact ⟨proof, climbs, words, fun step there => (taken step there).imp .inr .inr⟩

/-- What is no hash of the tree and reaches the root is a leaf. -/
theorem mem_leaves_of_climb {steps : Nat} {level : List α} {start root : α} {proof : List α}
    (up : ascend pair steps level = .ok [root])
    (binds : ∀ couple ∈ joins pair steps level, ∀ step ∈ path pair start proof, ∀ node,
      pair couple.1 couple.2 = .ok node → pair step.1 step.2 = .ok node → step.1 = couple.1 ∨ step.1 = couple.2)
    (fresh : ∀ step ∈ path pair start proof, ∀ node, pair step.1 step.2 = .ok node → node ∉ level)
    (low : ∀ couple ∈ joins pair steps level, pair couple.1 couple.2 ≠ .ok start)
    (climbs : climb pair start proof = .ok root) : start ∈ level := by
  have top : Node pair level (joins pair steps level) root := by
    apply ascend_nodes up
    · exact fun couple member => member
    · exact fun node member => .leaf member
    · exact List.mem_singleton_self root
  cases Node.of_climb binds fresh climbs top with
  | leaf member => exact member
  | join member hashed left right => exact absurd hashed (low _ member)

end Soundness

end MerkleTree
