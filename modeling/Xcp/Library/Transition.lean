import Mathlib.Algebra.Group.Defs
import Mathlib.Data.List.Basic
import Mathlib.Data.List.Induction

/-! Runs of a machine that takes one event after another. Events that a machine
refuses leave its state alone, so a step is a total function. -/

namespace Transition

variable {σ ε η : Type*} (step : σ → ε → σ)

def run (state : σ) (events : List ε) : σ := events.foldl step state

@[simp] theorem run_nil (state : σ) : run step state [] = state := rfl

@[simp] theorem run_cons (state : σ) (event : ε) (rest : List ε) :
    run step state (event :: rest) = run step (step state event) rest := rfl

theorem run_append (state : σ) (first rest : List ε) :
    run step state (first ++ rest) = run step (run step state first) rest :=
  List.foldl_append

/-- Every event of the run is allowed in the state it arrives in. -/
def Meets (allowed : σ → ε → Prop) : σ → List ε → Prop
  | _, [] => True
  | state, event :: rest => allowed state event ∧ Meets allowed (step state event) rest

/-- Every state of the run is good, its first and its last included. -/
def Always (good : σ → Prop) : σ → List ε → Prop
  | state, [] => good state
  | state, event :: rest => good state ∧ Always good (step state event) rest

variable {step}

theorem Meets.append {allowed : σ → ε → Prop} {state : σ} {first rest : List ε} :
    Meets step allowed state (first ++ rest) ↔
      Meets step allowed state first ∧ Meets step allowed (run step state first) rest := by
  induction first generalizing state with
  | nil => simp [Meets]
  | cons event first ih => simp only [List.cons_append, Meets, run_cons, ih, and_assoc]

theorem Meets.mono {strong weak : σ → ε → Prop} {state : σ} {events : List ε}
    (implies : ∀ state event, strong state event → weak state event)
    (meets : Meets step strong state events) : Meets step weak state events := by
  induction events generalizing state with
  | nil => trivial
  | cons event rest ih => exact ⟨implies _ _ meets.1, ih meets.2⟩

theorem Meets.of_forall {allowed : ε → Prop} {state : σ} {events : List ε}
    (every : ∀ event ∈ events, allowed event) : Meets step (fun _ event => allowed event) state events := by
  induction events generalizing state with
  | nil => trivial
  | cons event rest ih =>
    refine ⟨every event (List.mem_cons_self ..), ih ?_⟩
    intro later member
    exact every later (List.mem_cons_of_mem event member)

theorem Meets.and {first second : σ → ε → Prop} {state : σ} {events : List ε} (one : Meets step first state events)
    (other : Meets step second state events) :
    Meets step (fun state event => first state event ∧ second state event) state events := by
  induction events generalizing state with
  | nil => trivial
  | cons event rest ih => exact ⟨⟨one.1, other.1⟩, ih one.2 other.2⟩

/-- Where an invariant makes each allowed event good, allowed runs are good. -/
theorem Meets.of_held {allowed good : σ → ε → Prop} {held : σ → Prop}
    (keeps : ∀ state event, held state → allowed state event → held (step state event) ∧ good state event)
    {state : σ} {events : List ε} (start : held state) (meets : Meets step allowed state events) :
    Meets step good state events := by
  induction events generalizing state with
  | nil => trivial
  | cons event rest ih =>
    obtain ⟨next, here⟩ := keeps state event start meets.1
    exact ⟨here, ih next meets.2⟩

/-- What an invariant says of each event, it says of the events of every run. -/
theorem Meets.of_invariant {good : σ → ε → Prop} {held : σ → Prop}
    (keeps : ∀ state event, held state → held (step state event) ∧ good state event)
    {state : σ} (start : held state) (events : List ε) : Meets step good state events := by
  have every : Meets step (fun _ _ => True) state events := Meets.of_forall (fun _ _ => trivial)
  exact every.of_held (fun state event held _ => keeps state event held) start

theorem Meets.invariant {allowed : σ → ε → Prop} {good : σ → Prop}
    (keeps : ∀ state event, good state → allowed state event → good (step state event))
    {state : σ} {events : List ε} (start : good state) (meets : Meets step allowed state events) :
    good (run step state events) := by
  induction events generalizing state with
  | nil => exact start
  | cons event rest ih => exact ih (keeps state event start meets.1) meets.2

theorem run_invariant {good : σ → Prop}
    (keeps : ∀ state event, good state → good (step state event))
    {state : σ} (start : good state) (events : List ε) : good (run step state events) := by
  induction events generalizing state with
  | nil => exact start
  | cons event rest ih => exact ih (keeps state event start)

/-- What a state owes to the events before it. -/
theorem run_history {held : List ε → σ → Prop} {start : σ} (initial : held [] start)
    (keeps : ∀ past event, held past (run step start past) → held (past ++ [event]) (step (run step start past) event))
    (events : List ε) : held events (run step start events) := by
  induction events using List.reverseRecOn with
  | nil => exact initial
  | append_singleton past event ih =>
    rw [run_append]
    exact keeps past event ih

theorem Always.start {good : σ → Prop} {state : σ} {events : List ε}
    (always : Always step good state events) : good state := by
  cases events with
  | nil => exact always
  | cons event rest => exact always.1

theorem Meets.always {allowed : σ → ε → Prop} {held good : σ → Prop}
    (keeps : ∀ state event, held state → allowed state event → held (step state event))
    (implies : ∀ state, held state → good state)
    {state : σ} {events : List ε} (start : held state) (meets : Meets step allowed state events) :
    Always step good state events := by
  induction events generalizing state with
  | nil => exact implies state start
  | cons event rest ih => exact ⟨implies state start, ih (keeps state event start meets.1) meets.2⟩

/-- When a disallowed event is noticed in the state right after it, the run is
good throughout exactly when it has no disallowed event. -/
theorem always_iff_meets {allowed : σ → ε → Prop} {held good : σ → Prop}
    (keeps : ∀ state event, held state → allowed state event → held (step state event))
    (implies : ∀ state, held state → good state)
    (breaks : ∀ state event, held state → ¬ allowed state event → ¬ good (step state event))
    {state : σ} {events : List ε} (start : held state) :
    Always step good state events ↔ Meets step allowed state events := by
  refine ⟨fun always => ?_, fun meets => meets.always keeps implies start⟩
  induction events generalizing state with
  | nil => trivial
  | cons event rest ih =>
    have accepted : allowed state event := by
      by_contra refused
      exact breaks state event start refused always.2.start
    exact ⟨accepted, ih (keeps state event start accepted) always.2⟩

/-! ### Sums over a run -/

/-- What the events of a run weigh together, each in the state it arrives in. -/
def total {κ : Type*} [AddMonoid κ] (step : σ → ε → σ) (weight : σ → ε → κ) : σ → List ε → κ
  | _, [] => 0
  | state, event :: rest => weight state event + total step weight (step state event) rest

theorem total_eq_zero {κ : Type*} [AddMonoid κ] {weight : σ → ε → κ} (weightless : ∀ state event, weight state event = 0)
    (state : σ) (events : List ε) : total step weight state events = 0 := by
  induction events generalizing state with
  | nil => rfl
  | cons event rest ih => rw [total, weightless, ih, add_zero]

/-! ### History variables -/

/-- The same machine beside a record of what its events did. -/
def remember (step : σ → ε → σ) (note : σ → ε → List η) : σ × List η → ε → σ × List η :=
  fun (state, past) event => (step state event, past ++ note state event)

/-- What is said about the machine alone holds with and without the record. -/
theorem always_remember {good : σ → Prop} {note : σ → ε → List η} {state : σ} {past : List η} {events : List ε} :
    Always (remember step note) (fun both => good both.1) (state, past) events ↔ Always step good state events := by
  induction events generalizing state past with
  | nil => exact Iff.rfl
  | cons event rest ih => exact and_congr Iff.rfl ih

end Transition

/-! Systems in which a name can be killed: from then on nobody may be served
under it. What a component calls killed, served and reopened is its own; the
laws say that these three fit together, and a run is then safe until something
reopens the name. -/

/-- `killed` is what the state records after a kill, `served` what an outsider
can still obtain under the name, and `reopens` the events that put a live entry
in the place of a killed one. -/
structure KillSwitch (σ ε : Type*) where
  step : σ → ε → σ
  killed : σ → Prop
  served : σ → Prop
  reopens : σ → ε → Prop
  refuses : ∀ state, killed state → ¬ served state
  sticks : ∀ state event, killed state → ¬ reopens state event → killed (step state event)

namespace KillSwitch
open Transition

variable {σ ε : Type*} (switch : KillSwitch σ ε)

/-- Until the name is reopened nobody is served under it, in any state. -/
theorem never_served {state : σ} {events : List ε} (dead : switch.killed state)
    (closed : Meets switch.step (fun state event => ¬ switch.reopens state event) state events) :
    Always switch.step (fun state => ¬ switch.served state) state events :=
  closed.always switch.sticks switch.refuses dead

/-- Where reopening also brings the service back, a run keeps the name out of
service exactly when nothing in it reopens the name. -/
theorem never_served_iff
    (revives : ∀ state event, switch.killed state → switch.reopens state event →
      switch.served (switch.step state event))
    {state : σ} {events : List ε} (dead : switch.killed state) :
    Always switch.step (fun state => ¬ switch.served state) state events ↔
      Meets switch.step (fun state event => ¬ switch.reopens state event) state events :=
  always_iff_meets switch.sticks switch.refuses
    (fun state event held reopened => not_not_intro (revives state event held (not_not.mp reopened))) dead

end KillSwitch
