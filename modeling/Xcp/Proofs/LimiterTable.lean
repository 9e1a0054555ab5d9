import Xcp.Proofs.InFlight
import Xcp.Proofs.RetryAdvice
import Xcp.TrustFirewall.Limits

/-! The size of the table of callers. A check makes room for the caller that it
adds, and a hold does not. -/

namespace Xcp.Limits.RateLimiter
open Transition

/-- No more callers than the table is meant for, beside those in flight. -/
structure Bounded (limiter : RateLimiter) : Prop where
  beside : limiter.buckets.size ≤ limiter.maxTracked + limiter.busyCallers
  all : limiter.busyCallers < limiter.maxTracked → limiter.buckets.size ≤ limiter.maxTracked

/-- A hold is entered for a caller of the table, or while there is room for one. -/
def Roomy (limiter : RateLimiter) : Event → Prop
  | .acquire key => (limiter.buckets.get? key).isSome ∨ limiter.buckets.size < limiter.maxTracked
  | _ => True

def Small (limiter : RateLimiter) : Prop := limiter.buckets.size ≤ limiter.maxTracked

section Runs

theorem Small.bounded {limiter : RateLimiter} (small : Small limiter) : Bounded limiter :=
  ⟨Nat.le_add_right_of_le small, fun _ => small⟩

/-- A table that is one caller too large loses one, if one of them is idle. -/
theorem evictLoop_size {maxTracked turns : Nat} {buckets : Dict String Bucket} {key : String} {b : Bucket}
    (held : buckets.get? key = some b) (idle : b.inflight = 0) (most : buckets.size ≤ maxTracked + 1) :
    (evictLoop maxTracked (turns + 1) buckets).size ≤ maxTracked := by
  unfold evictLoop
  split
  · split
    next entry found =>
      have there : buckets.get? entry.1 = some entry.2 := Dict.mem_entries.mp (List.mem_of_find?_eq_some found)
      apply evictLoop_keeps (fun buckets => buckets.size ≤ maxTracked)
      · intro buckets key b held _ small
        have smaller := Dict.size_remove held
        omega
      · have smaller := Dict.size_remove there
        omega
    next none =>
      have busy := List.find?_eq_none.mp none _ (Dict.mem_entries.mpr held)
      simp [idle] at busy
  next small => omega

theorem tracked_size {limiter : RateLimiter} (small : Small limiter) (call : Call) :
    (limiter.tracked call).buckets.size ≤ limiter.maxTracked := by
  cases own : limiter.buckets.get? call.key with
  | some b =>
    rw [tracked_of_some own]
    exact small
  | none =>
    have added : (limiter.buckets.set call.key (limiter.bucketFor call)).get? call.key = some (limiter.bucketFor call) := by
      simp
    rw [tracked_of_none own]
    apply evictLoop_size added (bucketFor_idle own)
    rw [Dict.size_set_of_none own]
    exact Nat.add_le_add_right small 1

theorem size_moveToEnd {buckets moved : Dict String Bucket} {key : String} (latest : buckets.moveToEnd key = some moved) :
    moved.size = buckets.size := by
  rw [Dict.size_eq_sum, Dict.size_eq_sum, Dict.sum_moveToEnd _ latest]

theorem Small.check {limiter : RateLimiter} (small : Small limiter) (call : Call) : Small (limiter.check call).1 := by
  have table := tracked_size small call
  have moves (buckets : Dict String Bucket) (latest : (limiter.tracked call).buckets.moveToEnd call.key = some buckets) :
      buckets.size ≤ limiter.maxTracked ∧
        (buckets.set call.key ((limiter.bucketFor call).take call.cost call.allowance call.now).1).size ≤
          limiter.maxTracked := by
    rw [Dict.size_set_of_some (bucketFor_latest latest), size_moveToEnd latest]
    exact ⟨table, table⟩
  unfold Small
  rw [(limiter.check_frame call).2.1]
  have outcome := limiter.check_outcome call
  generalize limiter.check call = result at outcome ⊢
  cases outcome with
  | body => exact small
  | capacity => exact small
  | ceiling => exact small
  | unavailable => exact table
  | concurrency buckets reason passed latest => exact (moves buckets latest).1
  | rate buckets reason retry passed latest => exact (moves buckets latest).2
  | admitted buckets decision passed latest => exact (moves buckets latest).2

theorem acquire_size (limiter : RateLimiter) (key : String) : (limiter.acquire key).buckets.size =
    if (limiter.buckets.get? key).isSome then limiter.buckets.size else limiter.buckets.size + 1 := by
  unfold acquire
  cases held : limiter.buckets.get? key with
  | none => simp [Dict.size_set_of_none held]
  | some b => simp [Dict.size_set_of_some held]

theorem release_size (limiter : RateLimiter) (key : String) :
    (limiter.release key).buckets.size = limiter.buckets.size := by
  unfold release
  cases held : limiter.buckets.get? key with
  | none => rfl
  | some b =>
    by_cases busy : 0 < b.inflight
    · simp [busy, Dict.size_set_of_some held]
    · simp [busy]

theorem Small.step {limiter : RateLimiter} {event : Event} (small : Small limiter) (roomy : Roomy limiter event) :
    Small (limiter.step event) := by
  cases event with
  | check call => exact small.check call
  | acquire key =>
    change (limiter.acquire key).buckets.size ≤ limiter.maxTracked
    rw [acquire_size]
    split
    next => exact small
    next absent => exact roomy.resolve_left absent
  | release key =>
    change (limiter.release key).buckets.size ≤ limiter.maxTracked
    rw [release_size]
    exact small

/-- The table stays small exactly as long as no hold adds a caller to a full one. -/
theorem small_iff_roomy (globalRatePerMin globalBurst globalConcurrency maxTracked : Nat) (failClosed : Bool)
    (events : List Event) :
    Always step Small (fresh globalRatePerMin globalBurst globalConcurrency maxTracked failClosed) events ↔
      Meets step Roomy (fresh globalRatePerMin globalBurst globalConcurrency maxTracked failClosed) events := by
  have start : Small (fresh globalRatePerMin globalBurst globalConcurrency maxTracked failClosed) := Nat.zero_le _
  apply always_iff_meets (fun _ _ small roomy => Small.step small roomy) (fun _ small => small) _ start
  intro limiter event small crowded
  cases event with
  | check call => exact absurd trivial crowded
  | acquire key =>
    obtain ⟨absent, full⟩ := not_or.mp crowded
    change ¬ (limiter.acquire key).buckets.size ≤ limiter.maxTracked
    rw [acquire_size, if_neg absent]
    omega
  | release key => exact absurd trivial crowded

/-- In a run in which no hold adds a caller to a full table, the table is bounded
all along. -/
theorem table_bounded (globalRatePerMin globalBurst globalConcurrency maxTracked : Nat) (failClosed : Bool)
    (events : List Event)
    (roomy : Meets step Roomy (fresh globalRatePerMin globalBurst globalConcurrency maxTracked failClosed) events) :
    Always step Bounded (fresh globalRatePerMin globalBurst globalConcurrency maxTracked failClosed) events := by
  have start : Small (fresh globalRatePerMin globalBurst globalConcurrency maxTracked failClosed) := Nat.zero_le _
  exact roomy.always (fun _ _ small roomy => Small.step small roomy) (fun _ small => small.bounded) start

/-- One caller may be tracked; a second one comes while the first is in flight. -/
theorem table_one : Always step Bounded (fresh 120000 40000 256 1 true)
    [.acquire "|a", .check { agentKey := "b", now := 0 }, .release "|a", .check { agentKey := "b", now := 1 }] :=
  table_bounded 120000 40000 256 1 true _ ⟨.inr (by decide), trivial, trivial, trivial, trivial⟩

/-- Each hold of a new caller leaves it behind, with nothing in flight. -/
theorem table_grows :
    ¬ Bounded (run step (fresh 120000 40000 256 1 true)
      [.acquire "|a", .release "|a", .acquire "|b", .release "|b", .acquire "|c", .release "|c"]) := by
  intro bounded
  exact absurd bounded.beside (by decide +kernel)

end Runs

end Xcp.Limits.RateLimiter

/-! When the limiter fails itself. A new caller with nothing in flight may be the
one that has to make room in the table, and is then looked for in vain. -/

namespace Xcp.Limits.RateLimiter
open Transition

/-- A check runs into an exception under the lock. -/
structure Fails (limiter : RateLimiter) (call : Call) : Prop where
  fits : call.bodyBytes ≤ call.allowance.maxBodyBytes
  raised : ∃ e, (limiter.checkLocked call).2 = .error e

/-- A limit that a call has really reached, by the name that a refusal gives it. -/
inductive Reached (limiter : RateLimiter) (call : Call) : String → Prop
  | body (large : call.allowance.maxBodyBytes < call.bodyBytes) : Reached limiter call "body"
  | capacity (short : limiter.shared call.now < call.cost) : Reached limiter call "global"
  | ceiling (full : limiter.ceiling.concurrency ≤ limiter.globalInflight) : Reached limiter call "global"
  | concurrency (busy : call.allowance.concurrency ≤ (limiter.bucketFor call).inflight) : Reached limiter call "concurrency"
  | rate (short : ¬ RateAdmits limiter call) : Reached limiter call "rate"

/-- A check does not fail, and refuses a call only for a limit that is reached. -/
def Faultless (limiter : RateLimiter) : Event → Prop
  | .check call => ¬ Fails limiter call ∧
      ((limiter.check call).2.allowed = false → Reached limiter call (limiter.check call).2.limit)
  | _ => True

/-- Whoever gets past the ceiling is in the table, or the callers with requests in
flight leave room in it. -/
def Accommodates (limiter : RateLimiter) : Event → Prop
  | .check call => call.bodyBytes ≤ call.allowance.maxBodyBytes → call.cost ≤ limiter.shared call.now →
      limiter.globalInflight < limiter.ceiling.concurrency →
        (limiter.buckets.get? call.key).isSome ∨ limiter.busyCallers < limiter.maxTracked
  | _ => True

section Checks
variable {limiter : RateLimiter} {call : Call}

theorem open_iff : limiter.Open call ↔ call.bodyBytes ≤ call.allowance.maxBodyBytes ∧
    call.cost ≤ limiter.shared call.now ∧ limiter.globalInflight < limiter.ceiling.concurrency := by
  rw [shared, ← Bucket.take_taken]
  constructor
  · intro stands
    exact ⟨stands.fits, stands.paid, stands.room⟩
  · rintro ⟨fits, paid, room⟩
    exact ⟨fits, paid, room⟩

theorem fails_iff : Fails limiter call ↔
    limiter.Open call ∧ ¬ ((limiter.buckets.get? call.key).isSome ∨ limiter.busyCallers < limiter.maxTracked) := by
  rw [← dropped_iff]
  constructor
  · rintro ⟨fits, e, raised⟩
    have passed : limiter.Open call := by
      cases paid : (limiter.globalBucket.take call.cost limiter.ceiling call.now).2.1 with
      | false => simp [checkLocked, paid] at raised
      | true =>
        refine ⟨fits, paid, ?_⟩
        by_contra full
        simp [checkLocked, paid, not_lt.mp full] at raised
    refine ⟨passed, ?_⟩
    rw [checkLocked_open passed] at raised
    cases latest : (limiter.tracked call).buckets.moveToEnd call.key with
    | none => rfl
    | some buckets => simp [latest] at raised
  · rintro ⟨passed, dropped⟩
    refine ⟨passed.fits, ⟨.keyError, call.key⟩, ?_⟩
    rw [checkLocked_open passed, dropped]
    rfl

theorem reached_of_refused (sound : ¬ Fails limiter call) (refused : (limiter.check call).2.allowed = false) :
    Reached limiter call (limiter.check call).2.limit := by
  have outcome := limiter.check_outcome call
  generalize limiter.check call = result at outcome refused ⊢
  cases outcome with
  | body _ large => exact .body large
  | capacity _ _ short => exact .capacity (Bucket.take_refused short).1
  | ceiling _ _ full => exact .ceiling full
  | unavailable passed dropped => exact absurd (fails_iff.mpr ⟨passed, (dropped_iff ..).mp dropped⟩) sound
  | concurrency _ _ _ _ busy => exact .concurrency busy
  | rate _ _ _ _ _ _ short => exact .rate (not_le.mpr (Bucket.take_refused short).1)
  | admitted _ _ _ _ _ _ answer => simp [answer] at refused

theorem faultless_event (limiter : RateLimiter) (event : Event) : Faultless limiter event ↔ Accommodates limiter event := by
  cases event with
  | check call =>
    have room : Accommodates limiter (.check call) ↔ ¬ Fails limiter call := by
      rw [fails_iff, open_iff, Accommodates]
      tauto
    rw [room]
    exact ⟨fun sound => sound.1, fun sound => ⟨sound, reached_of_refused sound⟩⟩
  | acquire => exact Iff.rfl
  | release => exact Iff.rfl

end Checks

/-- No check of a run fails exactly where all whom the ceiling lets through find
room in the table. -/
theorem faultless_iff (globalRatePerMin globalBurst globalConcurrency maxTracked : Nat) (failClosed : Bool)
    (events : List Event) :
    Meets step Faultless (fresh globalRatePerMin globalBurst globalConcurrency maxTracked failClosed) events ↔
      Meets step Accommodates (fresh globalRatePerMin globalBurst globalConcurrency maxTracked failClosed) events := by
  constructor
  · apply Meets.mono
    intro limiter event
    exact (faultless_event limiter event).mp
  · apply Meets.mono
    intro limiter event
    exact (faultless_event limiter event).mpr

/-! ### Room by the ceiling -/

/-- The counters are exact, and no more may be in flight than the table has room for. -/
structure Spacious (holding : Holding) : Prop where
  counted : Counted holding
  room : holding.1.ceiling.concurrency ≤ holding.1.maxTracked

theorem busyCallers_le (limiter : RateLimiter) : limiter.busyCallers ≤ limiter.buckets.sum Bucket.inflight := by
  apply List.sum_le_sum
  intro b _
  unfold Bucket.busy
  split <;> omega

theorem Spacious.step {holding : Holding} {event : Event} (spacious : Spacious holding) (paired : Paired holding event) :
    Spacious (stepHolding holding event) ∧ Faultless holding.1 event := by
  obtain ⟨limiter, entered⟩ := holding
  obtain ⟨counted, room⟩ := spacious
  refine ⟨⟨counted.step paired, ?_⟩, ?_⟩
  · cases event with
    | check call =>
      obtain ⟨_, most, ceiling, _⟩ := limiter.check_frame call
      change (limiter.check call).1.ceiling.concurrency ≤ (limiter.check call).1.maxTracked
      rwa [most, ceiling]
    | acquire => exact room
    | release => exact room
  · apply (faultless_event limiter event).mpr
    cases event with
    | check call =>
      intro _ _ below
      have busy := limiter.busyCallers_le
      have callers := counted.exact.callers
      simp only at callers room
      right
      omega
    | acquire => trivial
    | release => trivial

/-- Where every hold is left once and the ceiling lets no more callers in than the
table has room for, as with the defaults, no check fails. -/
theorem faultless_of_ceiling (globalRatePerMin globalBurst globalConcurrency maxTracked : Nat) (failClosed : Bool)
    (room : globalConcurrency ≤ maxTracked) (events : List Event)
    (paired : Meets stepHolding Paired
      (fresh globalRatePerMin globalBurst globalConcurrency maxTracked failClosed, []) events) :
    Meets stepHolding (fun holding event => Faultless holding.1 event)
      (fresh globalRatePerMin globalBurst globalConcurrency maxTracked failClosed, []) events := by
  have start : Spacious (fresh globalRatePerMin globalBurst globalConcurrency maxTracked failClosed, []) :=
    ⟨⟨⟨rfl, rfl⟩, fun _ => rfl⟩, room⟩
  exact paired.of_held (fun _ _ spacious paired => spacious.step paired) start

/-- One caller may be tracked, and is in flight when another one comes. -/
theorem check_fails :
    let limiter := run step (fresh 120000 40000 256 1 true) [.check { agentKey := "a", now := 0 }, .acquire "|a"]
    let call : Call := { agentKey := "b", now := 0 }
    ¬ Faultless limiter (.check call) ∧ (limiter.check call).2.allowed = false ∧
      (limiter.check call).2.reason = "limiter unavailable: KeyError" := by
  intro limiter call
  have fails : Fails limiter call :=
    fails_iff.mpr ⟨⟨by decide +kernel, by decide +kernel, by decide +kernel⟩, by decide +kernel⟩
  exact ⟨fun sound => sound.1 fails, by decide +kernel, by decide +kernel⟩

end Xcp.Limits.RateLimiter
