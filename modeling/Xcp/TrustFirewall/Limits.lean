import Mathlib.Algebra.Order.Ring.Rat
import Mathlib.Tactic.Positivity
import Xcp.Library.Dict
import Xcp.Library.PythonText
import Xcp.Library.TokenBucket

/-! The limits of a node that serves strangers. A caller has a rate, a burst, a
concurrency and a body size by its tier, and all callers share a ceiling. The
table of callers is bounded: the least recently used one makes room. -/

namespace Xcp.Limits
open Python

/-- What a request costs to serve, in units. -/
def costs : List (String × Nat) :=
  [("tools/list", 1), ("resources/list", 1), ("prompts/list", 1), ("resources/read", 2), ("prompts/get", 2),
    ("completion/complete", 2), ("tools/call", 5), ("a2a:delegate", 8), ("t2t:chain", 12), ("wrap", 8),
    ("federation", 1), ("_default", 5)]

def cost (kind : String) : Option Nat := costs.lookup kind

structure Allowance where
  /-- Cost units, sustained. -/
  ratePerMin : Nat
  burst : Nat
  concurrency : Nat
  maxBodyBytes : Nat
deriving DecidableEq, Repr

def Allowance.refillPerSec (a : Allowance) : Rat := a.ratePerMin / 60

def Allowance.terms (a : Allowance) : TokenBucket.Terms Rat where
  capacity := a.burst
  rate := a.refillPerSec
  capacity_nonneg := Nat.cast_nonneg a.burst
  rate_nonneg := by
    unfold refillPerSec
    positivity

def allowances : List (String × Allowance) :=
  [("A0xH0", { ratePerMin := 60, burst := 30, concurrency := 2, maxBodyBytes := 64 * 1024 }),
    ("A0xH1", { ratePerMin := 300, burst := 150, concurrency := 4, maxBodyBytes := 256 * 1024 }),
    ("A0xH2", { ratePerMin := 120, burst := 60, concurrency := 2, maxBodyBytes := 64 * 1024 }),
    ("A1xH0", { ratePerMin := 600, burst := 300, concurrency := 8, maxBodyBytes := 1024 * 1024 }),
    ("A1xH1", { ratePerMin := 3000, burst := 1000, concurrency := 16, maxBodyBytes := 4 * 1024 * 1024 }),
    ("A1xH2", { ratePerMin := 6000, burst := 2000, concurrency := 32, maxBodyBytes := 8 * 1024 * 1024 }),
    ("A2xH0", { ratePerMin := 3000, burst := 1000, concurrency := 16, maxBodyBytes := 4 * 1024 * 1024 }),
    ("A2xH1", { ratePerMin := 6000, burst := 2000, concurrency := 32, maxBodyBytes := 8 * 1024 * 1024 }),
    ("A2xH2", { ratePerMin := 30000, burst := 10000, concurrency := 64, maxBodyBytes := 16 * 1024 * 1024 })]

def anonymous : Allowance where
  ratePerMin := 20
  burst := 10
  concurrency := 1
  maxBodyBytes := 32 * 1024

structure Decision where
  allowed : Bool
  reason : String := ""
  retryAfter : Int := 0
  limit : String := ""
  tier : String := ""
  cost : Nat := 0
deriving DecidableEq, Repr

structure Bucket extends TokenBucket.Bucket Rat where
  inflight : Nat := 0
deriving DecidableEq

def Bucket.fresh (burst : Nat) : Bucket where
  tokens := burst

/-- One for a caller with a request in flight. -/
def Bucket.busy (b : Bucket) : Nat := if 0 < b.inflight then 1 else 0

def Bucket.refilled (b : Bucket) (a : Allowance) (now : Rat) : Rat :=
  let elapsed := max 0 (now - b.updated.getD now)
  min (a.burst : Rat) (b.tokens + elapsed * a.refillPerSec)

/-- Whether the cost was taken, and how many seconds to wait otherwise. -/
def Bucket.take (b : Bucket) (cost : Nat) (a : Allowance) (now : Rat) : Bucket × Bool × Int :=
  let tokens := b.refilled a now
  if (cost : Rat) ≤ tokens then ({ b with tokens := tokens - cost, updated := some now }, true, 0)
  else
    let deficit := cost - tokens
    ({ b with tokens := tokens, updated := some now }, false,
      max 1 (truncate (deficit / max a.refillPerSec (1 / 1000000000)) + 1))

theorem Bucket.take_draw (b : Bucket) (cost : Nat) (a : Allowance) (now : Rat) :
    (b.take cost a now).1.toBucket = (TokenBucket.draw a.terms b.toBucket cost now).1 ∧
      (b.take cost a now).2.1 = (TokenBucket.draw a.terms b.toBucket cost now).2 := by
  by_cases enough : (cost : Rat) ≤ b.refilled a now
  · have drawn : (cost : Rat) ≤ TokenBucket.level a.terms b.toBucket now := enough
    simp only [TokenBucket.draw_of_le drawn, take, if_pos enough, and_true]
    rfl
  · have short : TokenBucket.level a.terms b.toBucket now < cost := not_le.mp enough
    simp only [TokenBucket.draw_of_lt short, take, if_neg enough, and_true]
    rfl

theorem Bucket.take_taken (b : Bucket) (cost : Nat) (a : Allowance) (now : Rat) :
    (b.take cost a now).2.1 = true ↔ (cost : Rat) ≤ b.refilled a now := by
  simp only [take]
  split <;> simp_all

@[simp] theorem Bucket.take_inflight (b : Bucket) (cost : Nat) (a : Allowance) (now : Rat) :
    (b.take cost a now).1.inflight = b.inflight := by
  simp only [take]
  split <;> rfl

theorem Bucket.take_nonneg {b : Bucket} (holds : 0 ≤ b.tokens) (cost : Nat) (a : Allowance) (now : Rat) :
    0 ≤ (b.take cost a now).1.tokens := by
  have left : 0 ≤ (TokenBucket.draw a.terms b.toBucket cost now).1.tokens := TokenBucket.draw_nonneg holds _ _
  rwa [← (b.take_draw cost a now).1] at left

/-- What was taken is missing from the level. -/
theorem Bucket.level_take (b : Bucket) (cost : Nat) (a : Allowance) (now : Rat) :
    TokenBucket.level a.terms (b.take cost a now).1.toBucket now =
      TokenBucket.level a.terms b.toBucket now - if (b.take cost a now).2.1 then (cost : Rat) else 0 := by
  obtain ⟨drawn, taken⟩ := b.take_draw cost a now
  rw [drawn, taken, TokenBucket.level_draw (Nat.cast_nonneg _)]

/-- Whatever is let through only when its cost was taken is paid for. -/
theorem Bucket.take_pays (b : Bucket) (cost : Nat) (a : Allowance) (now : Rat) {allowed : Bool}
    (paid : allowed = true → (b.take cost a now).2.1 = true) :
    (if allowed then (cost : Rat) else 0) + TokenBucket.level a.terms (b.take cost a now).1.toBucket now ≤
      TokenBucket.level a.terms b.toBucket now := by
  have positive : (0 : Rat) ≤ cost := Nat.cast_nonneg _
  rw [level_take]
  split_ifs with lets drawn
  · linarith
  · exact absurd (paid lets) drawn
  · linarith
  · linarith

/-- The key of a caller's bucket. -/
def keyOf (tier agentKey : String) : String :=
  let agent := if agentKey = "" then "anonymous" else agentKey
  tier ++ "|" ++ agent

structure RateLimiter where
  buckets : Dict String Bucket := {}
  maxTracked : Nat
  failClosed : Bool
  ceiling : Allowance
  globalBucket : Bucket
  globalInflight : Nat := 0
  rejections : Dict String Nat := {}

structure Call where
  agentKey : String
  tier : String := ""
  method : String := ""
  scope : String := ""
  bodyBytes : Nat := 0
  now : Rat
deriving DecidableEq

def allowance (tier : String) : Allowance := (allowances.lookup tier).getD anonymous

def costOf (method scope : String) : Nat :=
  if startsWith scope "t2t:" then (cost "t2t:chain").getD 0
  else if startsWith scope "a2a:" then (cost "a2a:delegate").getD 0
  else (cost method).getD ((cost "_default").getD 0)

theorem costOf_pos (method scope : String) : 0 < costOf method scope := by
  have priced : 0 < (cost method).getD ((cost "_default").getD 0) := by
    cases found : cost method with
    | none => decide
    | some units =>
      obtain ⟨before, after, split, _⟩ := List.lookup_eq_some_iff.mp found
      have every : ∀ entry ∈ costs, 0 < entry.2 := by decide
      exact every (method, units) (by simp [split])
  unfold costOf
  split
  · decide
  · split
    · decide
    · exact priced

namespace Call

def allowance (call : Call) : Allowance := Limits.allowance call.tier

def cost (call : Call) : Nat := costOf call.method call.scope

def key (call : Call) : String := keyOf call.tier call.agentKey

/-- The tier as refusals name it. -/
def tierName (call : Call) : String := if call.tier = "" then "anonymous" else call.tier

def refused (call : Call) (reason limit : String) (retryAfter : Int) : Decision where
  allowed := false
  reason := reason
  retryAfter := retryAfter
  limit := limit
  tier := call.tier
  cost := call.cost

/-- The limiter itself failed. -/
def unavailable (call : Call) (failClosed : Bool) (e : Exception) : Decision :=
  if failClosed then
    { allowed := false, reason := s!"limiter unavailable: {e.kind.className}", retryAfter := 5, limit := "global"
      tier := call.tier }
  else { allowed := true, reason := "limiter unavailable; failing open", tier := call.tier }

end Call

/-- One turn of the loop for each caller: the first one with nothing in flight
goes, until the table is small enough or everyone is in flight. -/
def evictLoop (maxTracked : Nat) : Nat → Dict String Bucket → Dict String Bucket
  | 0, buckets => buckets
  | turns + 1, buckets =>
    if maxTracked < buckets.size then
      match buckets.entries.find? (fun entry => entry.2.inflight = 0) with
      | some entry => evictLoop maxTracked turns (buckets.remove entry.1)
      | none => buckets
    else buckets

/-- What survives the loss of any one caller with nothing in flight survives the loop. -/
theorem evictLoop_keeps (good : Dict String Bucket → Prop) {maxTracked : Nat}
    (keeps : ∀ (buckets : Dict String Bucket) (key : String) (b : Bucket), buckets.get? key = some b → b.inflight = 0 →
      good buckets → good (buckets.remove key))
    {turns : Nat} {buckets : Dict String Bucket} (start : good buckets) : good (evictLoop maxTracked turns buckets) := by
  induction turns generalizing buckets with
  | zero => exact start
  | succ turns ih =>
    unfold evictLoop
    split
    · split
      next entry found =>
        have idle : entry.2.inflight = 0 := by simpa using List.find?_some found
        have held : buckets.get? entry.1 = some entry.2 := Dict.mem_entries.mp (List.mem_of_find?_eq_some found)
        exact ih (keeps buckets entry.1 entry.2 held idle start)
      next => exact start
    · exact start

/-- The loop ends with a small table, or with everyone in flight. -/
theorem evictLoop_done {maxTracked turns : Nat} {buckets : Dict String Bucket} (enough : buckets.size ≤ turns) :
    (evictLoop maxTracked turns buckets).size ≤ maxTracked ∨
      ∀ key b, (evictLoop maxTracked turns buckets).get? key = some b → 0 < b.inflight := by
  induction turns generalizing buckets with
  | zero => exact .inl (by simp only [evictLoop]; omega)
  | succ turns ih =>
    unfold evictLoop
    split
    · split
      next entry found =>
        have held : buckets.get? entry.1 = some entry.2 := Dict.mem_entries.mp (List.mem_of_find?_eq_some found)
        have smaller := Dict.size_remove held
        exact ih (by omega)
      next none =>
        right
        intro key b held
        have busy := List.find?_eq_none.mp none _ (Dict.mem_entries.mpr held)
        simpa [Nat.pos_iff_ne_zero] using busy
    · exact .inl (by omega)

namespace RateLimiter

def fresh (globalRatePerMin : Nat := 120000) (globalBurst : Nat := 40000) (globalConcurrency : Nat := 256)
    (maxTracked : Nat := 50000) (failClosed : Bool := true) : RateLimiter where
  maxTracked := maxTracked
  failClosed := failClosed
  ceiling := { ratePerMin := globalRatePerMin, burst := globalBurst, concurrency := globalConcurrency
               maxBodyBytes := 1 <<< 62 }
  globalBucket := Bucket.fresh globalBurst

def evict (limiter : RateLimiter) : RateLimiter :=
  { limiter with buckets := evictLoop limiter.maxTracked limiter.buckets.size limiter.buckets }

def count (limiter : RateLimiter) (kind : String) : RateLimiter :=
  { limiter with rejections := limiter.rejections.set kind ((limiter.rejections.get? kind).getD 0 + 1) }

def bucketFor (limiter : RateLimiter) (call : Call) : Bucket :=
  (limiter.buckets.get? call.key).getD (Bucket.fresh call.allowance.burst)

/-- A caller that is not in the table comes into it, and may be the one that has
to go. -/
def track (limiter : RateLimiter) (key : String) (burst : Nat) : RateLimiter :=
  match limiter.buckets.get? key with
  | some _ => limiter
  | none => evict { limiter with buckets := limiter.buckets.set key (Bucket.fresh burst) }

/-- The caller's own limits, in a table where its bucket is the latest. -/
def checkCaller (limiter : RateLimiter) (call : Call) (b : Bucket) : RateLimiter × Decision :=
  let a := call.allowance
  if a.concurrency ≤ b.inflight then
    let reason := s!"{a.concurrency} concurrent requests already in flight for this caller"
    (limiter.count "concurrency", call.refused reason "concurrency" 1)
  else
    let (b, ok, retry) := b.take call.cost a call.now
    let limiter := { limiter with buckets := limiter.buckets.set call.key b }
    if ok then (limiter, { allowed := true, tier := call.tier, cost := call.cost })
    else
      let reason := s!"rate limit for tier {call.tierName} ({a.ratePerMin}/min)"
      (limiter.count "rate", call.refused reason "rate" retry)

/-- What runs under the lock. What was done before an exception stays done. -/
def checkLocked (limiter : RateLimiter) (call : Call) : RateLimiter × Raises Decision :=
  let (global, ok, retry) := limiter.globalBucket.take call.cost limiter.ceiling call.now
  let limiter := { limiter with globalBucket := global }
  if !ok then (limiter.count "global", .ok (call.refused "node is at capacity" "global" retry))
  else if limiter.ceiling.concurrency ≤ limiter.globalInflight then
    (limiter.count "global_concurrency", .ok (call.refused "node concurrency ceiling reached" "global" 1))
  else
    let b := limiter.bucketFor call
    let limiter := limiter.track call.key call.allowance.burst
    match limiter.buckets.moveToEnd call.key with
    | some buckets =>
      let (limiter, decision) := checkCaller { limiter with buckets := buckets } call b
      (limiter, .ok decision)
    | none => (limiter, raise .keyError call.key)

def check (limiter : RateLimiter) (call : Call) : RateLimiter × Decision :=
  let a := call.allowance
  if a.maxBodyBytes < call.bodyBytes then
    let reason := s!"request body exceeds {a.maxBodyBytes} bytes for tier {call.tierName}"
    (limiter.count "body", call.refused reason "body" 0)
  else
    match checkLocked limiter call with
    | (limiter, .ok decision) => (limiter, decision)
    | (limiter, .error e) => (limiter, call.unavailable limiter.failClosed e)

def acquire (limiter : RateLimiter) (key : String) : RateLimiter :=
  let b := (limiter.buckets.get? key).getD (Bucket.fresh (allowance (partition key '|').1).burst)
  { limiter with buckets := limiter.buckets.set key { b with inflight := b.inflight + 1 }
                 globalInflight := limiter.globalInflight + 1 }

def release (limiter : RateLimiter) (key : String) : RateLimiter :=
  let buckets := match limiter.buckets.get? key with
    | some b => if 0 < b.inflight then limiter.buckets.set key { b with inflight := b.inflight - 1 } else limiter.buckets
    | none => limiter.buckets
  { limiter with buckets := buckets, globalInflight := limiter.globalInflight - 1 }

/-- What anyone may do to a limiter. A hold is an `acquire` when it is entered
and a `release` when it is left, of the key that `keyOf` gives. -/
inductive Event where
  | check (call : Call)
  | acquire (key : String)
  | release (key : String)

/-- When an event happens, for those that look at the clock. -/
def Event.time : Event → Option Rat
  | .check call => some call.now
  | _ => none

def step (limiter : RateLimiter) : Event → RateLimiter
  | .check call => (limiter.check call).1
  | .acquire key => limiter.acquire key
  | .release key => limiter.release key

/-! ### What a check does -/

/-- The limiter once the bucket of all callers was asked. -/
def charged (limiter : RateLimiter) (call : Call) : RateLimiter :=
  { limiter with globalBucket := (limiter.globalBucket.take call.cost limiter.ceiling call.now).1 }

/-- The ceiling has room for the call. -/
structure Open (limiter : RateLimiter) (call : Call) : Prop where
  fits : call.bodyBytes ≤ call.allowance.maxBodyBytes
  paid : (limiter.globalBucket.take call.cost limiter.ceiling call.now).2.1 = true
  room : limiter.globalInflight < limiter.ceiling.concurrency

/-- The table in which the caller's own limits are looked at. -/
def tracked (limiter : RateLimiter) (call : Call) : RateLimiter :=
  (limiter.charged call).track call.key call.allowance.burst

inductive Outcome (limiter : RateLimiter) (call : Call) : RateLimiter × Decision → Prop
  | body (reason : String) (large : call.allowance.maxBodyBytes < call.bodyBytes) :
      Outcome limiter call (limiter.count "body", call.refused reason "body" 0)
  | capacity (retry : Int) (fits : call.bodyBytes ≤ call.allowance.maxBodyBytes)
      (short : (limiter.globalBucket.take call.cost limiter.ceiling call.now).2.1 = false) :
      Outcome limiter call ((limiter.charged call).count "global", call.refused "node is at capacity" "global" retry)
  | ceiling (fits : call.bodyBytes ≤ call.allowance.maxBodyBytes)
      (paid : (limiter.globalBucket.take call.cost limiter.ceiling call.now).2.1 = true)
      (full : limiter.ceiling.concurrency ≤ limiter.globalInflight) :
      Outcome limiter call
        ((limiter.charged call).count "global_concurrency", call.refused "node concurrency ceiling reached" "global" 1)
  | unavailable (passed : limiter.Open call)
      (dropped : (limiter.tracked call).buckets.moveToEnd call.key = none) :
      Outcome limiter call (limiter.tracked call, call.unavailable limiter.failClosed ⟨.keyError, call.key⟩)
  | concurrency (buckets : Dict String Bucket) (reason : String) (passed : limiter.Open call)
      (latest : (limiter.tracked call).buckets.moveToEnd call.key = some buckets)
      (busy : call.allowance.concurrency ≤ (limiter.bucketFor call).inflight) :
      Outcome limiter call
        ({ limiter.tracked call with buckets := buckets }.count "concurrency", call.refused reason "concurrency" 1)
  | rate (buckets : Dict String Bucket) (reason : String) (retry : Int) (passed : limiter.Open call)
      (latest : (limiter.tracked call).buckets.moveToEnd call.key = some buckets)
      (idle : (limiter.bucketFor call).inflight < call.allowance.concurrency)
      (short : ((limiter.bucketFor call).take call.cost call.allowance call.now).2.1 = false) :
      Outcome limiter call
        ({ limiter.tracked call with
            buckets := buckets.set call.key ((limiter.bucketFor call).take call.cost call.allowance call.now).1 }.count
          "rate", call.refused reason "rate" retry)
  | admitted (buckets : Dict String Bucket) (decision : Decision) (passed : limiter.Open call)
      (latest : (limiter.tracked call).buckets.moveToEnd call.key = some buckets)
      (idle : (limiter.bucketFor call).inflight < call.allowance.concurrency)
      (paid : ((limiter.bucketFor call).take call.cost call.allowance call.now).2.1 = true)
      (answer : decision = { allowed := true, tier := call.tier, cost := call.cost }) :
      Outcome limiter call
        ({ limiter.tracked call with
            buckets := buckets.set call.key ((limiter.bucketFor call).take call.cost call.allowance call.now).1 },
          decision)

theorem evict_frame (limiter : RateLimiter) : limiter.evict.failClosed = limiter.failClosed ∧
    limiter.evict.maxTracked = limiter.maxTracked ∧ limiter.evict.ceiling = limiter.ceiling ∧
    limiter.evict.globalBucket = limiter.globalBucket ∧ limiter.evict.globalInflight = limiter.globalInflight :=
  ⟨rfl, rfl, rfl, rfl, rfl⟩

theorem track_frame (limiter : RateLimiter) (key : String) (burst : Nat) :
    (limiter.track key burst).failClosed = limiter.failClosed ∧
    (limiter.track key burst).maxTracked = limiter.maxTracked ∧
    (limiter.track key burst).ceiling = limiter.ceiling ∧
    (limiter.track key burst).globalBucket = limiter.globalBucket ∧
    (limiter.track key burst).globalInflight = limiter.globalInflight := by
  unfold track
  split
  · exact ⟨rfl, rfl, rfl, rfl, rfl⟩
  · exact evict_frame _

theorem tracked_of_some {limiter : RateLimiter} {call : Call} {b : Bucket}
    (held : limiter.buckets.get? call.key = some b) : (limiter.tracked call).buckets = limiter.buckets := by
  simp [tracked, track, charged, held]

theorem tracked_of_none {limiter : RateLimiter} {call : Call} (absent : limiter.buckets.get? call.key = none) :
    (limiter.tracked call).buckets = evictLoop limiter.maxTracked (limiter.buckets.size + 1)
      (limiter.buckets.set call.key (limiter.bucketFor call)) := by
  simp [tracked, track, charged, evict, absent, Dict.size_set_of_none, bucketFor]

theorem bucketFor_idle {limiter : RateLimiter} {call : Call} (absent : limiter.buckets.get? call.key = none) :
    (limiter.bucketFor call).inflight = 0 := by
  rw [bucketFor, absent]
  rfl

/-- What is in the table was there before, but for the caller's own bucket. -/
theorem tracked_entry {limiter : RateLimiter} {call : Call} {key : String} {b : Bucket}
    (held : (limiter.tracked call).buckets.get? key = some b) :
    key = call.key ∧ b = limiter.bucketFor call ∨ key ≠ call.key ∧ limiter.buckets.get? key = some b := by
  cases own : limiter.buckets.get? call.key with
  | some known =>
    rw [tracked_of_some own] at held
    by_cases same : key = call.key
    · rw [same, own, Option.some.injEq] at held
      exact .inl ⟨same, by rw [bucketFor, own, Option.getD_some, held]⟩
    · exact .inr ⟨same, held⟩
  | none =>
    let before := limiter.buckets.set call.key (limiter.bucketFor call)
    have known : ∀ key b, (limiter.tracked call).buckets.get? key = some b → before.get? key = some b := by
      rw [tracked_of_none own]
      apply evictLoop_keeps (fun buckets => ∀ key b, buckets.get? key = some b → before.get? key = some b)
      · intro buckets gone _ _ _ good other b held
        rw [Dict.get?_remove] at held
        split at held
        · cases held
        · exact good other b held
      · exact fun _ _ held => held
    have there := known key b held
    rw [Dict.get?_set] at there
    split at there
    next same => exact .inl ⟨same, (Option.some.inj there).symm⟩
    next other => exact .inr ⟨other, there⟩

/-- Nobody with a request in flight leaves the table. -/
theorem tracked_busy {limiter : RateLimiter} (call : Call) {key : String} {b : Bucket}
    (held : limiter.buckets.get? key = some b) (busy : 0 < b.inflight) :
    (limiter.tracked call).buckets.get? key = some b := by
  cases own : limiter.buckets.get? call.key with
  | some known => rwa [tracked_of_some own]
  | none =>
    rw [tracked_of_none own]
    apply evictLoop_keeps (fun buckets => buckets.get? key = some b)
    · intro buckets gone other found idle there
      rw [Dict.get?_remove, if_neg]
      · exact there
      · rintro rfl
        rw [there, Option.some.injEq] at found
        rw [found] at busy
        omega
    · rw [Dict.get?_set, if_neg]
      · exact held
      · rintro rfl
        rw [own] at held
        cases held

theorem bucketFor_tracked {limiter : RateLimiter} {call : Call} {buckets : Dict String Bucket}
    (latest : (limiter.tracked call).buckets.moveToEnd call.key = some buckets) :
    (limiter.tracked call).buckets.get? call.key = some (limiter.bucketFor call) := by
  cases held : (limiter.tracked call).buckets.get? call.key with
  | none =>
    rw [Dict.moveToEnd_eq_none.mpr held] at latest
    cases latest
  | some b =>
    rcases tracked_entry held with ⟨_, rfl⟩ | ⟨other, _⟩
    · rfl
    · exact absurd rfl other

theorem bucketFor_latest {limiter : RateLimiter} {call : Call} {buckets : Dict String Bucket}
    (latest : (limiter.tracked call).buckets.moveToEnd call.key = some buckets) :
    buckets.get? call.key = some (limiter.bucketFor call) := by
  rw [Dict.get?_moveToEnd latest, bucketFor_tracked latest]

theorem checkLocked_open {limiter : RateLimiter} {call : Call} (passed : limiter.Open call) :
    checkLocked limiter call =
      match (limiter.tracked call).buckets.moveToEnd call.key with
      | some buckets =>
        ((checkCaller { limiter.tracked call with buckets := buckets } call (limiter.bucketFor call)).1,
          .ok (checkCaller { limiter.tracked call with buckets := buckets } call (limiter.bucketFor call)).2)
      | none => (limiter.tracked call, raise .keyError call.key) := by
  simp [checkLocked, passed.paid, not_le.mpr passed.room, tracked, charged, bucketFor]

/-- Every way a check can go, and the limiter that it leaves. -/
theorem check_outcome (limiter : RateLimiter) (call : Call) : Outcome limiter call (limiter.check call) := by
  rw [check]
  by_cases large : call.allowance.maxBodyBytes < call.bodyBytes
  · rw [if_pos large]
    exact .body _ large
  rw [if_neg large]
  have fits := not_lt.mp large
  cases paid : (limiter.globalBucket.take call.cost limiter.ceiling call.now).2.1 with
  | false =>
    simp only [checkLocked, paid]
    exact .capacity _ fits paid
  | true =>
    by_cases full : limiter.ceiling.concurrency ≤ limiter.globalInflight
    · simp only [checkLocked, paid, full]
      exact .ceiling fits paid full
    have passed : limiter.Open call := ⟨fits, paid, not_le.mp full⟩
    rw [checkLocked_open passed]
    cases latest : (limiter.tracked call).buckets.moveToEnd call.key with
    | none =>
      have closed : (limiter.tracked call).failClosed = limiter.failClosed := (track_frame _ _ _).1
      simp only [raise, closed]
      exact .unavailable passed latest
    | some buckets =>
      simp only [checkCaller]
      by_cases busy : call.allowance.concurrency ≤ (limiter.bucketFor call).inflight
      · simp only [busy, if_true]
        exact .concurrency buckets _ passed latest busy
      · have idle := not_le.mp busy
        cases drawn : ((limiter.bucketFor call).take call.cost call.allowance call.now).2.1 with
        | false =>
          simp only [busy, if_false]
          exact .rate buckets _ _ passed latest idle drawn
        | true =>
          simp only [busy, if_false, if_true]
          exact .admitted buckets _ passed latest idle drawn rfl

theorem check_frame (limiter : RateLimiter) (call : Call) :
    (limiter.check call).1.failClosed = limiter.failClosed ∧
    (limiter.check call).1.maxTracked = limiter.maxTracked ∧
    (limiter.check call).1.ceiling = limiter.ceiling ∧
    (limiter.check call).1.globalInflight = limiter.globalInflight := by
  obtain ⟨closed, most, ceiling, _, inflight⟩ := track_frame (limiter.charged call) call.key call.allowance.burst
  have outcome := limiter.check_outcome call
  generalize limiter.check call = result at outcome ⊢
  cases outcome with
  | body => exact ⟨rfl, rfl, rfl, rfl⟩
  | capacity => exact ⟨rfl, rfl, rfl, rfl⟩
  | ceiling => exact ⟨rfl, rfl, rfl, rfl⟩
  | unavailable => exact ⟨closed, most, ceiling, inflight⟩
  | concurrency => exact ⟨closed, most, ceiling, inflight⟩
  | rate => exact ⟨closed, most, ceiling, inflight⟩
  | admitted => exact ⟨closed, most, ceiling, inflight⟩

/-- Nothing but a body that is too large spares the bucket of all callers. -/
theorem check_globalBucket (limiter : RateLimiter) (call : Call) : (limiter.check call).1.globalBucket =
    if call.allowance.maxBodyBytes < call.bodyBytes then limiter.globalBucket
    else (limiter.globalBucket.take call.cost limiter.ceiling call.now).1 := by
  have kept : (limiter.tracked call).globalBucket =
      (limiter.globalBucket.take call.cost limiter.ceiling call.now).1 := (track_frame _ _ _).2.2.2.1
  have outcome := limiter.check_outcome call
  generalize limiter.check call = result at outcome ⊢
  cases outcome with
  | body reason large => exact (if_pos large).symm
  | capacity retry fits => exact (if_neg (not_lt.mpr fits)).symm
  | ceiling fits => exact (if_neg (not_lt.mpr fits)).symm
  | unavailable passed => exact kept.trans (if_neg (not_lt.mpr passed.fits)).symm
  | concurrency buckets reason passed => exact kept.trans (if_neg (not_lt.mpr passed.fits)).symm
  | rate buckets reason retry passed => exact kept.trans (if_neg (not_lt.mpr passed.fits)).symm
  | admitted buckets decision passed => exact kept.trans (if_neg (not_lt.mpr passed.fits)).symm

/-- A call is let through by the ceiling first, also when the limiter fails open. -/
theorem open_of_allowed (limiter : RateLimiter) (call : Call) (allowed : (limiter.check call).2.allowed = true) :
    limiter.Open call := by
  have outcome := limiter.check_outcome call
  generalize limiter.check call = result at outcome allowed
  cases outcome with
  | body => cases allowed
  | capacity => cases allowed
  | ceiling => cases allowed
  | unavailable passed => exact passed
  | concurrency buckets reason passed => exact passed
  | rate buckets reason retry passed => exact passed
  | admitted buckets decision passed => exact passed

/-- How many callers have a request in flight. -/
def busyCallers (limiter : RateLimiter) : Nat := limiter.buckets.sum Bucket.busy

/-- What a check does to the bucket of one caller, which may be another one. -/
inductive CallerStep (limiter : RateLimiter) (call : Call) (key : String) : Option Bucket → Bool → Prop
  | kept (allowed : Bool) (apart : key = call.key → allowed = false) :
      CallerStep limiter call key (limiter.buckets.get? key) allowed
  | forgotten (allowed : Bool) (idle : ∀ b, limiter.buckets.get? key = some b → b.inflight = 0)
      (closed : key = call.key → allowed = !limiter.failClosed) : CallerStep limiter call key none allowed
  | refused (own : key = call.key) : CallerStep limiter call key (some (limiter.bucketFor call)) false
  | drawn (allowed : Bool) (own : key = call.key)
      (paid : allowed = true → ((limiter.bucketFor call).take call.cost call.allowance call.now).2.1 = true) :
      CallerStep limiter call key (some ((limiter.bucketFor call).take call.cost call.allowance call.now).1) allowed

theorem tracked_caller {limiter : RateLimiter} {call : Call} {key : String} (other : key ≠ call.key) (allowed : Bool) :
    CallerStep limiter call key ((limiter.tracked call).buckets.get? key) allowed := by
  cases there : (limiter.tracked call).buckets.get? key with
  | none =>
    refine .forgotten allowed ?_ (fun same => absurd same other)
    intro b held
    by_contra busy
    have kept := tracked_busy call held (Nat.pos_of_ne_zero busy)
    rw [there] at kept
    cases kept
  | some b =>
    rcases tracked_entry there with ⟨same, _⟩ | ⟨_, held⟩
    · exact absurd same other
    · rw [← held]
      exact .kept allowed (fun same => absurd same other)

theorem check_caller (limiter : RateLimiter) (call : Call) (key : String) :
    CallerStep limiter call key ((limiter.check call).1.buckets.get? key) (limiter.check call).2.allowed := by
  have outcome := limiter.check_outcome call
  generalize limiter.check call = result at outcome ⊢
  cases outcome with
  | body => exact .kept _ (fun _ => rfl)
  | capacity => exact .kept _ (fun _ => rfl)
  | ceiling => exact .kept _ (fun _ => rfl)
  | unavailable passed dropped =>
    by_cases own : key = call.key
    · rw [own, Dict.moveToEnd_eq_none.mp dropped]
      refine .forgotten _ ?_ (fun _ => by cases limiter.failClosed <;> rfl)
      intro b held
      rw [Dict.moveToEnd_eq_none, tracked_of_some held, held] at dropped
      cases dropped
    · exact tracked_caller own _
  | concurrency buckets reason passed latest =>
    simp only [count, Dict.get?_moveToEnd latest]
    by_cases own : key = call.key
    · rw [own, bucketFor_tracked latest]
      exact .refused rfl
    · exact tracked_caller own _
  | rate buckets reason retry passed latest idle short =>
    simp only [count, Dict.get?_set, Dict.get?_moveToEnd latest]
    by_cases own : key = call.key
    · rw [if_pos own]
      exact .drawn _ own (fun admitted => by cases admitted)
    · rw [if_neg own]
      exact tracked_caller own _
  | admitted buckets decision passed latest idle paid =>
    simp only [Dict.get?_set, Dict.get?_moveToEnd latest]
    by_cases own : key = call.key
    · rw [if_pos own]
      exact .drawn _ own (fun _ => paid)
    · rw [if_neg own]
      exact tracked_caller own _

end RateLimiter

end Xcp.Limits
