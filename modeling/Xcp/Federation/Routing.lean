import Mathlib.Data.Rat.Floor
import Xcp.Library.PythonText

/-! Choosing the peer that serves a call: constraints first, then one of the
candidates whose score is near the best. -/

namespace Xcp.Routing
open Checked Python

/-- What the caller needs to be able to do. Ascending. -/
inductive Effect where
  | observe | read | write | settle
deriving DecidableEq, Repr

def Effect.name : Effect → String
  | .observe => "OBSERVE"
  | .read => "READ"
  | .write => "WRITE"
  | .settle => "SETTLE"

def effectFloor : Effect → Rat
  | .observe => 0
  | .read => 1 / 4
  | .write => 1 / 2
  | .settle => 1

def obligationCost (serverClass : String) : Int :=
  if serverClass = "probed" then 15
  else if serverClass = "attested" then 4
  else if serverClass = "contracted" then 0
  else 40

def maxHops : Nat := 3

def hopDecay : Rat := 1 / 2

def switchMargin : Rat := 3 / 20

structure PeerMetrics where
  domain : String
  hops : Nat := 1
  trustWeight : Rat := 1
  /-- As the peer says. -/
  site : Json := .str ""
  serverClass : String := "unknown"
  priceMinor : Int := 0
  latencyMs : Rat := 0
  samples : Nat := 0
  failures : Nat := 0
  revoked : Bool := false
deriving DecidableEq

namespace PeerMetrics

def effectiveTrust (peer : PeerMetrics) : Rat :=
  if peer.revoked || maxHops < peer.hops then 0 else peer.trustWeight * hopDecay ^ (peer.hops - 1)

/-- An untested peer is not assumed bad. -/
def successRate (peer : PeerMetrics) : Rat :=
  if peer.samples = 0 then 1 else max 0 (1 - peer.failures / peer.samples)

end PeerMetrics

structure Policy where
  effect : Effect := .read
  latencyWeight : Rat := 1
  costWeight : Rat := 1
  tolerance : Rat := 1 / 4
  maxLatencyMs : Option Rat := none
  maxCostMinor : Option Int := none
  requireClass : Option String := none
  homeSite : String := ""
  crossSiteCost : Int := 25
  /-- Where the data may be processed. -/
  permittedSites : Option (List String) := none

/-- Whether choosing the peer leaves our site. -/
def Policy.crosses (policy : Policy) (peer : PeerMetrics) : Bool := policy.homeSite ≠ "" && peer.site ≠ .str policy.homeSite

def totalCost (peer : PeerMetrics) (policy : Policy) : Int :=
  peer.priceMinor + obligationCost peer.serverClass + if policy.crosses peer then policy.crossSiteCost else 0

def fixed2 (value : Rat) : String :=
  let scaled := value * 100
  let down := scaled.floor.toNat
  let rest := scaled - down
  let cents := if rest < 1 / 2 ∨ rest = 1 / 2 ∧ down % 2 = 0 then down else down + 1
  let digits := toString (cents % 100)
  toString (cents / 100) ++ "." ++ (if digits.length = 1 then "0" ++ digits else digits)

structure Candidate where
  peer : PeerMetrics
  score : Rat
  totalCost : Int
  trust : Rat
  offSite : Bool
deriving DecidableEq

/-- Lower is better. Trust has served as a constraint and is no part of it. -/
def score (peer : PeerMetrics) (policy : Policy) : Candidate where
  peer := peer
  score := (policy.latencyWeight * peer.latencyMs + policy.costWeight * totalCost peer policy) *
    (1 / max peer.successRate (1 / 20))
  totalCost := totalCost peer policy
  trust := peer.effectiveTrust
  offSite := policy.crosses peer

variable [Host]

/-- The site that no permitted one is, if there is a permitted set. -/
def outside (peer : PeerMetrics) (policy : Policy) : Raises Bool :=
  match policy.permittedSites with
  | none => .ok false
  | some sites => do
    let site ← peer.site.key
    return !(sites.map Json.str).contains site

def admissible (peer : PeerMetrics) (policy : Policy) : Raises (Option String) :=
  if peer.revoked then .ok (some "revoked")
  else if maxHops < peer.hops then .ok (some s!"beyond {maxHops} hops")
  else if peer.effectiveTrust < effectFloor policy.effect then
    .ok (some (s!"trust {fixed2 peer.effectiveTrust} below the {fixed2 (effectFloor policy.effect)} required for " ++
      policy.effect.name))
  else do
    let excluded ← outside peer policy
    if excluded then
      let site := peer.site.orElse (.str "undeclared")
      return some s!"site {Host.repr site} is outside the permitted processing region"
    else if policy.requireClass.any (fun name => name ≠ "" && peer.serverClass ≠ name) then
      return some ("class " ++ peer.serverClass ++ " is not " ++ policy.requireClass.getD "")
    else if policy.maxLatencyMs.any (· < peer.latencyMs) then return some "exceeds the latency budget"
    else if policy.maxCostMinor.any (· < totalCost peer policy) then return some "exceeds the cost budget"
    else return none

def sortOut (policy : Policy) : List PeerMetrics → Raises (List Candidate × List String)
  | [] => .ok ([], [])
  | peer :: rest => do
    let refusal ← admissible peer policy
    let (admitted, refused) ← sortOut policy rest
    match refusal with
    | none => return (score peer policy :: admitted, refused)
    | some why => return (admitted, s!"{peer.domain}: {why}" :: refused)

def noPeer {α : Type} (policy : Policy) (refused : List String) : Raises α :=
  let told := joinWith "; " refused
  raise (.package "RoutingError") (s!"no peer satisfies the constraints for {policy.effect.name}: " ++
    if told = "" then "no peers known" else told)

/-- The candidates within the tolerance of the best; never none. -/
def band (policy : Policy) (best : Candidate) (sorted : List Candidate) : List Candidate :=
  match sorted.filter (·.score ≤ best.score * (1 + policy.tolerance)) with
  | [] => [best]
  | near => near

/-- Choose a peer: the incumbent while it is good enough, and otherwise whichever
of the band the random source names. -/
def select (peers : List PeerMetrics) (policy : Policy) (incumbent : Option String) (choose : Nat → Nat) :
    Raises Candidate := do
  let (admitted, refused) ← sortOut policy peers
  match admitted.insertionSort (fun first second => first.score ≤ second.score) with
  | [] => noPeer policy refused
  | best :: rest =>
    let near := band policy best (best :: rest)
    let held := near.find? (fun candidate => incumbent.any (fun name => name ≠ "" && candidate.peer.domain = name))
    match held.filter (·.score ≤ best.score * (1 + switchMargin)) with
    | some candidate => return candidate
    | none => return near.getD (choose near.length) best

end Xcp.Routing
