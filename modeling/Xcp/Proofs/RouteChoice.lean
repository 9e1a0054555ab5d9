import Xcp.Federation.Routing

/-! What a route may be. Who is chosen meets every constraint and is within the
tolerance of the best; an incumbent is looked for in that band alone. -/

namespace Xcp.Routing
open Checked Python

/-- What every constraint asks of a peer. -/
structure Admissible (peer : PeerMetrics) (policy : Policy) : Prop where
  live : peer.revoked = false
  near : peer.hops ≤ maxHops
  trusted : effectFloor policy.effect ≤ peer.effectiveTrust
  permitted : ∀ sites, policy.permittedSites = some sites → ∃ site ∈ sites, peer.site = .str site
  contracted : ∀ name, policy.requireClass = some name → name ≠ "" → peer.serverClass = name
  quick : ∀ limit, policy.maxLatencyMs = some limit → peer.latencyMs ≤ limit
  affordable : ∀ limit, policy.maxCostMinor = some limit → totalCost peer policy ≤ limit

/-- Where a peer's site is looked up among the permitted ones, it can be. -/
def Placed (peer : PeerMetrics) (policy : Policy) : Prop :=
  peer.revoked = false → peer.hops ≤ maxHops → effectFloor policy.effect ≤ peer.effectiveTrust →
    policy.permittedSites ≠ none → peer.site.hashable = true

/-- As the record of a peer declares its site. -/
def PeerMetrics.Declared (peer : PeerMetrics) : Prop := ∃ site, peer.site = .str site

theorem PeerMetrics.Declared.placed {peer : PeerMetrics} (declared : peer.Declared) (policy : Policy) :
    Placed peer policy := by
  intro _ _ _ _
  obtain ⟨site, stated⟩ := declared
  rw [stated]
  rfl

/-- No admissible peer scores so much better. -/
def Within (peers : List PeerMetrics) (policy : Policy) (factor worth : Rat) : Prop :=
  ∀ other ∈ peers, Admissible other policy → worth ≤ factor * (score other policy).score

section Constraints
variable {peer : PeerMetrics} {policy : Policy}

theorem outside_placed (placed : policy.permittedSites ≠ none → peer.site.hashable = true) :
    ∃ excluded, outside peer policy = .ok excluded ∧
      (excluded = false ↔ ∀ sites, policy.permittedSites = some sites → ∃ site ∈ sites, peer.site = .str site) := by
  unfold outside
  cases permitted : policy.permittedSites with
  | none => exact ⟨false, rfl, by simp⟩
  | some sites =>
    have known : ∃ key, peer.site.key = .ok key := by
      simp only [Json.key, require_true _ (placed (by simp [permitted])), ok_bind]
      split <;> exact ⟨_, rfl⟩
    obtain ⟨key, read⟩ := known
    refine ⟨_, by rw [read]; rfl, ?_⟩
    simp only [Bool.not_eq_false', List.contains_eq_mem, decide_eq_true_eq, List.mem_map, Option.some.injEq, forall_eq']
    constructor
    · intro found
      obtain ⟨site, listed, same⟩ := found
      exact ⟨site, listed, (Json.key_eq_str _ _).mp (by rw [read, same])⟩
    · intro allowed
      obtain ⟨site, listed, stated⟩ := allowed
      rw [stated, Json.key_str, Except.ok.injEq] at read
      exact ⟨site, listed, read⟩

theorem outside_unplaced (asked : policy.permittedSites ≠ none) (unplaced : peer.site.hashable = false) :
    ∃ exception, outside peer policy = .error exception := by
  unfold outside
  cases permitted : policy.permittedSites with
  | none => exact absurd permitted asked
  | some sites => exact ⟨_, by simp only [Json.key, require, unplaced]; rfl⟩

/-- What the constraints answer. -/
inductive Judged (peer : PeerMetrics) (policy : Policy) : Raises (Option String) → Prop where
  | admitted (placed : Placed peer policy) (meets : Admissible peer policy) : Judged peer policy (.ok none)
  | refused (placed : Placed peer policy) (fails : ¬ Admissible peer policy) (why : String) :
      Judged peer policy (.ok (some why))
  | unplaced (unplaced : ¬ Placed peer policy) (exception : Exception) : Judged peer policy (.error exception)

variable [Host]

theorem admissible_judged (peer : PeerMetrics) (policy : Policy) : Judged peer policy (admissible peer policy) := by
  unfold admissible
  split
  next revoked => exact .refused (fun live => by simp [live] at revoked) (fun meets => by simp [meets.live] at revoked) _
  next live =>
  split
  next far => exact .refused (fun _ near => absurd far (not_lt.mpr near)) (fun meets => absurd far (not_lt.mpr meets.near)) _
  next near =>
  split
  next low => exact .refused (fun _ _ trusted => absurd low (not_lt.mpr trusted)) (fun meets => absurd low (not_lt.mpr meets.trusted)) _
  next trusted =>
  by_cases placed : policy.permittedSites ≠ none → peer.site.hashable = true
  · obtain ⟨excluded, answered, inside⟩ := outside_placed placed
    have found : Placed peer policy := fun _ _ _ => placed
    rw [answered, ok_bind]
    split
    next away => exact .refused found (fun meets => by simp [inside.mpr meets.permitted] at away) _
    next stays =>
    split
    next other =>
      refine .refused found (fun meets => ?_) _
      obtain ⟨name, required, differs⟩ := (Option.any_eq_true _ _).mp other
      simp only [Bool.and_eq_true, decide_eq_true_eq] at differs
      exact differs.2 (meets.contracted name required differs.1)
    next contracted =>
    split
    next slow =>
      refine .refused found (fun meets => ?_) _
      obtain ⟨limit, bounded, exceeds⟩ := (Option.any_eq_true _ _).mp slow
      exact absurd (of_decide_eq_true exceeds) (not_lt.mpr (meets.quick limit bounded))
    next quick =>
    split
    next dear =>
      refine .refused found (fun meets => ?_) _
      obtain ⟨limit, bounded, exceeds⟩ := (Option.any_eq_true _ _).mp dear
      exact absurd (of_decide_eq_true exceeds) (not_lt.mpr (meets.affordable limit bounded))
    next affordable =>
    refine .admitted found ⟨by simpa using live, not_lt.mp near, not_lt.mp trusted, inside.mp (by simpa using stays), ?_, ?_, ?_⟩
    · intro name required named
      by_contra differs
      exact contracted ((Option.any_eq_true _ _).mpr ⟨name, required, by simp [named, differs]⟩)
    · intro limit bounded
      by_contra exceeds
      exact quick ((Option.any_eq_true _ _).mpr ⟨limit, bounded, decide_eq_true (not_le.mp exceeds)⟩)
    · intro limit bounded
      by_contra exceeds
      exact affordable ((Option.any_eq_true _ _).mpr ⟨limit, bounded, decide_eq_true (not_le.mp exceeds)⟩)
  · obtain ⟨asked, unplaced⟩ := Classical.not_imp.mp placed
    obtain ⟨exception, failed⟩ := outside_unplaced asked (Bool.eq_false_iff.mpr unplaced)
    rw [failed]
    exact .unplaced (fun found => placed (found (by simpa using live) (not_lt.mp near) (not_lt.mp trusted))) _

end Constraints

/-! ### The candidates and the choice among them -/

/-- The candidates of the admissible peers, the best one first. -/
structure Ranked (peers : List PeerMetrics) (policy : Policy) (best : Candidate) (rest : List Candidate) : Prop where
  stands : ∀ candidate, candidate ∈ best :: rest ↔ ∃ peer ∈ peers, Admissible peer policy ∧ score peer policy = candidate
  ordered : (best :: rest).Pairwise (fun first second => first.score ≤ second.score)

/-- Whom the choice falls on, once the candidates are in order. -/
def pick (policy : Policy) (best : Candidate) (rest : List Candidate) (incumbent : Option String) (choose : Nat → Nat) :
    Candidate :=
  let near := band policy best (best :: rest)
  let held := near.find? (fun candidate => incumbent.any (fun name => name ≠ "" && candidate.peer.domain = name))
  (held.filter (·.score ≤ best.score * (1 + switchMargin))).getD (near.getD (choose near.length) best)

theorem byScore_pairwise (candidates : List Candidate) :
    (candidates.insertionSort (fun first second => first.score ≤ second.score)).Pairwise
      (fun first second => first.score ≤ second.score) := by
  have total : Std.Total (fun first second : Candidate => first.score ≤ second.score) := ⟨fun _ _ => le_total _ _⟩
  have trans : IsTrans Candidate (fun first second => first.score ≤ second.score) := ⟨fun _ _ _ => le_trans⟩
  exact List.pairwise_insertionSort _ candidates

section Selecting
variable [Host]

theorem sortOut_cases (policy : Policy) (peers : List PeerMetrics) :
    ((∃ peer ∈ peers, ¬ Placed peer policy) ∧ ∃ exception, sortOut policy peers = .error exception) ∨
    ((∀ peer ∈ peers, Placed peer policy) ∧ ∃ admitted refused, sortOut policy peers = .ok (admitted, refused) ∧
      ∀ candidate, candidate ∈ admitted ↔ ∃ peer ∈ peers, Admissible peer policy ∧ score peer policy = candidate) := by
  induction peers with
  | nil => exact .inr ⟨by simp, [], [], rfl, by simp⟩
  | cons peer rest ih =>
    have judged := admissible_judged peer policy
    unfold sortOut
    generalize admissible peer policy = answer at judged
    cases judged with
    | unplaced unplaced exception => exact .inl ⟨⟨peer, List.mem_cons_self, unplaced⟩, exception, rfl⟩
    | admitted placed meets =>
      obtain ⟨⟨other, listed, unplaced⟩, exception, failed⟩ | ⟨others, admitted, refused, sorted, stands⟩ := ih
      · exact .inl ⟨⟨other, List.mem_cons_of_mem _ listed, unplaced⟩, exception, by rw [failed]; rfl⟩
      · refine .inr ⟨List.forall_mem_cons.mpr ⟨placed, others⟩, score peer policy :: admitted, refused, by rw [sorted]; rfl, ?_⟩
        intro candidate
        simp [stands, meets, eq_comm]
    | refused placed fails why =>
      obtain ⟨⟨other, listed, unplaced⟩, exception, failed⟩ | ⟨others, admitted, refused, sorted, stands⟩ := ih
      · exact .inl ⟨⟨other, List.mem_cons_of_mem _ listed, unplaced⟩, exception, by rw [failed]; rfl⟩
      · refine .inr ⟨List.forall_mem_cons.mpr ⟨placed, others⟩, admitted, _, by rw [sorted]; rfl, ?_⟩
        intro candidate
        simp [stands, fails]

/-- How a selection ends. -/
inductive Selection (peers : List PeerMetrics) (policy : Policy) : Prop where
  | unplaced (peer : PeerMetrics) (listed : peer ∈ peers) (unplaced : ¬ Placed peer policy)
      (raises : ∀ incumbent choose, ∃ exception, select peers policy incumbent choose = .error exception)
  | nobody (placed : ∀ peer ∈ peers, Placed peer policy) (refused : ∀ peer ∈ peers, ¬ Admissible peer policy)
      (raises : ∀ incumbent choose, ∃ exception, select peers policy incumbent choose = .error exception)
  | somebody (placed : ∀ peer ∈ peers, Placed peer policy) {best : Candidate} {rest : List Candidate}
      (ranked : Ranked peers policy best rest)
      (picks : ∀ incumbent choose, select peers policy incumbent choose = .ok (pick policy best rest incumbent choose))

theorem select_cases (peers : List PeerMetrics) (policy : Policy) : Selection peers policy := by
  obtain ⟨⟨peer, listed, unplaced⟩, exception, failed⟩ | ⟨placed, admitted, refused, sorted, stands⟩ := sortOut_cases policy peers
  · exact .unplaced peer listed unplaced fun _ _ => ⟨exception, by rw [select, failed]; rfl⟩
  cases ranking : admitted.insertionSort (fun first second => first.score ≤ second.score) with
  | nil =>
    refine .nobody placed ?_ ?_
    · intro peer listed meets
      have stood := (stands _).mpr ⟨peer, listed, meets, rfl⟩
      rw [← List.mem_insertionSort (fun first second => first.score ≤ second.score), ranking] at stood
      exact absurd stood List.not_mem_nil
    · intro incumbent choose
      exact ⟨_, by rw [select, sorted, ok_bind]; dsimp only; rw [ranking]; rfl⟩
  | cons best rest =>
    have ranked : Ranked peers policy best rest := by
      refine ⟨?_, ranking ▸ byScore_pairwise admitted⟩
      intro candidate
      rw [← ranking, List.mem_insertionSort, stands]
    refine .somebody placed ranked ?_
    intro incumbent choose
    rw [select, sorted, ok_bind]
    dsimp only
    rw [ranking]
    dsimp only [pick]
    split
    next candidate kept => rw [kept]; rfl
    next moved => rw [moved]; rfl

end Selecting

section Band
variable {peers : List PeerMetrics} {policy : Policy} {best : Candidate} {rest : List Candidate} {candidate : Candidate}

theorem Ranked.least (ranked : Ranked peers policy best rest) (stands : candidate ∈ best :: rest) :
    best.score ≤ candidate.score := by
  obtain rfl | later := List.mem_cons.mp stands
  · exact le_rfl
  · exact List.rel_of_pairwise_cons ranked.ordered later

theorem Ranked.within_iff (ranked : Ranked peers policy best rest) {factor worth : Rat} (positive : 0 ≤ factor) :
    Within peers policy factor worth ↔ worth ≤ best.score * factor := by
  constructor
  · intro within
    obtain ⟨peer, listed, meets, rfl⟩ := (ranked.stands best).mp List.mem_cons_self
    rw [mul_comm]
    exact within peer listed meets
  · intro bounded other listed meets
    have least := ranked.least ((ranked.stands _).mpr ⟨other, listed, meets, rfl⟩)
    calc worth ≤ best.score * factor := bounded
      _ = factor * best.score := mul_comm _ _
      _ ≤ factor * (score other policy).score := mul_le_mul_of_nonneg_left least positive

theorem mem_band (near : candidate ∈ band policy best (best :: rest)) :
    candidate ∈ best :: rest ∧ (candidate = best ∨ candidate.score ≤ best.score * (1 + policy.tolerance)) := by
  unfold band at near
  split at near
  · rw [List.mem_singleton.mp near]
    exact ⟨List.mem_cons_self, .inl rfl⟩
  · obtain ⟨stands, bounded⟩ := List.mem_filter.mp near
    exact ⟨stands, .inr (of_decide_eq_true bounded)⟩

theorem best_mem_band (ranked : Ranked peers policy best rest) : best ∈ band policy best (best :: rest) := by
  unfold band
  split
  · exact List.mem_singleton_self best
  next nonempty =>
    obtain ⟨other, near⟩ := List.exists_mem_of_ne_nil _ nonempty
    obtain ⟨stands, bounded⟩ := List.mem_filter.mp near
    have least := (ranked.least stands).trans (of_decide_eq_true bounded)
    exact List.mem_filter.mpr ⟨List.mem_cons_self, decide_eq_true least⟩

theorem pick_mem_band (ranked : Ranked peers policy best rest) (incumbent : Option String) (choose : Nat → Nat) :
    pick policy best rest incumbent choose ∈ band policy best (best :: rest) := by
  dsimp only [pick]
  generalize finding : List.find? _ (band policy best (best :: rest)) = held
  cases keeping : held.filter (·.score ≤ best.score * (1 + switchMargin)) with
  | none =>
    rw [Option.getD_none, List.getD_eq_getElem?_getD]
    cases chosen : (band policy best (best :: rest))[choose (band policy best (best :: rest)).length]? with
    | none => exact best_mem_band ranked
    | some candidate => exact List.mem_of_getElem? chosen
  | some candidate =>
    obtain ⟨found, _⟩ := Option.filter_eq_some_iff.mp keeping
    exact List.mem_of_find?_eq_some (finding.trans found)

end Band

/-- Weights and prices that are not negative. -/
structure Policy.Fair (policy : Policy) : Prop where
  latencyWeight : 0 ≤ policy.latencyWeight
  costWeight : 0 ≤ policy.costWeight
  crossSiteCost : 0 ≤ policy.crossSiteCost

structure PeerMetrics.Fair (peer : PeerMetrics) : Prop where
  price : 0 ≤ peer.priceMinor
  latency : 0 ≤ peer.latencyMs

theorem obligationCost_nonneg (serverClass : String) : 0 ≤ obligationCost serverClass := by
  unfold obligationCost
  split_ifs <;> simp

theorem score_nonneg {peer : PeerMetrics} {policy : Policy} (fair : policy.Fair) (priced : peer.Fair) :
    0 ≤ (score peer policy).score := by
  have crossing : 0 ≤ if policy.crosses peer then policy.crossSiteCost else 0 := by
    split
    · exact fair.crossSiteCost
    · exact le_rfl
  have cost : 0 ≤ totalCost peer policy := add_nonneg (add_nonneg priced.price (obligationCost_nonneg _)) crossing
  have weighed : 0 ≤ policy.latencyWeight * peer.latencyMs + policy.costWeight * totalCost peer policy :=
    add_nonneg (mul_nonneg fair.latencyWeight priced.latency) (mul_nonneg fair.costWeight (Int.cast_nonneg cost))
  have penalty : (0 : Rat) ≤ 1 / max peer.successRate (1 / 20) := by positivity
  exact mul_nonneg weighed penalty

/-- An admissible peer within the tolerance of every other one. -/
structure Choosable (peers : List PeerMetrics) (policy : Policy) (chosen : Candidate) : Prop where
  admissible : ∃ peer ∈ peers, Admissible peer policy ∧ score peer policy = chosen
  within : Within peers policy (1 + max policy.tolerance 0) chosen.score

theorem Ranked.choosable {peers : List PeerMetrics} {policy : Policy} {best chosen : Candidate} {rest : List Candidate}
    (ranked : Ranked peers policy best rest) (positive : 0 ≤ best.score)
    (near : chosen ∈ band policy best (best :: rest)) : Choosable peers policy chosen := by
  obtain ⟨stands, bounded⟩ := mem_band near
  refine ⟨(ranked.stands chosen).mp stands, (ranked.within_iff (by positivity)).mpr ?_⟩
  obtain rfl | bounded := bounded
  · have grows : (1 : Rat) ≤ 1 + max policy.tolerance 0 := by simp
    exact le_mul_of_one_le_right positive grows
  · have grows : 1 + policy.tolerance ≤ 1 + max policy.tolerance 0 := by simp
    exact bounded.trans (mul_le_mul_of_nonneg_left grows positive)

section Routes
variable [Host]

/-- A selection takes an admissible peer near the best, whatever the incumbent
and the random source, and fails exactly where there is none. -/
theorem select_choosable {peers : List PeerMetrics} {policy : Policy} (fair : policy.Fair)
    (priced : ∀ peer ∈ peers, peer.Fair) (incumbent : Option String) (choose : Nat → Nat) :
    (∀ chosen, select peers policy incumbent choose = .ok chosen → Choosable peers policy chosen) ∧
    ((∀ peer ∈ peers, peer.Declared) →
      ((∃ exception, select peers policy incumbent choose = .error exception) ↔
        ∀ peer ∈ peers, ¬ Admissible peer policy)) := by
  cases select_cases peers policy with
  | unplaced peer listed unplaced raises =>
    obtain ⟨exception, failed⟩ := raises incumbent choose
    exact ⟨by simp [failed], fun declared => absurd ((declared peer listed).placed policy) unplaced⟩
  | nobody placed refused raises =>
    obtain ⟨exception, failed⟩ := raises incumbent choose
    exact ⟨by simp [failed], fun _ => ⟨fun _ => refused, fun _ => ⟨exception, failed⟩⟩⟩
  | somebody placed ranked picks =>
    obtain ⟨peer, listed, meets, worth⟩ := (ranked.stands _).mp List.mem_cons_self
    have positive := worth ▸ score_nonneg fair (priced peer listed)
    constructor
    · intro chosen selected
      rw [picks, Except.ok.injEq] at selected
      rw [← selected]
      exact ranked.choosable positive (pick_mem_band ranked incumbent choose)
    · intro _
      constructor
      · simp [picks]
      · intro none
        exact absurd meets (none peer listed)

end Routes

/-! ### The incumbent -/

section Incumbent
variable {peers : List PeerMetrics} {policy : Policy} {best : Candidate} {rest : List Candidate}

/-- What an incumbent within the margin needs to be kept. -/
structure Retained (peers : List PeerMetrics) (policy : Policy) (domain : String) : Prop where
  placed : ∀ peer ∈ peers, Placed peer policy
  /-- Its domain has a candidate in the band. -/
  near : ∃ peer ∈ peers, Admissible peer policy ∧ peer.domain = domain ∧
    Within peers policy (1 + policy.tolerance) (score peer policy).score
  /-- An empty name is nobody's: then the band has no other domain. -/
  named : domain = "" → ∀ peer ∈ peers, Admissible peer policy →
    Within peers policy (1 + policy.tolerance) (score peer policy).score → peer.domain = domain

end Incumbent

section Lanes
local instance lanesHost : Host := asciiHost []

def lane (domain : String) (latencyMs : Rat) : PeerMetrics := { domain, serverClass := "contracted", latencyMs }

def lanes : List PeerMetrics := [lane "a.example" 100, lane "b.example" 110]

theorem forall_lanes {holds : PeerMetrics → Prop} (first : holds (lane "a.example" 100)) (second : holds (lane "b.example" 110)) :
    ∀ peer ∈ lanes, holds peer := by
  simp [lanes, first, second]

theorem select_choosable_lanes :
    (∀ chosen, select lanes {} none (fun _ => 1) = .ok chosen → Choosable lanes {} chosen) ∧
    ((∃ exception, select lanes {} none (fun _ => 1) = .error exception) ↔ ∀ peer ∈ lanes, ¬ Admissible peer {}) := by
  have fair : Policy.Fair {} := ⟨by norm_num, by norm_num, by norm_num⟩
  have priced : ∀ peer ∈ lanes, peer.Fair := forall_lanes ⟨by simp [lane], by simp [lane]⟩ ⟨by simp [lane], by simp [lane]⟩
  have declared : ∀ peer ∈ lanes, peer.Declared := forall_lanes ⟨"", rfl⟩ ⟨"", rfl⟩
  have answers := select_choosable fair priced none (fun _ => 1)
  exact ⟨answers.1, answers.2 declared⟩

end Lanes

end Xcp.Routing
