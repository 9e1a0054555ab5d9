import Xcp.Library.Wildcard
import Xcp.Proofs.Entitlements

/-! The lists of scopes that an employer allows and denies. A scope of the cell is
kept or dropped as it stands; what an allowed or a denied one has in common with
a kept wildcard is not cut out of it. -/

namespace Xcp.Trust
open Python Wildcard

/-- A scope as a pattern over its letters. -/
def pattern (scope : String) : Pattern Char :=
  if endsWith scope "*" then .family (dropEnd scope 1).toList else .word scope.toList

theorem covers_iff (granted requested : String) :
    covers granted requested = true ↔ (pattern granted).Accepts requested.toList :=
  (Glob.accepts_iff granted requested).symm

/-- What the lists say of a requested scope. -/
structure WithinLimits (ent : Entitlements) (requested : String) : Prop where
  allowed : ∀ allowed, ent.allowedScopes = some allowed → ∃ a ∈ allowed, covers a requested = true
  denied : ∀ d ∈ ent.deniedScopes, covers d requested = false

/-- What the lists have to say of a scope of the cell for it to be kept. -/
structure Kept (ent : Entitlements) (scope : String) : Prop where
  allowed : ∀ allowed, ent.allowedScopes = some allowed → ∃ a ∈ allowed, covers a scope = true ∨ covers scope a = true
  denied : ∀ d ∈ ent.deniedScopes, covers d scope = false

/-- The allowed patterns have all of the scope, and none of the denied ones is inside it. -/
structure Clear (ent : Entitlements) (scope : String) : Prop where
  allowed : ∀ allowed, ent.allowedScopes = some allowed → Within (allowed.map pattern) (pattern scope)
  denied : ∀ d ∈ ent.deniedScopes, covers scope d = false

theorem mem_allowScopes {tpl : MandateTemplate} {allowed : Option (List String)} {scope : String} :
    scope ∈ (tpl.allowScopes allowed).scopes ↔ scope ∈ tpl.scopes ∧
      ∀ list, allowed = some list → ∃ a ∈ list, covers a scope = true ∨ covers scope a = true := by
  cases allowed <;> simp [MandateTemplate.allowScopes]

theorem mem_denyScopes {tpl : MandateTemplate} {denied : List String} {scope : String} :
    scope ∈ (tpl.denyScopes denied).scopes ↔ scope ∈ tpl.scopes ∧ ∀ d ∈ denied, covers d scope = false := by
  unfold MandateTemplate.denyScopes
  split
  next none => simp [none]
  next => simp

theorem noteCostCenter_scopes (tpl : MandateTemplate) (center : String) :
    (tpl.noteCostCenter center).scopes = tpl.scopes := by
  unfold MandateTemplate.noteCostCenter
  split <;> rfl

theorem mem_resolve {agent : AgentTier} {human : HumanTier} {ent : Entitlements} {scope : String} :
    scope ∈ (resolve agent human (some ent)).scopes ↔ scope ∈ (lattice agent human).scopes ∧ Kept ent scope := by
  rw [resolve_some, applyEntitlements, noteCostCenter_scopes, (MandateTemplate.limitSpending_frame _ _).1, mem_denyScopes,
    mem_allowScopes, and_assoc]
  exact and_congr_right (fun _ => ⟨fun both => ⟨both.1, both.2⟩, fun kept => ⟨kept.1, kept.2⟩⟩)

theorem pattern_cases (scope : String) :
    pattern scope = .word scope.toList ∨ ∃ start, pattern scope = .family start ∧ scope.toList = start ++ ['*'] :=
  Glob.pattern_cases scope

/-- A denied scope that does not cover a kept one touches it only from inside. -/
theorem meets_denied {scope d : String} (kept : covers d scope = false) :
    (∃ requested, covers scope requested = true ∧ covers d requested = true) ↔ covers scope d = true := by
  have apart : ¬ (pattern d).Accepts scope.toList := by
    rw [← covers_iff, kept]
    exact Bool.false_ne_true
  simp only [covers_iff]
  rcases pattern_cases d with word | ⟨other, family, letters⟩
  · rw [word] at apart ⊢
    constructor
    · intro ⟨requested, accepted, same⟩
      rwa [show d.toList = requested.toList from same]
    · exact fun accepted => ⟨d, accepted, rfl⟩
  · rw [family] at apart ⊢
    rw [letters]
    rcases pattern_cases scope with word | ⟨start, wildcard, star⟩
    · rw [word]
      constructor
      · intro ⟨requested, same, begins⟩
        exact absurd (show other <+: scope.toList from (show scope.toList = _ from same) ▸ begins) apart
      · intro same
        exact absurd (show other <+: scope.toList from (show scope.toList = _ from same) ▸ List.prefix_append _ _) apart
    · rw [star] at apart
      rw [wildcard]
      constructor
      · intro ⟨requested, begins, starts⟩
        rcases List.prefix_or_prefix_of_prefix begins starts with less | more
        · exact less.trans (List.prefix_append _ _)
        · exact absurd (more.trans (List.prefix_append _ _)) apart
      · intro inside
        rcases List.prefix_concat_iff.mp inside with same | less
        · rw [same] at apart
          exact absurd ((List.prefix_append _ _).trans (List.prefix_append _ _)) apart
        · exact ⟨String.ofList other, by simpa [Pattern.Accepts] using less, by simp [Pattern.Accepts]⟩

/-- The allowed patterns of the list have a scope when they have all it covers. -/
theorem within_allowed {allowed : List String} {scope : String} : Within (allowed.map pattern) (pattern scope) ↔
    ∀ requested, covers scope requested = true → ∃ a ∈ allowed, covers a requested = true := by
  rw [within_iff]
  constructor
  · intro all requested covered
    obtain ⟨other, member, accepted⟩ := all requested.toList ((covers_iff scope requested).mp covered)
    obtain ⟨a, inside, rfl⟩ := List.mem_map.mp member
    exact ⟨a, inside, (covers_iff a requested).mpr accepted⟩
  · intro all text accepted
    have covered : covers scope (String.ofList text) = true := by simpa [covers_iff] using accepted
    obtain ⟨a, inside, covers_a⟩ := all _ covered
    exact ⟨pattern a, List.mem_map.mpr ⟨a, inside, rfl⟩, by simpa [covers_iff] using covers_a⟩

/-- The limits of the employer hold of what a cell grants exactly when each scope
that is kept is clear of them. -/
theorem employerScopes_iff (agent : AgentTier) (human : HumanTier) (ent : Entitlements) :
    (∀ requested, (resolve agent human (some ent)).Covered requested → WithinLimits ent requested) ↔
      ∀ scope ∈ (lattice agent human).scopes, Kept ent scope → Clear ent scope := by
  constructor
  · intro limited scope member kept
    have granted : scope ∈ (resolve agent human (some ent)).scopes := mem_resolve.mpr ⟨member, kept⟩
    refine ⟨?_, ?_⟩
    · intro allowed list
      rw [within_allowed]
      intro requested covered
      exact (limited requested ⟨scope, granted, covered⟩).allowed allowed list
    · intro d inside
      by_contra touches
      rw [Bool.not_eq_false] at touches
      obtain ⟨requested, covered, denied⟩ := (meets_denied (kept.denied d inside)).mpr touches
      rw [(limited requested ⟨scope, granted, covered⟩).denied d inside] at denied
      cases denied
  · intro clear requested ⟨scope, granted, covered⟩
    obtain ⟨member, kept⟩ := mem_resolve.mp granted
    have free := clear scope member kept
    refine ⟨?_, ?_⟩
    · intro allowed list
      exact within_allowed.mp (free.allowed allowed list) requested covered
    · intro d inside
      by_contra touches
      rw [Bool.not_eq_false] at touches
      have meets := (meets_denied (kept.denied d inside)).mp ⟨requested, covered, touches⟩
      rw [free.denied d inside] at meets
      cases meets

/-- The letters before the surrogates. -/
def someLetters : List Char := (List.range 55296).map Char.ofNat

theorem someLetters_nodup : someLetters.Nodup := by
  apply List.nodup_range.map_on
  intro first low second small same
  have codes (code : Nat) (small : code < 55296) : (Char.ofNat code).toNat = code := by
    rw [Char.ofNat, dif_pos (Or.inl small)]
    rfl
  rw [← codes first (List.mem_range.mp low), same, codes second (List.mem_range.mp small)]

/-- A list of less than fifty thousand patterns has a wildcard only by a larger one. -/
theorem within_short {allowed : List String} (short : allowed.length < 55296) {scope : String}
    (star : endsWith scope "*" = true) :
    Within (allowed.map pattern) (pattern scope) ↔
      ∃ a ∈ allowed, endsWith a "*" = true ∧ startsWith (dropEnd scope 1) (dropEnd a 1) = true := by
  have family : pattern scope = .family (dropEnd scope 1).toList := by simp [pattern, star]
  have few : (allowed.map pattern).length < someLetters.length := by simpa [someLetters] using short
  rw [family, Within, spans_iff_of_few someLetters_nodup few]
  constructor
  · intro ⟨other, member, begins⟩
    obtain ⟨a, inside, same⟩ := List.mem_map.mp member
    unfold pattern at same
    split at same
    next larger =>
      cases same
      exact ⟨a, inside, larger, List.isPrefixOf_iff_prefix.mpr begins⟩
    next => cases same
  · intro ⟨a, inside, larger, begins⟩
    refine ⟨(dropEnd a 1).toList, ?_, List.isPrefixOf_iff_prefix.mp begins⟩
    exact List.mem_map.mpr ⟨a, inside, by simp [pattern, larger]⟩

/-- One tool is allowed, and every tool is granted; one is denied, and granted. -/
theorem employerScopes_exceeded :
    (¬ ∀ requested, (resolve .registry .publicTier (some { allowedScopes := some ["mcp:tools/search"] })).Covered requested →
        WithinLimits { allowedScopes := some ["mcp:tools/search"] } requested) ∧
      ¬ ∀ requested, (resolve .registry .publicTier (some { deniedScopes := ["mcp:tools/delete"] })).Covered requested →
        WithinLimits { deniedScopes := ["mcp:tools/delete"] } requested := by
  constructor
  · intro limited
    have granted := limited "mcp:tools/delete" ⟨"mcp:tools/*", by decide +kernel, by decide +kernel⟩
    exact absurd (granted.allowed _ rfl) (by decide +kernel)
  · intro limited
    have granted := limited "mcp:tools/delete" ⟨"mcp:tools/*", by decide +kernel, by decide +kernel⟩
    exact absurd (granted.denied "mcp:tools/delete" (by simp)) (by decide +kernel)

end Xcp.Trust
