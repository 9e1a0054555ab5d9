import Xcp.Library.Cipher
import Xcp.Library.Delimited
import Xcp.Proofs.SealedCredentials

/-! Whether the history of a chain can be rewritten while a credential is on its
way. What the credential is sealed with spells the origin, the number of hops
and who passed it to whom, but not how often it may be passed on. -/

namespace Xcp.Vault
open Cipher Checked Eth PrefixCode Python

namespace ChainedCredential

/-- Who passed the credential to whom. -/
def ends (chained : ChainedCredential) : List (String × String) :=
  chained.hops.map (fun hop => (hop.fromNode, hop.toNode))

def endsLetters (hop : String × String) : List Char := hop.1.toList ++ '>' :: hop.2.toList

/-- The letters of "origin:number of hops:from>to|from>to". -/
def spelling (chained : ChainedCredential) : List Char :=
  chained.origin.toList ++ ':' :: (Nat.toDigits 10 chained.depth ++ ':' :: separated endsLetters '|' chained.ends)

/-- Something in the history was changed, or how often the credential may be passed on. -/
def Rewritten (chained changed : ChainedCredential) : Prop :=
  changed.origin ≠ chained.origin ∨ changed.ends ≠ chained.ends ∨ changed.maxHops ≠ chained.maxHops

def SpeltAlike (chained changed : ChainedCredential) : Prop := changed.spelling = chained.spelling

/-- None of the names has a letter that stands between names. -/
def Plain (chained : ChainedCredential) : Prop :=
  ∀ name ∈ chained.seen, ∀ mark ∈ [':', '|', '>'], mark ∉ name.toList

theorem context_letters (chained : ChainedCredential) : chained.context.toList = "chain:".toList ++ chained.spelling := by
  have path : chained.path.toList = separated endsLetters '|' chained.ends := by
    have joined := toList_joinWith_separator '|' (fun hop : String × String => s!"{hop.1}>{hop.2}") chained.ends
    rw [ends, List.map_map] at joined
    rw [path, ends]
    refine joined.trans ?_
    congr 1
    funext hop
    simp [endsLetters, toString_text]
  rw [spelling, ← path]
  simp [context, toString_text]

theorem context_eq_iff {chained changed : ChainedCredential} : changed.context = chained.context ↔ SpeltAlike chained changed := by
  rw [← String.toList_inj, context_letters, context_letters, List.append_cancel_left_eq, SpeltAlike]

/-! ### Names without marks -/

theorem digit_not_mark {mark : Char} (marks : mark ∈ [':', '|', '>']) (number : Nat) : mark ∉ Nat.toDigits 10 number := by
  intro member
  have digit := Nat.isDigit_of_mem_toDigits (by decide) (by decide) member
  simp only [List.mem_cons, List.not_mem_nil, or_false] at marks
  rcases marks with rfl | rfl | rfl <;> cases digit

/-- The names at the ends of hops. -/
def names (ends : List (String × String)) : List String := ends.flatMap (fun hop => [hop.1, hop.2])

theorem count_ends {mark : Char} (differ : '>' ≠ mark) (ends : List (String × String)) :
    occurrences endsLetters mark ends = occurrences String.toList mark (names ends) := by
  induction ends with
  | nil => rfl
  | cons hop ends ih =>
    simp only [names, List.flatMap_cons, List.cons_append, List.nil_append, occurrences_cons, endsLetters,
      List.count_append, List.count_cons_of_ne differ, ih]
    omega

theorem count_arrows (ends : List (String × String)) :
    occurrences endsLetters '>' ends = occurrences String.toList '>' (names ends) + ends.length := by
  induction ends with
  | nil => rfl
  | cons hop ends ih =>
    simp only [names, List.flatMap_cons, List.cons_append, List.nil_append, occurrences_cons, endsLetters,
      List.count_append, List.count_cons_self, List.length_cons, ih]
    omega

theorem seen_eq (chained : ChainedCredential) : chained.seen = chained.origin :: names chained.ends := by
  simp [seen, names, ends, List.flatMap_map]

theorem length_ends (chained : ChainedCredential) : chained.ends.length = chained.depth := by simp [ends, depth]

theorem spelling_colons (chained : ChainedCredential) :
    chained.spelling.count ':' = occurrences String.toList ':' chained.seen + 2 := by
  have digits := List.count_eq_zero.mpr (digit_not_mark (by simp) chained.depth : ':' ∉ _)
  rw [seen_eq, occurrences_cons, ← count_ends (by decide), spelling, List.count_append, List.count_cons_self, List.count_append,
    List.count_cons_self, digits, count_separated (by decide)]
  omega

theorem spelling_arrows (chained : ChainedCredential) :
    chained.spelling.count '>' = occurrences String.toList '>' chained.seen + chained.depth := by
  have digits := List.count_eq_zero.mpr (digit_not_mark (by simp) chained.depth : '>' ∉ _)
  have ends := count_arrows chained.ends
  rw [length_ends] at ends
  rw [seen_eq, occurrences_cons, spelling, List.count_append, List.count_cons_of_ne (by decide), List.count_append,
    List.count_cons_of_ne (by decide), digits, count_separated (by decide), ends]
  omega

theorem spelling_bars (chained : ChainedCredential) :
    chained.spelling.count '|' = occurrences String.toList '|' chained.seen + (chained.depth - 1) := by
  have digits := List.count_eq_zero.mpr (digit_not_mark (by simp) chained.depth : '|' ∉ _)
  have ends : (separated endsLetters '|' chained.ends).count '|' = occurrences endsLetters '|' chained.ends + (chained.depth - 1) := by
    rw [count_separator, length_ends]
  rw [count_ends (by decide)] at ends
  rw [seen_eq, occurrences_cons, spelling, List.count_append, List.count_cons_of_ne (by decide), List.count_append,
    List.count_cons_of_ne (by decide), digits, ends]
  omega

/-- Where a letter is as often in the names and among the marks, the names lack it in both or in neither. -/
theorem absent_of_occurrences {chained changed : ChainedCredential} {mark : Char}
    (lacks : ∀ name ∈ chained.seen, mark ∉ name.toList)
    (same : occurrences String.toList mark changed.seen = occurrences String.toList mark chained.seen) :
    ∀ name ∈ changed.seen, mark ∉ name.toList := by
  rw [occurrences_eq_zero.mpr lacks] at same
  exact occurrences_eq_zero.mp same

theorem endsLetters_inj {first second : List (String × String)} (one : ∀ name ∈ names first, '>' ∉ name.toList)
    (other : ∀ name ∈ names second, '>' ∉ name.toList) (same : first.map endsLetters = second.map endsLetters) :
    first = second := by
  induction first generalizing second with
  | nil => exact (List.map_eq_nil_iff.mp same.symm).symm
  | cons hop first ih =>
    obtain ⟨hop', second, rfl, equal, rest⟩ := List.map_eq_cons_iff.mp same.symm
    simp only [names, List.flatMap_cons, List.cons_append, List.nil_append, List.forall_mem_cons] at one other
    obtain ⟨froms, tos⟩ := before_mark_inj other.1 one.1 equal
    rw [ih one.2.2 other.2.2 rest.symm, Prod.ext (String.toList_inj.mp froms) (String.toList_inj.mp tos)]

/-- Where no name of a chain has a mark in it, what it spells is spelt by nothing else. -/
theorem Plain.speltAlike_iff {chained changed : ChainedCredential} (plain : chained.Plain) :
    SpeltAlike chained changed ↔ changed.origin = chained.origin ∧ changed.ends = chained.ends := by
  constructor
  · intro alike
    have lacks (mark : Char) (among : mark ∈ [':', '|', '>']) : ∀ name ∈ chained.seen, mark ∉ name.toList :=
      fun name member => plain name member mark among
    have colons : ∀ name ∈ changed.seen, ':' ∉ name.toList := by
      apply absent_of_occurrences (lacks ':' (by simp))
      have counts := congrArg (List.count ':') alike
      rw [spelling_colons, spelling_colons] at counts
      omega
    have firsts (chained : ChainedCredential) : chained.origin ∈ chained.seen := List.mem_cons_self ..
    obtain ⟨origins, rest⟩ := before_mark_inj (colons _ (firsts changed)) (lacks ':' (by simp) _ (firsts chained)) alike
    obtain ⟨numbers, paths⟩ := before_mark_inj (digit_not_mark (by simp) _) (digit_not_mark (by simp) _) rest
    have depths : changed.depth = chained.depth := by
      rw [← Nat.ofDigitChars_ten_toDigits (n := changed.depth), numbers, Nat.ofDigitChars_ten_toDigits]
    have arrows : ∀ name ∈ changed.seen, '>' ∉ name.toList := by
      apply absent_of_occurrences (lacks '>' (by simp))
      have counts := congrArg (List.count '>') alike
      rw [spelling_arrows, spelling_arrows] at counts
      omega
    have bars : ∀ name ∈ changed.seen, '|' ∉ name.toList := by
      apply absent_of_occurrences (lacks '|' (by simp))
      have counts := congrArg (List.count '|') alike
      rw [spelling_bars, spelling_bars] at counts
      omega
    have inside {chained : ChainedCredential} {mark : Char} (absent : ∀ name ∈ chained.seen, mark ∉ name.toList) :
        ∀ name ∈ names chained.ends, mark ∉ name.toList := by
      intro name member
      apply absent name
      rw [seen_eq]
      exact List.mem_cons_of_mem _ member
    have whole {ends : List (String × String)} (absent : ∀ name ∈ names ends, '|' ∉ name.toList) :
        ∀ hop ∈ ends, '|' ∉ endsLetters hop := by
      apply occurrences_eq_zero.mp
      rw [count_ends (by decide)]
      exact occurrences_eq_zero.mpr absent
    have lengths : changed.ends.length = chained.ends.length := by rw [length_ends, length_ends, depths]
    have hops := separated_absent_inj lengths (whole (inside bars)) (whole (inside (lacks '|' (by simp)))) paths
    exact ⟨String.toList_inj.mp origins, endsLetters_inj (inside arrows) (inside (lacks '>' (by simp))) hops⟩
  · rintro ⟨origins, hops⟩
    have depths : changed.depth = chained.depth := by rw [← length_ends, ← length_ends, hops]
    rw [SpeltAlike, spelling, spelling, origins, hops, depths]

end ChainedCredential

/-! ### What a carrier can change -/

section Laws
variable [Host] [Aead] [Agreement] [JsonDecoder]

/-- A credential is sealed to the first recipient and passed on to others, the last of whom has the private key. -/
structure Journey (credential : String) (recipient : RecipientKey) (handovers : List Handover) (privateB64 : String)
    (chained : ChainedCredential) : Prop where
  sent : ∃ origin maxHops draw first, sealChained credential recipient origin maxHops draw = .ok first ∧
    relay first handovers = .ok chained
  pair : KeyPair privateB64 (lastRecipient recipient handovers)

theorem Journey.carries (ideal : IdealAead) (reads : ReadsDumped blobStyle) {credential privateB64 : String}
    {recipient : RecipientKey} {handovers : List Handover} {chained : ChainedCredential}
    (journey : Journey credential recipient handovers privateB64 chained) :
    Carries credential (lastRecipient recipient handovers) chained := by
  obtain ⟨origin, maxHops, draw, first, sealed, relayed⟩ := journey.sent
  have carries := (sealChained_ok sealed).2.2.2.2
  exact carries.relay ideal reads relayed

/-- A change to the history of a credential goes unnoticed exactly where it spells what the history spelt. Among names
without marks that is a change to how often the credential may be passed on, and to nothing else. -/
theorem history_rewritten_iff (ideal : IdealAead) (agreement : IdealAgreement) (reads : ReadsDumped blobStyle)
    {credential privateB64 : String} {recipient : RecipientKey} {handovers : List Handover} {chained : ChainedCredential}
    (journey : Journey credential recipient handovers privateB64 chained) :
    (∀ changed : ChainedCredential, changed.blob = chained.blob →
      ((chained.Rewritten changed → ∀ text, openChained changed privateB64 (lastRecipient recipient handovers) ≠ .ok text) ↔
        ¬ (chained.Rewritten changed ∧ chained.SpeltAlike changed))) ∧
    (chained.Plain → ∀ changed : ChainedCredential, (chained.Rewritten changed ∧ chained.SpeltAlike changed) ↔
      changed.origin = chained.origin ∧ changed.ends = chained.ends ∧ changed.maxHops ≠ chained.maxHops) := by
  have carries := journey.carries ideal reads
  constructor
  · intro changed kept
    constructor
    · rintro fails ⟨rewritten, alike⟩
      have opened := carries.opens ideal agreement reads journey.pair kept (ChainedCredential.context_eq_iff.mpr alike)
      exact fails rewritten _ opened
    · intro noticed rewritten text opened
      apply noticed
      exact ⟨rewritten, ChainedCredential.context_eq_iff.mp (carries.context ideal reads kept opened)⟩
  · intro plain changed
    rw [plain.speltAlike_iff, ChainedCredential.Rewritten]
    tauto

end Laws

section Sample
local instance historyHost : Host := asciiHost []
local instance historyAead : Aead := sampleAead
local instance historyAgreement : Agreement := sampleAgreement
local instance historyDecoder : JsonDecoder := textDecoder

theorem sample_journey : ∃ chained, Journey "sk_live_51" gatewayKey [sampleHandover] "AgICAgICAgICAgICAgICAgICAgICAgICAgICAgICAgI" chained ∧
    chained.origin = "planner" ∧ chained.hops = [sampleHandover.hop] ∧ chained.maxHops = 1 := by
  obtain ⟨first, chained, sealed, relayed, origin, hops, maxHops⟩ := sample_relayed
  exact ⟨chained, ⟨⟨"planner", 1, plannerDraw, first, sealed, relayed⟩, billing_keyPair⟩, origin, hops, maxHops⟩

/-- The budget of a chain was raised, and the hop of another one was split at another arrow. -/
theorem history_goes_unnoticed : ∃ chained, Journey "sk_live_51" gatewayKey [sampleHandover]
      "AgICAgICAgICAgICAgICAgICAgICAgICAgICAgICAgI" chained ∧ chained.maxHops = 1 ∧
    openChained { chained with maxHops := 9 } "AgICAgICAgICAgICAgICAgICAgICAgICAgICAgICAgI" billingKey = .ok "sk_live_51" ∧
    openChained { chained with hops := [{ fromNode := "gateway>wrapper", toNode := "billing", at_ := 1700000000 }] }
      "AgICAgICAgICAgICAgICAgICAgICAgICAgICAgICAgI" billingKey = .ok "sk_live_51" := by
  obtain ⟨chained, journey, origin, hops, maxHops⟩ := sample_journey
  have carries := journey.carries sampleAead_ideal sample_reads
  refine ⟨chained, journey, maxHops, ?_, ?_⟩
  · exact carries.opens sampleAead_ideal sampleAgreement_ideal sample_reads billing_keyPair rfl rfl
  · refine carries.opens sampleAead_ideal sampleAgreement_ideal sample_reads billing_keyPair rfl ?_
    have letters : ChainedCredential.endsLetters ("gateway>wrapper", "billing") =
        ChainedCredential.endsLetters ("gateway", "wrapper>billing") := by decide +kernel
    have ends : chained.ends = [("gateway", "wrapper>billing")] := congrArg (List.map _) hops
    rw [ChainedCredential.context_eq_iff, ChainedCredential.SpeltAlike, ChainedCredential.spelling, ChainedCredential.spelling, ends,
      ← ChainedCredential.length_ends chained, ends]
    exact congrArg (fun path => chained.origin.toList ++ ':' :: (Nat.toDigits 10 1 ++ ':' :: path)) letters

theorem history_rewritten_on_the_way : ∃ chained, Journey "sk_live_51" gatewayKey [sampleHandover]
      "AgICAgICAgICAgICAgICAgICAgICAgICAgICAgICAgI" chained ∧
    ∀ changed : ChainedCredential, changed.blob = chained.blob →
      ((chained.Rewritten changed →
          ∀ text, openChained changed "AgICAgICAgICAgICAgICAgICAgICAgICAgICAgICAgI" billingKey ≠ .ok text) ↔
        ¬ (chained.Rewritten changed ∧ chained.SpeltAlike changed)) := by
  obtain ⟨chained, journey, _⟩ := sample_journey
  exact ⟨chained, journey, (history_rewritten_iff sampleAead_ideal sampleAgreement_ideal sample_reads journey).1⟩

end Sample

end Xcp.Vault
