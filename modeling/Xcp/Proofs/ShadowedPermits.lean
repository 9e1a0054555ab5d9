import Xcp.Library.Wildcard
import Xcp.Policy.Language

/-! Which permits of a policy a prohibition makes dead, and which of them `shadowed`
reports. The report reads the patterns as texts, looks only at the rules before
a permit, and knows one word for everyone. -/

namespace Xcp.Language
open Python Wildcard

/-! ### What a pattern accepts -/

def Everyone [Host] (text : String) : Prop := anyone.contains (lower (strip text)) = true

instance [Host] (text : String) : Decidable (Everyone text) := inferInstanceAs (Decidable (_ = true))

/-- What `glob` takes a pattern for. -/
def meaning [Host] (text : String) : Pattern Char := if Everyone text then .family [] else Glob.pattern text

section Patterns
variable [Host] {broad narrow : String}

theorem glob_iff {text value : String} : glob text value = true ↔ (meaning text).Accepts value.toList := by
  by_cases everyone : Everyone text
  · have all : glob text value = true := if_pos everyone
    simp [all, meaning, everyone, Pattern.Accepts]
  · have plain : glob text value =
        if endsWith text "*" then startsWith value (dropEnd text 1) else decide (text = value) := if_neg everyone
    rw [plain, meaning, if_neg everyone, Glob.accepts_iff]

variable (broad narrow) in
/-- One pattern matches all that another one does. -/
def Contains : Prop := (meaning broad).Covers (meaning narrow)

theorem contains_iff : Contains broad narrow ↔ ∀ value, glob narrow value = true → glob broad value = true := by
  simp only [Contains, Pattern.covers_iff, glob_iff]
  constructor
  · intro all value
    exact all value.toList
  · intro all letters
    have one := all (String.ofList letters)
    rwa [String.toList_ofList] at one

/-- Some value matches a pattern. -/
theorem exists_glob (text : String) : ∃ value, glob text value = true := by
  refine ⟨String.ofList (meaning text).letters, glob_iff.mpr ?_⟩
  rw [String.toList_ofList]
  exact (meaning text).accepts_letters

theorem contains_of_everyone (everyone : Everyone broad) : Contains broad narrow := by
  rw [Contains, show meaning broad = .family [] from if_pos everyone]
  exact List.nil_prefix

variable (broad narrow) in
/-- The text of one pattern looks as if it took in the other. -/
inductive Resembles : Prop
  | family (star : endsWith broad "*" = true) (begins : (dropEnd broad 1).toList <+: narrow.toList)
  | word (plain : endsWith broad "*" = false) (same : lower broad = lower narrow)

theorem covers_iff : covers broad narrow = true ↔ Resembles broad narrow := by
  cases star : endsWith broad "*" with
  | true =>
    have text : covers broad narrow = true ↔ (dropEnd broad 1).toList <+: narrow.toList := by
      unfold covers
      by_cases one : broad = "*"
      · simp [one, show (dropEnd "*" 1).toList = [] by decide]
      · rw [if_neg one, if_pos star, startsWith, List.isPrefixOf_iff_prefix]
    rw [text]
    constructor
    · exact .family star
    · intro looks
      cases looks with
      | family _ begins => exact begins
      | word plain _ => exact absurd (star.symm.trans plain) (by decide)
  | false =>
    have other : broad ≠ "*" := by
      intro one
      rw [one] at star
      exact absurd star (by decide)
    have text : covers broad narrow = true ↔ lower broad = lower narrow := by simp [covers, other, star]
    rw [text]
    constructor
    · exact .word star
    · intro looks
      cases looks with
      | family other _ => exact absurd (star.symm.trans other) (by decide)
      | word _ same => exact same

variable (broad narrow) in
/-- A word for everyone whose text does not show it. -/
def Veiled : Prop := Everyone broad ∧ ¬ Resembles broad narrow

variable (broad narrow) in
/-- What looks like part of a pattern and is more: a word for everyone, the same
family, or the letters in another case. -/
inductive Exceeds : Prop
  | everyone (everyone : Everyone narrow) (part : broad ≠ "*")
  | family (longer : broad.toList = narrow.toList ++ ['*']) (star : endsWith narrow "*" = true)
  | letters (plain : endsWith broad "*" = false) (differ : broad ≠ narrow)

variable (broad narrow) in
def Misread : Prop := Resembles broad narrow ∧ ¬ Everyone broad ∧ Exceeds broad narrow

theorem meaning_cases (everyone : ¬ Everyone broad) :
    (endsWith broad "*" = false ∧ meaning broad = .word broad.toList) ∨
      ∃ start, endsWith broad "*" = true ∧ broad.toList = start ++ ['*'] ∧ (dropEnd broad 1).toList = start ∧
        meaning broad = .family start := by
  cases star : endsWith broad "*" with
  | false => exact .inl ⟨rfl, by simp [meaning, everyone, Glob.pattern, star]⟩
  | true => exact .inr ⟨_, rfl, Glob.star_toList star, rfl, by simp [meaning, everyone, Glob.pattern, star]⟩

theorem exceeds_family {start : List Char} (star : endsWith broad "*" = true) (written : broad.toList = start ++ ['*']) :
    Exceeds broad narrow ↔ (Everyone narrow ∧ start ≠ []) ∨ (start = narrow.toList ∧ endsWith narrow "*" = true) := by
  have whole : broad = "*" ↔ start = [] := by simp [← String.toList_inj, written]
  constructor
  · intro exceeds
    cases exceeds with
    | everyone everyone part => exact .inl ⟨everyone, fun none => part (whole.mpr none)⟩
    | family longer finish => exact .inr ⟨List.append_cancel_right (written.symm.trans longer), finish⟩
    | letters plain _ => exact absurd (star.symm.trans plain) (by decide)
  · intro either
    obtain ⟨everyone, part⟩ | ⟨same, finish⟩ := either
    · exact .everyone everyone fun one => part (whole.mp one)
    · exact .family (same ▸ written) finish

/-- A family has what looks like part of it, unless that is more. -/
theorem contains_family {start : List Char} (star : endsWith broad "*" = true) (written : broad.toList = start ++ ['*'])
    (means : meaning broad = .family start) : Contains broad narrow ↔ start <+: narrow.toList ∧ ¬ Exceeds broad narrow := by
  have contains : Contains broad narrow ↔ start <+: (meaning narrow).letters := by rw [Contains, means]; rfl
  rw [contains, exceeds_family star written]
  by_cases everyone : Everyone narrow
  · rw [show meaning narrow = .family [] from if_pos everyone]
    simp only [Pattern.letters, List.prefix_nil, everyone, true_and, not_or, not_not, not_and]
    constructor
    · intro alone
      refine ⟨alone ▸ List.nil_prefix, alone, fun same finish => ?_⟩
      obtain rfl : narrow = "" := String.toList_inj.mp (same.symm.trans alone)
      exact absurd finish (by decide)
    · intro contained
      obtain ⟨_, alone, _⟩ := contained
      exact alone
  · obtain ⟨plain, word⟩ | ⟨rest, finish, split, _, family⟩ := meaning_cases everyone
    · simp [word, Pattern.letters, everyone, plain]
    · have longer : ¬ rest ++ ['*'] <+: rest := fun before => by simpa using before.length_le
      rw [family, split, List.prefix_concat_iff]
      simp only [Pattern.letters, everyone, finish, false_and, false_or, and_true]
      constructor
      · intro begins
        refine ⟨.inr begins, fun same => longer ?_⟩
        rwa [same] at begins
      · intro contained
        obtain ⟨either, differ⟩ := contained
        exact either.resolve_left differ

/-- A word has no more than what is spelt as it is. -/
theorem contains_word (plain : endsWith broad "*" = false) (means : meaning broad = .word broad.toList) :
    Contains broad narrow ↔ lower broad = lower narrow ∧ ¬ Exceeds broad narrow := by
  rw [Contains, means]
  by_cases everyone : Everyone narrow
  · rw [show meaning narrow = .family [] from if_pos everyone]
    constructor
    · intro none
      exact none.elim
    · intro ⟨_, within⟩
      refine within (.everyone everyone fun one => ?_)
      exact absurd (one ▸ plain) (by decide)
  · obtain ⟨single, word⟩ | ⟨rest, finish, split, _, family⟩ := meaning_cases everyone
    · rw [word]
      constructor
      · intro same
        obtain rfl : broad = narrow := String.toList_inj.mp same
        refine ⟨rfl, fun exceeds => ?_⟩
        cases exceeds with
        | everyone every _ => exact everyone every
        | family longer _ => simpa using congrArg List.length longer
        | letters _ differ => exact differ rfl
      · intro ⟨_, within⟩
        by_contra differ
        exact within (.letters plain fun same => differ (congrArg String.toList same))
    · rw [family]
      constructor
      · intro none
        exact none.elim
      · intro ⟨_, within⟩
        refine within (.letters plain fun same => ?_)
        rw [same, finish] at plain
        cases plain

theorem contains_iff_resembles (everyone : ¬ Everyone broad) :
    Contains broad narrow ↔ Resembles broad narrow ∧ ¬ Exceeds broad narrow := by
  obtain ⟨plain, word⟩ | ⟨start, star, written, kept, family⟩ := meaning_cases everyone
  · have looks : Resembles broad narrow ↔ lower broad = lower narrow := by
      constructor
      · intro looks
        cases looks with
        | family star _ =>
          rw [plain] at star
          cases star
        | word _ same => exact same
      · exact .word plain
    rw [looks, contains_word plain word]
  · have looks : Resembles broad narrow ↔ start <+: narrow.toList := by
      constructor
      · intro looks
        cases looks with
        | family _ begins => rwa [kept] at begins
        | word plain _ =>
          rw [star] at plain
          cases plain
      · intro begins
        exact .family star (by rwa [kept])
    rw [looks, contains_family star written family]

/-- Where text and meaning of two patterns differ. -/
theorem resembles_iff : Resembles broad narrow ↔ (Contains broad narrow ∧ ¬ Veiled broad narrow) ∨ Misread broad narrow := by
  by_cases everyone : Everyone broad
  · have contains : Contains broad narrow := contains_of_everyone everyone
    simp [Veiled, Misread, everyone, contains]
  · simp only [contains_iff_resembles everyone, Veiled, Misread, everyone, false_and, not_false_eq_true, and_true, true_and]
    tauto

end Patterns

/-! ### Rules -/

namespace Rule
variable [Host] {other rule : Rule}

variable (other rule) in
def Contains : Prop := Language.Contains other.subject rule.subject ∧ Language.Contains other.action rule.action

variable (other rule) in
def Resembles : Prop := Language.Resembles other.subject rule.subject ∧ Language.Resembles other.action rule.action

variable (other rule) in
/-- The rule contains another one by a word for everyone that the text does not show. -/
def Veiled : Prop :=
  other.Contains rule ∧ (Language.Veiled other.subject rule.subject ∨ Language.Veiled other.action rule.action)

variable (other rule) in
/-- The rule looks as if it contained another one, and a pattern exceeds its own. -/
def Misread : Prop :=
  other.Resembles rule ∧ (Language.Misread other.subject rule.subject ∨ Language.Misread other.action rule.action)

theorem contains_iff : other.Contains rule ↔
    ∀ subject action, rule.matches_ subject action = true → other.matches_ subject action = true := by
  simp only [Contains, Language.contains_iff, matches_, Bool.and_eq_true]
  constructor
  · intro ⟨subjects, actions⟩ subject action ⟨one, two⟩
    exact ⟨subjects subject one, actions action two⟩
  · intro all
    obtain ⟨subject, one⟩ := exists_glob rule.subject
    obtain ⟨action, two⟩ := exists_glob rule.action
    exact ⟨fun value found => (all value action ⟨found, two⟩).1, fun value found => (all subject value ⟨one, found⟩).2⟩

theorem resembles_iff : other.Resembles rule ↔ (other.Contains rule ∧ ¬ other.Veiled rule) ∨ other.Misread rule := by
  constructor
  · intro ⟨subject, action⟩
    obtain ⟨wide, shown⟩ | misread := Language.resembles_iff.mp subject
    · obtain ⟨wide', shown'⟩ | misread := Language.resembles_iff.mp action
      · exact .inl ⟨⟨wide, wide'⟩, fun veiled => veiled.2.elim shown shown'⟩
      · exact .inr ⟨⟨subject, action⟩, .inr misread⟩
    · exact .inr ⟨⟨subject, action⟩, .inl misread⟩
  · rintro (⟨wide, shown⟩ | misread)
    · exact ⟨Language.resembles_iff.mpr (.inl ⟨wide.1, fun veiled => shown ⟨wide, .inl veiled⟩⟩),
        Language.resembles_iff.mpr (.inl ⟨wide.2, fun veiled => shown ⟨wide, .inr veiled⟩⟩)⟩
    · exact misread.1

end Rule

/-! ### Policies -/

section Reports
variable [Host] {policy : Policy} {place : Nat} {rule : Rule}

variable (policy rule) in
/-- One prohibition of the policy, wherever it stands, matches all that a rule matches. -/
def Dead : Prop :=
  ∃ other ∈ policy.rules, other.effect = Effect.deny ∧
    ∀ subject action, rule.matches_ subject action = true → other.matches_ subject action = true

variable (policy) in
/-- The permits that are reported are the dead ones. -/
def Exact : Prop :=
  ∀ place rule, policy.rules[place]? = some rule → rule.effect = Effect.allow →
    ((policy.shadowAt place rule).isSome = true ↔ Dead policy rule)

theorem mem_shadowed {pair : String × String} :
    pair ∈ policy.shadowed ↔ ∃ place rule, policy.rules[place]? = some rule ∧ policy.shadowAt place rule = some pair := by
  simp only [Policy.shadowed, List.mem_filterMap, List.mem_zipIdx_iff_getElem?, Prod.exists]
  constructor
  · intro ⟨rule, place, found, added⟩
    exact ⟨place, rule, found, added⟩
  · intro ⟨place, rule, found, added⟩
    exact ⟨rule, place, found, added⟩

/-- Rules of a document bear different ids, so that a report names one of them. -/
theorem reported_iff (distinct : (policy.rules.map Rule.id).Nodup) (found : policy.rules[place]? = some rule) :
    rule.id ∈ policy.shadowed.map Prod.fst ↔ (policy.shadowAt place rule).isSome = true := by
  have named : ∀ {place rule pair}, policy.shadowAt place rule = some pair → pair.1 = rule.id := by
    intro place rule pair added
    unfold Policy.shadowAt at added
    split at added
    · cases added
    · obtain ⟨other, _, rfl⟩ := Option.map_eq_some_iff.mp added
      rfl
  constructor
  · intro reported
    obtain ⟨pair, member, same⟩ := List.mem_map.mp reported
    obtain ⟨place', rule', found', added⟩ := mem_shadowed.mp member
    have ids : (policy.rules.map Rule.id)[place']? = (policy.rules.map Rule.id)[place]? := by
      rw [List.getElem?_map, List.getElem?_map, found, found']
      exact congrArg some ((named added).symm.trans same)
    obtain ⟨inside, _⟩ := List.getElem?_eq_some_iff.mp found'
    obtain rfl : place' = place := (List.getElem?_inj (by simpa using inside) distinct).mp ids
    obtain rfl : rule' = rule := Option.some.inj (found'.symm.trans found)
    rw [added]
    rfl
  · intro added
    obtain ⟨pair, written⟩ := Option.isSome_iff_exists.mp added
    exact List.mem_map.mpr ⟨pair, mem_shadowed.mpr ⟨place, rule, found, written⟩, named written⟩

variable (policy place rule) in
/-- A dead permit that no prohibition before it takes in by its text: the ones that
do contain it come later or hide it behind a word for everyone. -/
structure Overlooked : Prop where
  dead : ∃ other ∈ policy.rules, other.effect = Effect.deny ∧ other.Contains rule
  veiled : ∀ other ∈ policy.rules.take place, other.effect = Effect.deny → other.Contains rule → other.Veiled rule
  unnamed : ∀ other ∈ policy.rules.take place, other.effect = Effect.deny → ¬ other.Misread rule

variable (policy place rule) in
/-- A permit with some use, which a prohibition before it only looks to contain. -/
structure Accused : Prop where
  misread : ∃ other ∈ policy.rules.take place, other.effect = Effect.deny ∧ other.Misread rule
  alive : ∀ other ∈ policy.rules, other.effect = Effect.deny → ¬ other.Contains rule

theorem shadowAt_isSome (permit : rule.effect = Effect.allow) : (policy.shadowAt place rule).isSome = true ↔
    ∃ other ∈ policy.rules.take place, other.effect = Effect.deny ∧ other.Resembles rule := by
  simp [Policy.shadowAt, permit, Rule.Resembles, covers_iff, and_assoc]

theorem dead_iff : Dead policy rule ↔ ∃ other ∈ policy.rules, other.effect = Effect.deny ∧ other.Contains rule := by
  simp only [Dead, Rule.contains_iff]

/-- A permit is reported if and only if it is dead, unless it is of one of two kinds. -/
theorem shadowAt_iff_dead (permit : rule.effect = Effect.allow) :
    ((policy.shadowAt place rule).isSome = true ↔ Dead policy rule) ↔
      ¬ Overlooked policy place rule ∧ ¬ Accused policy place rule := by
  rw [shadowAt_isSome permit, dead_iff]
  constructor
  · intro same
    constructor
    · intro overlooked
      obtain ⟨other, before, denies, looks⟩ := same.mpr overlooked.dead
      obtain ⟨contains, plain⟩ | misread := Rule.resembles_iff.mp looks
      · exact plain (overlooked.veiled other before denies contains)
      · exact overlooked.unnamed other before denies misread
    · intro accused
      obtain ⟨other, before, denies, misread⟩ := accused.misread
      obtain ⟨other, member, denies, contains⟩ := same.mp ⟨other, before, denies, misread.1⟩
      exact accused.alive other member denies contains
  · intro ⟨seen, fair⟩
    constructor
    · intro ⟨other, before, denies, looks⟩
      obtain ⟨contains, _⟩ | misread := Rule.resembles_iff.mp looks
      · exact ⟨other, List.mem_of_mem_take before, denies, contains⟩
      · by_contra alive
        exact fair ⟨⟨other, before, denies, misread⟩, fun other member denies contains => alive ⟨other, member, denies, contains⟩⟩
    · intro dead
      by_contra unnamed
      refine seen ⟨dead, fun other before denies contains => ?_, fun other before denies misread => ?_⟩
      · by_contra plain
        exact unnamed ⟨other, before, denies, Rule.resembles_iff.mpr (.inl ⟨contains, plain⟩)⟩
      · exact unnamed ⟨other, before, denies, misread.1⟩

theorem shadowed_exact_iff : Exact policy ↔ ∀ place rule, policy.rules[place]? = some rule → rule.effect = Effect.allow →
    ¬ Overlooked policy place rule ∧ ¬ Accused policy place rule := by
  constructor
  · intro exact_ place rule found permit
    exact (shadowAt_iff_dead permit).mp (exact_ place rule found permit)
  · intro neither place rule found permit
    exact (shadowAt_iff_dead permit).mpr (neither place rule found permit)

end Reports

section Late
local instance lateHost : Host := asciiHost []

/-- The permit stands before the prohibition that makes it dead. -/
def lateProhibition : Policy where
  name := "policy"
  version := "1"
  rules := [{ id := "r1", subject := "Bob", action := "pay" }, { id := "r2", subject := "*", action := "pay", effect := Effect.deny }]

theorem lateProhibition_overlooked : lateProhibition.shadowed = [] ∧ ¬ Exact lateProhibition := by
  refine ⟨by decide +kernel, fun exact_ => ?_⟩
  have dead : Dead lateProhibition { id := "r1", subject := "Bob", action := "pay" } := by
    refine ⟨{ id := "r2", subject := "*", action := "pay", effect := Effect.deny }, by simp [lateProhibition], rfl, ?_⟩
    intro subject action found
    have everyone : glob "*" subject = true := if_pos (by decide +kernel)
    have paid : glob "pay" action = true := (Bool.and_eq_true_iff.mp found).2
    exact Bool.and_eq_true_iff.mpr ⟨everyone, paid⟩
  have reported := (exact_ 0 _ rfl rfl).mpr dead
  exact absurd reported (by decide +kernel)

end Late
end Xcp.Language
