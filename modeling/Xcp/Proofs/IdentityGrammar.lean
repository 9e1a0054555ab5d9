import Xcp.Library.Delimited
import Xcp.Library.Digits
import Xcp.Sdk.Go
import Xcp.Sdk.TypeScript

/-! The grammar of the identity header, and what each of its three parsers makes of
a header. Python's takes digits of other scripts for digits, and reads no more of
them than `int` allows. -/

namespace Xcp.IdentityGrammar
open Checked Digits
open Protocol (AgentIdentityHeader)
open Python (splitOn stripBy)

/-! ### The fields -/

/-- Optional white space of a header. -/
def isOws (letter : Char) : Bool := letter = ' ' || letter = '\t'

def fields (header : String) : List String := splitOn (Protocol.stripOws header) ';'

theorem protocol_stripOws (header : String) : Protocol.stripOws header = String.ofList (stripBy isOws header.toList) := by
  have same : (fun letter : Char => decide (letter = ' ' ∨ letter = '\t')) = isOws := by
    funext letter
    simp [isOws]
  rw [Protocol.stripOws, same]

theorem typeScript_fields (header : String) : splitOn (TypeScript.stripOws header) ';' = fields header := by
  have same : TypeScript.ows.contains = isOws := by
    funext letter
    simp [TypeScript.ows, isOws]
  rw [fields, protocol_stripOws, TypeScript.stripOws, same]

theorem goSdk_fields (header : String) : splitOn (GoSdk.stripOws header) ';' = fields header := by
  rw [fields, protocol_stripOws]
  rfl

/-! ### The grammar -/

/-- `OWS* digits ';' digits ';' footprint OWS*`, where the footprint has no semicolon. -/
structure Shape (letters before first second footprint after : List Char) : Prop where
  whole : letters = before ++ (first ++ ';' :: (second ++ ';' :: (footprint ++ after)))
  before : ∀ letter ∈ before, isOws letter = true
  first : Decimal first
  second : Decimal second
  footprint : ';' ∉ footprint
  after : ∀ letter ∈ after, isOws letter = true

def Grammar (header : String) : Prop :=
  ∃ before first second footprint after, Shape header.toList before first second footprint after

theorem decimal_plain {letters : List Char} (decimal : Decimal letters) : ';' ∉ letters := by
  intro member
  have digit := decimal.digits ';' member
  revert digit
  decide

theorem splitOn_three {first second third : List Char} (one : ';' ∉ first) (two : ';' ∉ second) (three : ';' ∉ third) :
    (first ++ ';' :: (second ++ ';' :: third)).splitOn ';' = [first, second, third] := by
  rw [List.splitOn_append_cons_self_of_not_mem one, List.splitOn_append_cons_self_of_not_mem two,
    List.splitOn_eq_singleton three]

/-- What is left of such a header once the space around it is gone. -/
theorem Shape.stripped {letters before first second footprint after : List Char}
    (shape : Shape letters before first second footprint after) :
    stripBy isOws letters = first ++ ';' :: (second ++ ';' :: footprint.rdropWhile isOws) := by
  have bare : Strip.Bare isOws (first ++ ';' :: (second ++ ';' :: footprint.rdropWhile isOws)) := by
    constructor
    · obtain ⟨letter, rest, rfl⟩ := List.exists_cons_of_ne_nil shape.first.present
      have digit := shape.first.digits letter (List.mem_cons_self ..)
      intro head found
      obtain rfl : letter = head := Option.some.inj found
      simp [isOws, ne_of_digit digit (show isAsciiDigit ' ' = false by decide),
        ne_of_digit digit (show isAsciiDigit '\t' = false by decide)]
    · intro last found
      by_cases nothing : footprint.rdropWhile isOws = []
      · rw [nothing, List.getLast?_append, List.getLast?_cons, List.getLast?_append] at found
        obtain rfl : ';' = last := by simpa using found
        decide
      · have kept := List.rdropWhile_last_not isOws footprint nothing
        have same : (footprint.rdropWhile isOws).getLast nothing = last := by
          simpa [List.getLast?_append, List.getLast?_cons, List.getLast?_eq_some_getLast nothing] using found
        rw [← same]
        simpa using kept
  have around : letters =
      before ++ ((first ++ ';' :: (second ++ ';' :: footprint.rdropWhile isOws)) ++ (footprint.rtakeWhile isOws ++ after)) := by
    have parts : footprint.rdropWhile isOws ++ footprint.rtakeWhile isOws = footprint :=
      List.rdropWhile_append_rtakeWhile
    conv_lhs => rw [shape.whole, ← parts]
    simp only [List.append_assoc, List.cons_append]
  rw [around]
  apply Strip.stripBy_around shape.before bare
  intro letter member
  exact (List.mem_append.mp member).elim (List.mem_rtakeWhile_imp) (shape.after letter)

/-- The fields of such a header, without the space around them. -/
theorem Shape.fields {header : String} {before first second footprint after : List Char}
    (shape : Shape header.toList before first second footprint after) :
    fields header = [String.ofList first, String.ofList second, String.ofList (footprint.rdropWhile isOws)] := by
  have plain : ';' ∉ footprint.rdropWhile isOws := by
    intro member
    exact shape.footprint ((List.rdropWhile_prefix isOws footprint).subset member)
  simp only [IdentityGrammar.fields, protocol_stripOws, splitOn, String.toList_ofList]
  rw [shape.stripped, splitOn_three (decimal_plain shape.first) (decimal_plain shape.second) plain]
  rfl

/-- A header is its fields, with semicolons between them and white space about them. -/
theorem whole_of_fields {header first second footprint : String} (split : fields header = [first, second, footprint]) :
    ∃ before after, header.toList = before ++ (first.toList ++ ';' :: (second.toList ++ ';' :: (footprint.toList ++ after))) ∧
      (∀ letter ∈ before, isOws letter = true) ∧ (∀ letter ∈ after, isOws letter = true) ∧ ';' ∉ footprint.toList := by
  simp only [fields, protocol_stripOws, splitOn, String.toList_ofList] at split
  obtain ⟨before, after, whole, before_ows, after_ows⟩ :=
    Strip.stripBy_split isOws header.toList
  have pieces : (stripBy isOws header.toList).splitOn ';' = [first.toList, second.toList, footprint.toList] := by
    have back := congrArg (List.map String.toList) split
    simpa [Function.comp_def] using back
  have joined : [';'].intercalate ((stripBy isOws header.toList).splitOn ';') = stripBy isOws header.toList :=
    List.intercalate_splitOn ';'
  have last : footprint.toList ∈ (stripBy isOws header.toList).splitOn ';' := by simp [pieces]
  refine ⟨before, after, ?_, before_ows, after_ows, Python.not_mem_of_mem_splitOn last⟩
  rw [whole, ← joined, pieces]
  simp [List.intercalate]

/-- The headers of the grammar are those with three fields of which two are numbers. -/
theorem grammar_iff (header : String) : Grammar header ↔
    ∃ first second footprint, fields header = [first, second, footprint] ∧ Decimal first.toList ∧ Decimal second.toList := by
  constructor
  · intro ⟨before, first, second, footprint, after, shape⟩
    refine ⟨_, _, _, shape.fields, ?_, ?_⟩
    · simpa using shape.first
    · simpa using shape.second
  · intro ⟨first, second, footprint, split, one, two⟩
    obtain ⟨before, after, whole, before_ows, after_ows, plain⟩ := whole_of_fields split
    exact ⟨before, first.toList, second.toList, footprint.toList, after, whole, before_ows, one, two, plain, after_ows⟩

/-! ### The three parsers -/

/-- What a header of the grammar says, and why any other one is refused. -/
def reading (header : String) : Except String AgentIdentityHeader :=
  match fields header with
  | [first, second, footprint] =>
    if Decimal first.toList ∧ Decimal second.toList then
      .ok { agentId := (value first.toList : Int), chainId := (value second.toList : Int), footprint }
    else .error Protocol.reasonNonCanonical
  | _ => .error Protocol.reasonMalformed

section Fields
variable {header first second footprint : String}

theorem reading_of_three (split : fields header = [first, second, footprint]) :
    reading header =
      if Decimal first.toList ∧ Decimal second.toList then
        .ok { agentId := (value first.toList : Int), chainId := (value second.toList : Int), footprint }
      else .error Protocol.reasonNonCanonical := by
  rw [reading, split]

theorem reading_of_other (other : ∀ first second footprint, fields header = [first, second, footprint] → False) :
    reading header = .error Protocol.reasonMalformed := by
  rw [reading]
  split
  next first second footprint split => exact (other first second footprint split).elim
  next => rfl

theorem forall_of_three {holds : String → String → String → Prop} (split : fields header = [first, second, footprint]) :
    (∀ one two three, fields header = [one, two, three] → holds one two three) ↔ holds first second footprint := by
  constructor
  · intro every
    exact every first second footprint split
  · intro one first' second' footprint' split'
    obtain ⟨rfl, rfl, rfl⟩ : first = first' ∧ second = second' ∧ footprint = footprint' := by
      simpa [split] using split'
    exact one

end Fields

theorem reading_ok_iff (header : String) : (∃ identity, reading header = .ok identity) ↔ Grammar header := by
  rw [grammar_iff]
  constructor
  · intro ⟨identity, read⟩
    rw [reading] at read
    split at read
    next first second footprint split =>
      split at read
      next both => exact ⟨first, second, footprint, split, both⟩
      · cases read
    · cases read
  · intro ⟨first, second, footprint, split, both⟩
    rw [reading_of_three split, if_pos both]
    exact ⟨_, rfl⟩

theorem text_nonempty {text : String} (decimal : Decimal text.toList) : text ≠ "" := by
  rintro rfl
  exact decimal.present rfl

theorem typeScript_isCanonicalDecimal (text : String) :
    TypeScript.isCanonicalDecimal text = true ↔ Decimal text.toList := by
  rw [TypeScript.isCanonicalDecimal, Bool.and_eq_true, decide_eq_true_iff, List.all_eq_true]
  constructor
  · intro ⟨present, digits⟩
    exact { present := fun nothing => present (String.toList_eq_nil_iff.mp nothing), digits }
  · intro decimal
    exact ⟨text_nonempty decimal, decimal.digits⟩

theorem goSdk_isCanonicalDecimal (text : String) : GoSdk.isCanonicalDecimal text = TypeScript.isCanonicalDecimal text := rfl

theorem typeScript_reads (header : String) : TypeScript.parseAgentIdentity header = some (reading header) := by
  rw [TypeScript.parseAgentIdentity, typeScript_fields]
  split
  next first second footprint split =>
    rw [reading_of_three split]
    by_cases both : Decimal first.toList ∧ Decimal second.toList
    · have canonical : (TypeScript.isCanonicalDecimal first && TypeScript.isCanonicalDecimal second) = true := by
        simp [typeScript_isCanonicalDecimal, both]
      rw [if_pos canonical, if_pos both, javaScript_bigInt? both.1, javaScript_bigInt? both.2]
      rfl
    · have canonical : ¬ (TypeScript.isCanonicalDecimal first && TypeScript.isCanonicalDecimal second) = true := by
        simpa [typeScript_isCanonicalDecimal] using both
      rw [if_neg canonical, if_neg both]
      rfl
  next other =>
    rw [reading_of_other other]
    rfl

theorem goSdk_reads (header : String) : GoSdk.parseAgentIdentity header = reading header := by
  rw [GoSdk.parseAgentIdentity, goSdk_fields]
  split
  next first second footprint split =>
    rw [reading_of_three split]
    by_cases both : Decimal first.toList ∧ Decimal second.toList
    · have canonical : (GoSdk.isCanonicalDecimal first && GoSdk.isCanonicalDecimal second) = true := by
        simp [goSdk_isCanonicalDecimal, typeScript_isCanonicalDecimal, both]
      simp only [if_pos canonical, if_pos both, go_setString both.1, go_setString both.2]
    · have canonical : ¬ (GoSdk.isCanonicalDecimal first && GoSdk.isCanonicalDecimal second) = true := by
        simpa [goSdk_isCanonicalDecimal, typeScript_isCanonicalDecimal] using both
      simp only [if_neg canonical, if_neg both]
      rfl
  next other =>
    rw [reading_of_other other]
    rfl

/-- ASCII digits, no more of them than `int` allows. -/
def Short (text : String) : Prop := Decimal text.toList ∧ text.toList.length ≤ Python.maxIntDigits

/-- Where Python finds digits in both fields, they are ASCII digits and few enough. -/
def Undisputed (header : String) : Prop :=
  ∀ first second footprint, fields header = [first, second, footprint] →
    Python.isDigit first = true → Python.isDigit second = true → Short first ∧ Short second

theorem python_isDigit {text : String} (decimal : Decimal text.toList) : Python.isDigit text = true := by
  rw [Python.isDigit, Bool.and_eq_true, decide_eq_true_iff, List.all_eq_true]
  exact ⟨text_nonempty decimal, fun letter member => python_isDigitChar (decimal.digits letter member)⟩

theorem intOfText_short {text : String} (short : Short text) : Python.intOfText text = .ok (value text.toList : Int) := by
  simp only [Python.intOfText, python_parseInt? short.1, if_pos short.2]

theorem intOfText_long {text : String} (decimal : Decimal text.toList) (long : ¬ Short text) :
    ∃ exception, Python.intOfText text = .error exception := by
  have many : ¬ text.toList.length ≤ Python.maxIntDigits := fun short => long ⟨decimal, short⟩
  simp only [Python.intOfText, python_parseInt? decimal, if_neg many]
  exact ⟨_, rfl⟩

/-- Python's parser reads a header the way the other two do unless it is disputed. -/
theorem protocol_reads_iff (header : String) : Protocol.tryParse header = .ok (reading header) ↔ Undisputed header := by
  have split_by : splitOn (Protocol.stripOws header) ';' = fields header := rfl
  rw [Protocol.tryParse, split_by]
  split
  next first second footprint split =>
    rw [Undisputed, forall_of_three split, reading_of_three split]
    by_cases digits : (Python.isDigit first && Python.isDigit second) = true
    · have found : Python.isDigit first = true ∧ Python.isDigit second = true := Bool.and_eq_true_iff.mp digits
      rw [if_pos digits]
      by_cases both : Decimal first.toList ∧ Decimal second.toList
      · rw [if_pos both]
        by_cases one : Short first
        · rw [intOfText_short one]
          by_cases two : Short second
          · rw [intOfText_short two]
            exact iff_of_true rfl (fun _ _ => ⟨one, two⟩)
          · obtain ⟨exception, raised⟩ := intOfText_long both.2 two
            rw [raised]
            exact iff_of_false (fun same => by cases same) (fun short => two (short found.1 found.2).2)
        · obtain ⟨exception, raised⟩ := intOfText_long both.1 one
          rw [raised]
          exact iff_of_false (fun same => by cases same) (fun short => one (short found.1 found.2).1)
      · rw [if_neg both]
        refine iff_of_false ?_ (fun short => both ⟨(short found.1 found.2).1.1, (short found.1 found.2).2.1⟩)
        cases Python.intOfText first with
        | error exception => exact fun same => by cases same
        | ok agentId =>
          cases Python.intOfText second with
          | error exception => exact fun same => by cases same
          | ok chainId => exact fun same => by cases same
    · have both : ¬ (Decimal first.toList ∧ Decimal second.toList) := by
        intro both
        exact digits (Bool.and_eq_true_iff.mpr ⟨python_isDigit both.1, python_isDigit both.2⟩)
      rw [if_neg digits, if_neg both]
      exact iff_of_true rfl (fun one two => absurd (Bool.and_eq_true_iff.mpr ⟨one, two⟩) digits)
  next other =>
    rw [reading_of_other other]
    exact iff_of_true rfl (fun first second footprint split => (other first second footprint split).elim)

/-! ### One grammar -/

/-- The parsers agree on a header, on what it says and on whether it is of the grammar. -/
structure OneGrammar (header : String) : Prop where
  raises : ∀ exception, Protocol.parse header = .error exception → exception.kind = .package "IdentityError"
  returns : ∃ result, Protocol.tryParse header = .ok result
  accepts : (∃ identity, Protocol.parse header = .ok identity) ↔ Grammar header
  ports : ∃ result, Protocol.tryParse header = .ok result ∧ TypeScript.parseAgentIdentity header = some result ∧
    GoSdk.parseAgentIdentity header = result

/-- The identity header has one grammar wherever Python sees no digits that the other
languages do not see or that it would not read. -/
theorem one_grammar_iff (header : String) : OneGrammar header ↔ Undisputed header := by
  rw [← protocol_reads_iff]
  constructor
  · intro one
    obtain ⟨result, python, typeScript, -⟩ := one.ports
    rw [typeScript_reads] at typeScript
    rw [python, Option.some.inj typeScript]
  · intro read
    have form := Protocol.tryParse_eq header
    refine { raises := ?_, returns := ⟨_, read⟩, accepts := ?_, ports := ⟨_, read, typeScript_reads header, goSdk_reads header⟩ }
    · intro exception raised
      rw [raised, read] at form
      by_contra other
      simp [other] at form
    · rw [← reading_ok_iff]
      constructor
      · intro ⟨identity, parsed⟩
        rw [parsed, read] at form
        exact ⟨identity, Except.ok.inj form⟩
      · intro ⟨identity, same⟩
        rw [read, same] at form
        cases parsed : Protocol.parse header with
        | ok other => exact ⟨other, rfl⟩
        | error exception =>
          rw [parsed] at form
          by_cases refused : exception.kind = .package "IdentityError" <;> simp [refused] at form

/-- A superscript is a digit to `isdigit` and none to `int`. -/
theorem superscript_raises : ¬ OneGrammar "\u00b2;8453;0xAb" := by
  intro one
  obtain ⟨result, returned⟩ := one.returns
  have raised : Protocol.tryParse "\u00b2;8453;0xAb" =
      .error ⟨.valueError, "invalid literal for int() with base 10: '\u00b2'"⟩ := by decide
  rw [raised] at returned
  cases returned

end Xcp.IdentityGrammar

/-! Identity headers that are written and read back. The formatter refuses more
space than the parser strips, so that nothing which it emits is stripped. -/

namespace Xcp.IdentityGrammar
open Checked Digits
open Protocol (AgentIdentityHeader formatIdentity parse)
open Python (prints isSpace splitOn strip stripBy intOfText)

/-- A footprint that stays as it is between semicolons, and at the end of a header. -/
structure Presentable (footprint : String) : Prop where
  plain : ';' ∉ footprint.toList
  bare : Strip.Bare isSpace footprint.toList

theorem presentable_iff (footprint : String) :
    Presentable footprint ↔ ¬ (';' ∈ footprint.toList ∨ strip footprint ≠ footprint) := by
  rw [not_or, not_not]
  constructor
  · intro ⟨plain, bare⟩
    refine ⟨plain, ?_⟩
    rw [strip, Strip.stripBy_of_bare bare, String.ofList_toList]
  · intro ⟨plain, same⟩
    refine ⟨plain, ?_⟩
    have stripped : stripBy isSpace footprint.toList = footprint.toList := by
      rw [← String.toList_ofList (l := stripBy isSpace footprint.toList)]
      exact congrArg String.toList same
    rw [← stripped]
    exact Strip.stripBy_bare isSpace footprint.toList

/-- What the parser strips is space to the formatter as well. -/
theorem isSpace_of_isOws {letter : Char} (ows : isOws letter = true) : isSpace letter = true := by
  obtain rfl | rfl : letter = ' ' ∨ letter = '\t' := by simpa [isOws] using ows
  · decide
  · decide

section Headers
variable {agentId chainId : Nat} {footprint : String}

/-- The header of an identity, with nothing around it. -/
theorem format_shape (presentable : Presentable footprint) :
    Shape (s!"{(agentId : Int)};{(chainId : Int)};{footprint}").toList [] (Nat.toDigits 10 agentId)
      (Nat.toDigits 10 chainId) footprint.toList [] where
  whole := by
    have agent := toList_natCast agentId
    have chain := toList_natCast chainId
    simp only [String.toList_append, agent, chain]
    simp [ToString.toString]
  before := by simp
  first := decimal_toDigits agentId
  second := decimal_toDigits chainId
  footprint := presentable.plain
  after := by simp

theorem rdropWhile_presentable (presentable : Presentable footprint) :
    footprint.toList.rdropWhile isOws = footprint.toList := by
  rw [List.rdropWhile_eq_self_iff]
  intro inhabited ows
  have kept := presentable.bare.last _ (List.getLast?_eq_some_getLast inhabited)
  rw [isSpace_of_isOws ows] at kept
  cases kept

/-- What the formatter writes is read back. -/
theorem parse_format (presentable : Presentable footprint) (agent : prints agentId = true) (chain : prints chainId = true) :
    parse s!"{(agentId : Int)};{(chainId : Int)};{footprint}" = .ok { agentId, chainId, footprint } := by
  have shape : Shape (s!"{(agentId : Int)};{(chainId : Int)};{footprint}").toList [] (Nat.toDigits 10 agentId)
      (Nat.toDigits 10 chainId) footprint.toList [] := format_shape presentable
  have split := shape.fields
  rw [rdropWhile_presentable presentable, String.ofList_toList, ← toList_natCast, ← toList_natCast,
    String.ofList_toList, String.ofList_toList] at split
  have digits (number : Nat) : Python.isDigit (toString (number : Int)) = true := by
    apply python_isDigit
    rw [toList_natCast]
    exact decimal_toDigits number
  have read (header : String) : splitOn (Protocol.stripOws header) ';' = fields header := rfl
  rw [parse, read, split]
  simp only [digits, Bool.and_self, if_true, intOfText_toString agent, intOfText_toString chain]
  rfl

end Headers

theorem format_eq {identity : AgentIdentityHeader} {header : String} (formatted : identity.format = .ok header) :
    prints identity.agentId = true ∧ prints identity.chainId = true ∧
      header = s!"{identity.agentId};{identity.chainId};{identity.footprint}" := by
  rw [AgentIdentityHeader.format] at formatted
  split at formatted
  next both =>
    obtain ⟨agent, chain⟩ := Bool.and_eq_true_iff.mp both
    exact ⟨agent, chain, (Except.ok.inj formatted).symm⟩
  · cases formatted

/-- What was formatted, and what the formatter knew of it. -/
theorem formatIdentity_ok {agentId chainId : Int} {footprint header : String}
    (formatted : formatIdentity agentId chainId footprint = .ok header) :
    parse header = .ok { agentId, chainId, footprint } := by
  unfold formatIdentity at formatted
  split at formatted
  · cases formatted
  next counted =>
    split at formatted
    · cases formatted
    next fine =>
      rw [not_or, not_lt, not_lt] at counted
      simp only [bind_eq_ok, pure_eq_ok] at formatted
      obtain ⟨written, text, _, _, rfl⟩ := formatted
      obtain ⟨agent, chain, rfl⟩ := format_eq text
      obtain ⟨agentId, rfl⟩ := Int.eq_ofNat_of_zero_le counted.1
      obtain ⟨chainId, rfl⟩ := Int.eq_ofNat_of_zero_le counted.2
      exact parse_format ((presentable_iff footprint).mpr fine) agent chain

/-- Numbers that print are refused only for the footprint beside them. -/
theorem formatIdentity_of_printable {agentId chainId : Nat} (agent : prints agentId = true) (chain : prints chainId = true)
    (footprint : String) : (Presentable footprint → ∃ header, formatIdentity agentId chainId footprint = .ok header) ∧
      (¬ Presentable footprint →
        formatIdentity agentId chainId footprint = Protocol.identityError Protocol.reasonFootprint) := by
  have counted : ¬ ((agentId : Int) < 0 ∨ (chainId : Int) < 0) := by omega
  constructor
  · intro presentable
    rw [formatIdentity, if_neg counted, if_neg ((presentable_iff footprint).mp presentable)]
    simp only [AgentIdentityHeader.format, agent, chain, Bool.and_self, if_true, ok_bind,
      parse_format presentable agent chain]
    exact ⟨_, rfl⟩
  · intro refused
    rw [formatIdentity, if_neg counted, if_pos]
    rwa [presentable_iff, not_not] at refused

/-- The formatter and the parser fit: what the one emits the other reads back, two
identities never have one header, and of the numbers that print the formatter refuses
exactly those beside a footprint with a separator in it or space at an end. -/
theorem identity_round_trip :
    (∀ agentId chainId footprint header, formatIdentity agentId chainId footprint = .ok header →
      parse header = .ok { agentId, chainId, footprint }) ∧
    (∀ (first second : AgentIdentityHeader) header,
      formatIdentity first.agentId first.chainId first.footprint = .ok header →
      formatIdentity second.agentId second.chainId second.footprint = .ok header → first = second) ∧
    ∀ agentId chainId : Int, 0 ≤ agentId → 0 ≤ chainId → prints agentId = true → prints chainId = true → ∀ footprint : String,
      (Presentable footprint → ∃ header, formatIdentity agentId chainId footprint = .ok header) ∧
      (¬ Presentable footprint →
        formatIdentity agentId chainId footprint = Protocol.identityError Protocol.reasonFootprint) := by
  refine ⟨fun _ _ _ _ => formatIdentity_ok, ?_, ?_⟩
  · intro first second header one other
    have same := (formatIdentity_ok one).symm.trans (formatIdentity_ok other)
    exact Except.ok.inj same
  · intro agentId chainId agentPositive chainPositive agent chain footprint
    obtain ⟨agentId, rfl⟩ := Int.eq_ofNat_of_zero_le agentPositive
    obtain ⟨chainId, rfl⟩ := Int.eq_ofNat_of_zero_le chainPositive
    exact formatIdentity_of_printable agent chain footprint

theorem identity_read_back : parse "42001;8453;0xAb" = .ok { agentId := 42001, chainId := 8453, footprint := "0xAb" } :=
  identity_round_trip.1 42001 8453 "0xAb" _ (by decide +kernel)

end Xcp.IdentityGrammar
