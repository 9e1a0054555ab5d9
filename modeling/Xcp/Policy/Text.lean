import Xcp.Library.Dumps
import Xcp.Library.Regex
import Xcp.Library.Strip
import Xcp.Library.Loads
import Xcp.Library.Sha256
import Xcp.Policy.Language

/-! The form in which policies are reviewed: one statement on a line, read by
`parse_text` and written by `explain`. -/

namespace Xcp.Language
open Checked Python Eth Sha256 Groups

def policyError {α : Type} (text : String) : Raises α := raise (.package "PolicyError") text

def Reversibility.named : String → Option Reversibility
  | "REVERSIBLE" => some .reversible
  | "RECOVERABLE" => some .recoverable
  | "COSTLY" => some .costly
  | "IRREVERSIBLE" => some .irreversible
  | _ => none

def Reversibility.parse [Host] (text : String) : Raises Reversibility :=
  match named (upper (strip text)) with
  | some found => .ok found
  | none => policyError ("unknown reversibility class " ++ Host.repr (.str text))

/-! ### Statements -/

section Statement
variable [Host]

def isWord (letter : Char) : Bool := Host.isAlnum letter || letter = '_'

/-- `[\w*.-]` -/
def isSubjectLetter (letter : Char) : Bool := isWord letter || ['*', '.', '-'].contains letter

/-- `[\w*:/.-]` -/
def isActionLetter (letter : Char) : Bool := isWord letter || ['*', ':', '/', '.', '-'].contains letter

/-- `\d` -/
def isDecimal (letter : Char) : Bool := (decimal? letter).isSome

/-- `[A-Z]` where case is ignored. -/
def isLatin (letter : Char) : Bool := 97 ≤ (Regex.foldCase letter).toNat && (Regex.foldCase letter).toNat ≤ 122

def spaces : Pattern := .run isSpace 1

def modal : Pattern :=
  .alt (caseless "may not".toList) (.alt (caseless "must not".toList) (.alt (caseless "may".toList) (caseless "must".toList)))

/-- `\s+up\s+to\s+(?P<amt>\d+)\s+(?P<cur>[A-Z]{3,6})` -/
def amountClause : Pattern :=
  inOrder [spaces, caseless "up".toList, spaces, caseless "to".toList, spaces, .group "amt" (.run isDecimal 1), spaces,
    .group "cur" (.run isLatin 3 (some 6))]

/-- `\s+\[(?P<rev>\w+)\]` -/
def classClause : Pattern := inOrder [spaces, literal '[', .group "rev" (.run isWord 1), literal ']']

def statement : Pattern :=
  inOrder [.group "subj" (.run isSubjectLetter 1), spaces, .group "mod" modal, spaces, .group "action" (.run isActionLetter 1),
    maybe amountClause, maybe classClause, .run isSpace 0, .finish]

/-- What a group has matched, or nothing. -/
def groupText (found : Way) (name : String) : String := String.ofList ((found.group name).getD [])

/-- `int(m.group("amt")) if m.group("amt") else None` -/
def readAmount (digits : String) : Raises (Option Int) :=
  if digits = "" then .ok none else some <$> intOfText digits

/-- The rule that a matched line states. -/
def readRule (number : Nat) (line : String) (found : Way) : Raises Rule := do
  let mod := upper (groupText found "mod")
  let reversibility ← Reversibility.parse (orText (groupText found "rev") "reversible")
  let amount ← readAmount (groupText found "amt")
  return {
    id := s!"r{number}"
    subject := groupText found "subj"
    action := groupText found "action"
    effect := if containsText mod "NOT" then Effect.deny else Effect.allow
    reversibility
    maxAmountMinor := amount
    currency := upper (groupText found "cur")
    requiresHuman := mod = "MUST"
    note := line }

/-- A line of the text: what is behind a mark `#` is a remark, and a blank line says nothing. -/
def parseLine (number : Nat) (raw : String) : Raises (Option Rule) :=
  let line := strip (partition raw '#').1
  if line = "" then .ok none
  else match statement.match? line.toList with
  | none => policyError (s!"line {number}: cannot parse " ++ Host.repr (.str line))
  | some found => some <$> readRule number line found

def parseText (text : String) (name : String := "policy") (version : String := "1") : Raises Policy := do
  let lines := (splitlines [] text.toList).zipIdx 1
  let rules ← lines.mapM fun line => parseLine line.2 line.1
  return { name, version, rules := rules.filterMap id }

end Statement

/-! ### Rendering -/

def Rule.toDict (rule : Rule) : Json :=
  .dict [("id", .str rule.id), ("subject", .str rule.subject), ("action", .str rule.action), ("effect", .str rule.effect),
    ("reversibility", .str rule.reversibility.label), ("max_amount_minor", (rule.maxAmountMinor.map Json.int).getD .null),
    ("currency", .str rule.currency), ("min_tier", .str rule.minTier), ("requires_human", .bool rule.requiresHuman),
    ("domains", .list (rule.domains.map Json.str)), ("note", .str rule.note)]

def Policy.digest [Host] (policy : Policy) : String :=
  let document := Json.dict [("name", .str policy.name), ("version", .str policy.version), ("defaultEffect", .str Effect.deny),
    ("rules", .list (policy.rules.map Rule.toDict))]
  "0x" ++ toHex (sha256 (utf8 (document.dumps .compact)))

def Rule.modal (rule : Rule) : String :=
  if rule.effect = Effect.deny then "MUST NOT" else if rule.effectiveRequiresHuman then "MUST" else "MAY"

def Rule.amountText (rule : Rule) : String :=
  match rule.maxAmountMinor with
  | some amount => s!" up to {amount} {rule.currency}"
  | none => ""

def Rule.explain (rule : Rule) : String :=
  s!"{rule.subject} {rule.modal} {rule.action}{rule.amountText} [{rule.reversibility.label}]  # tier >= {rule.effectiveMinTier}"

/-- The policy as statements, for review. An amount with too many digits does not print. -/
def explain [Host] (policy : Policy) : Raises String := do
  require (policy.rules.all (fun rule => rule.maxAmountMinor.all prints) = true) (⟨.valueError,
    "Exceeds the limit (4300 digits) for integer string conversion; use sys.set_int_max_str_digits() to increase the limit"⟩ : Exception)
  return joinWith "\n" ([s!"# {policy.name} v{policy.version}", s!"# digest {policy.digest}", s!"# default: {Effect.deny}", ""] ++
    policy.rules.map Rule.explain)

end Xcp.Language
