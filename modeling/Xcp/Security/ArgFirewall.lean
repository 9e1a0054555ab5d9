import Xcp.Library.Regex
import Xcp.Library.Url

/-! The argument firewall: whether the arguments of a tool call are safe, given
what is expected of each. -/

namespace Xcp.ArgFirewall
open Python Regex

inductive Severity where
  | ok | warn | block
deriving DecidableEq, Repr

structure Finding where
  severity : Severity
  rule : String
  detail : String
deriving DecidableEq, Repr

structure Verdict where
  allowed : Bool
  findings : List Finding := []
deriving DecidableEq, Repr

namespace Verdict

def blocked (verdict : Verdict) : Bool := !verdict.allowed

def reason (verdict : Verdict) : String :=
  let blocks := verdict.findings.filter (·.severity = .block)
  let told := joinWith "; " (blocks.map (fun finding => s!"{finding.rule}: {finding.detail}"))
  if told = "" then "ok" else told

end Verdict

/-! ### Threat signatures -/

def shellMeta : Pattern :=
  anyOf (oneOf ";&|`$><\n\r") [literal "$(", literal "||", literal "&&", literal ">>", literal "<<"]

def space : Pattern := .letter isSpace

def someSpace : Pattern := .seq space (.many space)

def word (text : String) : Pattern := sequence [.boundary, caseless text, .boundary]

def injectHints : Pattern :=
  anyOf
    (sequence
      [.boundary,
       anyOf (caseless "rm") (["curl", "wget", "nc", "bash", "sh", "python", "perl", "eval", "exec"].map caseless),
       .boundary, space])
    [caseless "/etc/passwd", literal "../", caseless "%2e%2e", sequence [word "union", someSpace, word "select"],
     .seq (literal "--") space, sequence [literal ";", .many space, caseless "drop", .boundary]]

def template : Pattern :=
  anyOf (sequence [literal "\x7b\x7b", anyLine, literal "\x7d\x7d"])
    [sequence [literal "$\x7b", anyLine, literal "\x7d"], sequence [literal "<%", anyLine, literal "%>"]]

def ssrfHosts : List String :=
  ["localhost", "metadata", "metadata.google.internal", "169.254.169.254", "kubernetes.default", "kubernetes.default.svc"]

def isInternalIp (host : String) : Bool :=
  match Ip.address? host with
  | some address =>
    address.isPrivate || address.isLoopback || address.isLinkLocal || address.isReserved || address.isMulticast
  | none => false

/-! ### Schema validation -/

inductive ArgType where
  | str | int | float | bool | list | url | path | enum
deriving DecidableEq, Repr

structure ArgSpec where
  type : ArgType
  required : Bool := true
  maxLength : Nat := 4096
  /-- What a string has to match from end to end. -/
  pattern : Option Pattern := none
  choices : Option (List Json) := none
  itemType : Option ArgType := none

def block (rule detail : String) : Finding := { severity := .block, rule, detail }

/-- What the type of a value is found to be instead. -/
def typeFinding (name : String) (value : Json) : ArgType → Option Finding
  | .str | .url | .path | .enum =>
    match value with
    | .str _ => none
    | _ => some (block "type" s!"'{name}' must be a string")
  | .int =>
    match value with
    | .int _ | .bool _ => none
    | _ => some (block "type" s!"'{name}' must be an int")
  | .float =>
    match value with
    | .int _ | .bool _ | .float _ => none
    | _ => some (block "type" s!"'{name}' must be a number")
  | .bool =>
    match value with
    | .bool _ => none
    | _ => some (block "type" s!"'{name}' must be a bool")
  | .list =>
    match value with
    | .list _ => none
    | _ => some (block "type" s!"'{name}' must be a list")

def findIf (condition : Bool) (finding : Finding) : List Finding := if condition then [finding] else []

section Scanning
variable [Host]

def isWord (letter : Char) : Bool := Host.isAlnum letter || letter = '_'

def hits (pattern : Pattern) (text : String) : Bool := pattern.search isWord text

def fullMatch (pattern : Pattern) (text : String) : Bool :=
  (pattern.ends isWord { before := none, rest := text.toList }).any (·.rest.isEmpty)

def scanUrl (name value : String) : List Finding :=
  match urlparse value with
  | .error _ => [block "url" s!"'{name}' is not a valid URL"]
  | .ok url =>
    let host := lower url.hostname
    findIf (url.scheme ≠ "http" && url.scheme ≠ "https") (block "url_scheme" s!"'{name}' scheme '{url.scheme}' not allowed") ++
      findIf (ssrfHosts.contains host || isInternalIp host) (block "ssrf" s!"'{name}' targets an internal/metadata host")

def scanString (name value : String) (type : ArgType) : List Finding :=
  if type = .url then scanUrl name value
  else
    findIf (type = .path && (containsText value ".." || startsWith value "/" || startsWith value "~"))
        (block "path_traversal" s!"'{name}' looks like an absolute/traversal path") ++
      findIf (hits shellMeta value) (block "shell_meta" s!"'{name}' contains shell metacharacters") ++
      findIf (hits injectHints value) (block "injection" s!"'{name}' matches a command-injection signature") ++
      findIf (hits template value)
        { severity := .warn, rule := "template", detail := s!"'{name}' contains template/expression syntax" }

def checkText (name value : String) (spec : ArgSpec) : List Finding :=
  findIf (spec.maxLength < value.length) (block "length" s!"'{name}' exceeds {spec.maxLength} chars") ++
    findIf (spec.pattern.any (fun pattern => !fullMatch pattern value))
      (block "pattern" s!"'{name}' does not match required pattern") ++
    scanString name value spec.type

/-- A field whose value is no list with an item type. -/
def checkScalar (name : String) (value : Json) (spec : ArgSpec) : List Finding :=
  match typeFinding name value spec.type with
  | some finding => [finding]
  | none =>
    (match value with
      | .str text => checkText name text spec
      | _ => []) ++
      findIf (spec.type = .enum && spec.choices.any (fun choices => !choices.any value.same))
        (block "enum" s!"'{name}' not in allowed choices")

def checkItems (name : String) (type : ArgType) : Nat → List Json → List Finding
  | _, [] => []
  | i, item :: rest => checkScalar s!"{name}[{i}]" item { type } ++ checkItems name type (i + 1) rest

def checkField (name : String) (value : Json) (spec : ArgSpec) : List Finding :=
  checkScalar name value spec ++
    match spec.type, spec.itemType, value with
    | .list, some type, .list items => checkItems name type 0 items
    | _, _, _ => []

/-- The names that the schema expects, in order. -/
abbrev Schema := List (String × ArgSpec)

def checkMember (args : List (String × Json)) (entry : String × ArgSpec) : List Finding :=
  match Json.find? args entry.1 with
  | some value => checkField entry.1 value entry.2
  | none => findIf entry.2.required (block "missing_arg" s!"required argument '{entry.1}' absent")

/-- Unexpected names first, then each field of the schema. -/
def check (schema : Schema) (blockOnWarn : Bool) (args : List (String × Json)) : Verdict :=
  let unknown := args.filter (fun member => !(schema.map Prod.fst).contains member.1)
  let findings := unknown.map (fun member => block "unknown_arg" s!"argument '{member.1}' is not in the schema") ++
    schema.flatMap (checkMember args)
  { allowed := !findings.any (·.severity = .block) && !(blockOnWarn && findings.any (·.severity = .warn)), findings }

end Scanning

/-! ### Inferred schemas -/

/-- A type for a value, when none is registered. -/
def inferSpec : Json → ArgSpec
  | .str text =>
    if startsWith text "http://" || startsWith text "https://" || containsText text "://" then
      { type := .url, required := false }
    else { type := .str, required := false, maxLength := 100000 }
  | .bool _ => { type := .bool, required := false }
  | .int _ => { type := .int, required := false }
  | .float _ => { type := .float, required := false }
  | .list _ => { type := .list, required := false }
  | .null | .dict _ => { type := .str, required := false, maxLength := 100000 }

def inferArgspec (args : List (String × Json)) : Schema := args.map (fun member => (member.1, inferSpec member.2))

section Tests
local instance : Host := asciiHost []

example : hits injectHints "select 1 UNION  Select x" = true := by decide
example : hits injectHints "reunion selected" = false := by decide

end Tests

end Xcp.ArgFirewall
