import Xcp.Library.JavaScript
import Xcp.Protocol.Identity

/-! The wire primitives in the TypeScript SDK. What throws an error has its message
for a result. -/

namespace Xcp.TypeScript
open JavaScript
open Python (Double joinWith partition quote splitOn stripBy)
open Protocol (AgentIdentityHeader)

/-! ### The identity header -/

def ows : List Char := [' ', '\t']

def stripOws (value : String) : String := String.ofList (stripBy ows.contains value.toList)

def reasonMalformed : String := "missing or malformed XCP-Agent-Identity"

def reasonNonCanonical : String := "identity fields must be canonical decimal integers"

def isCanonicalDecimal (text : String) : Bool :=
  text ≠ "" && text.toList.all (fun letter => 0x30 ≤ letter.toNat && letter.toNat ≤ 0x39)

/-- Refusals are values with a reason; only `BigInt` could throw. -/
def parseAgentIdentity (header : String) : Option (Except String AgentIdentityHeader) :=
  match splitOn (stripOws header) ';' with
  | [first, second, footprint] =>
    if isCanonicalDecimal first && isCanonicalDecimal second then do
      let agentId ← bigInt? first
      let chainId ← bigInt? second
      return .ok { agentId, chainId, footprint }
    else some (.error reasonNonCanonical)
  | _ => some (.error reasonMalformed)

/-! ### Scopes -/

def scopeFor (mcpMethod mcpName : String) : String :=
  let method := trim mcpMethod
  let name := trim mcpName
  if method = "" then "mcp:unknown/"
  else
    let (family, _, verb) := partition method '/'
    if method = "tools/call" ∧ name ≠ "" then "mcp:tools/" ++ name
    else if method = "prompts/get" ∧ name ≠ "" then "mcp:prompts/" ++ name
    else if ["tools", "resources", "prompts", "completion", "tasks"].contains family then
      "mcp:" ++ family ++ "/" ++ (if verb = "" then "unknown" else verb)
    else "mcp:" ++ (if family = "" then "unknown" else family) ++ "/" ++ (if verb = "" then "unknown" else verb)

/-! ### Tiers -/

def isLeg (letter : Char) : Bool := 0x30 ≤ letter.toNat && letter.toNat ≤ 0x32

/-- What the pattern `^a([0-2])xh([0-2])$` finds. -/
def cell? (raw : String) : Option (Char × Char) :=
  match raw.toList with
  | ['a', agent, 'x', 'h', human] => if isLeg agent && isLeg human then some (agent, human) else none
  | _ => none

section Tiers
variable [Unicode]

def canonicalTier (cell : String) : Except String String :=
  match cell? (Unicode.toLowerCase (trim cell)) with
  | some (agent, human) => .ok ("A" ++ String.singleton agent ++ "xH" ++ String.singleton human)
  | none => .error ("not a lattice cell: " ++ quote cell)

/-- `Number(letter)` of a digit. -/
def leg (letter : Char) : Nat := (digit? 10 letter).getD 0

def parseTier (cell : String) : Except String (Nat × Nat) := do
  let canonical ← canonicalTier cell
  return (leg (canonical.toList.getD 1 ' '), leg (canonical.toList.getD 4 ' '))

omit [Unicode] in
def formatTier (agent human : Nat) : String := "A" ++ toString agent ++ "xH" ++ toString human

/-- The weaker of two cells, leg by leg. -/
def narrowTier (asserted ceiling : String) : Except String String := do
  let first ← parseTier asserted
  let second ← parseTier ceiling
  return formatTier (min first.1 second.1) (min first.2 second.2)

def widens (asserted effective : String) : Except String Bool := do
  let first ← parseTier asserted
  let second ← parseTier effective
  return first.1 < second.1 || first.2 < second.2

end Tiers

/-! ### Versions -/

def supported : List String := ["0.1", "0.2"]

def current : String := "0.2"

def minimum : String := "0.1"

def parseAccept (header : String) : List String := ((splitOn header ',').map trim).filter (· ≠ "")

section Versions
variable [Engine]

def versionKey (version : String) : List Double :=
  (splitOn ((splitOn (trim version) '-').headD "") '.').map numberOfText

/-- The difference at the first place where two versions differ; a place that a key
lacks counts as zero. -/
def compareVersions (first second : String) : Double :=
  let place (key : List Double) (index : Nat) := key.getD index (.finite 0)
  let a := versionKey first
  let b := versionKey second
  match (List.range (max a.length b.length)).find? (fun index => !strictlyEqual (place a index) (place b index)) with
  | some index => subtract (place a index) (place b index)
  | none => .finite 0

structure Negotiated where
  version : String
  downgraded : Bool
deriving DecidableEq, Repr

/-- The highest version that both sides accept. A caller that says nothing gets the
oldest one. -/
def negotiate (clientAccepts : List String) : Except String Negotiated :=
  let accepts := clientAccepts.filter (· ≠ "")
  let common :=
    if accepts = [] then if supported.contains minimum then [minimum] else supported.take 1
    else accepts.filter supported.contains
  match common with
  | [] =>
    .error ("no common protocol version: caller accepts " ++ stringify (sortTexts accepts) ++
      ", this implementation supports " ++ stringify (sortTexts supported))
  | first :: rest =>
    let chosen := rest.foldl (fun a b => if (Double.finite 0).le (compareVersions a b) then a else b) first
    .ok { version := chosen, downgraded := (compareVersions chosen current).lt (.finite 0) }

end Versions

end Xcp.TypeScript
