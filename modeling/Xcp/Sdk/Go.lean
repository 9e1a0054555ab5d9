import Xcp.Library.Digits
import Xcp.Protocol.Identity

/-! The wire primitives in the Go SDK. -/

namespace Xcp.GoSdk
open Go
open Python (partition splitOn stripBy)
open Protocol (AgentIdentityHeader)

/-! ### The identity header -/

/-- Surrounding spaces and tabs, and nothing else. -/
def stripOws (text : String) : String :=
  String.ofList (stripBy (fun letter => letter = ' ' || letter = '\t') text.toList)

def reasonMalformed : String := "missing or malformed XCP-Agent-Identity"

def reasonNonCanonical : String := "identity fields must be canonical decimal integers"

def isCanonicalDecimal (text : String) : Bool :=
  text ≠ "" && text.toList.all (fun letter => '0'.toNat ≤ letter.toNat && letter.toNat ≤ '9'.toNat)

def parseAgentIdentity (header : String) : Except String AgentIdentityHeader :=
  match splitOn (stripOws header) ';' with
  | [first, second, footprint] =>
    if isCanonicalDecimal first && isCanonicalDecimal second then
      match setString first with
      | none => .error reasonNonCanonical
      | some agentId =>
        match setString second with
        | none => .error reasonNonCanonical
        | some chainId => .ok { agentId, chainId, footprint }
    else .error reasonNonCanonical
  | _ => .error reasonMalformed

/-! ### Scopes -/

def scopeFor (mcpMethod mcpName : String) : String :=
  let method := trimSpace mcpMethod
  let name := trimSpace mcpName
  if method = "" then "mcp:unknown/"
  else
    let (family, _, verb) := partition method '/'
    if method = "tools/call" ∧ name ≠ "" then "mcp:tools/" ++ name
    else if method = "prompts/get" ∧ name ≠ "" then "mcp:prompts/" ++ name
    else if ["tools", "resources", "prompts", "completion", "tasks"].contains family then
      "mcp:" ++ family ++ "/" ++ (if verb = "" then "unknown" else verb)
    else "mcp:" ++ (if family = "" then "unknown" else family) ++ "/" ++ (if verb = "" then "unknown" else verb)

/-! ### Tiers -/

section Tiers
variable [Unicode]

def isLeg (letter : Char) : Bool := '0'.toNat ≤ letter.toNat && letter.toNat ≤ '2'.toNat

/-- What the pattern `^a([0-2])xh([0-2])$` finds. -/
def cell? (text : String) : Option (Char × Char) :=
  match text.toList with
  | ['a', agent, 'x', 'h', human] => if isLeg agent && isLeg human then some (agent, human) else none
  | _ => none

def canonicalTier (cell : String) : Except String String :=
  match cell? (Unicode.toLower (trimSpace cell)) with
  | some (agent, human) => .ok ("A" ++ String.singleton agent ++ "xH" ++ String.singleton human)
  | none => .error ("not a lattice cell: " ++ Unicode.quote cell)

def parseTier (cell : String) : Except String (Int × Int) := do
  let canonical ← canonicalTier cell
  let leg (letter : Char) : Int := letter.toNat - '0'.toNat
  return (leg (canonical.toList.getD 1 ' '), leg (canonical.toList.getD 4 ' '))

def formatTier (agent human : Int) : String := "A" ++ toString agent ++ "xH" ++ toString human

/-- The weaker of two cells, leg by leg. -/
def narrowTier (asserted ceiling : String) : Except String String := do
  let first ← parseTier asserted
  let second ← parseTier ceiling
  return formatTier (min first.1 second.1) (min first.2 second.2)

/-- A cell that cannot be parsed widens nothing, and nothing widens it. -/
def widens (asserted effective : String) : Bool :=
  match parseTier asserted, parseTier effective with
  | .ok first, .ok second => first.1 < second.1 || first.2 < second.2
  | _, _ => false

end Tiers

end Xcp.GoSdk
