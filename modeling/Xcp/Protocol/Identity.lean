import Xcp.Library.Loads

/-! The one parser for the XCP-Agent-Identity header. -/

namespace Xcp.Protocol
open Checked Python

/-- Surrounding space and horizontal tab, and nothing else, is no part of a header. -/
def stripOws (value : String) : String :=
  String.ofList (stripBy (fun letter => letter = ' ' ∨ letter = '\t') value.toList)

structure AgentIdentityHeader where
  agentId : Int
  chainId : Int
  footprint : String
deriving DecidableEq, Repr

def reasonMalformed : String := "missing or malformed XCP-Agent-Identity"

def reasonNonCanonical : String := "identity fields must be canonical decimal integers"

/-- Refusals are values with a reason. A digit that is no decimal digit passes
`isdigit` and makes `int` raise. -/
def tryParse (header : String) : Raises (Except String AgentIdentityHeader) :=
  match splitOn (stripOws header) ';' with
  | [first, second, footprint] =>
    if isDigit first && isDigit second then do
      let agentId ← intOfText first
      let chainId ← intOfText second
      return .ok { agentId, chainId, footprint }
    else .ok (.error reasonNonCanonical)
  | _ => .ok (.error reasonMalformed)

/-- `IdentityError`, a kind of `ValueError` of its own. -/
def identityError {α : Type} (reason : String) : Raises α := raise (.package "IdentityError") reason

/-- The raising form, of which `tryParse` makes the refusals values. -/
def parse (header : String) : Raises AgentIdentityHeader :=
  match splitOn (stripOws header) ';' with
  | [first, second, footprint] =>
    if isDigit first && isDigit second then do
      let agentId ← intOfText first
      let chainId ← intOfText second
      return { agentId, chainId, footprint }
    else identityError reasonNonCanonical
  | _ => identityError reasonMalformed

theorem tryParse_eq (header : String) : tryParse header =
    match parse header with
    | .ok identity => .ok (.ok identity)
    | .error exception =>
      if exception.kind = .package "IdentityError" then .ok (.error exception.text) else .error exception := by
  unfold tryParse parse
  split
  next first second footprint _ =>
    split
    · unfold intOfText
      cases parseInt? first <;> cases parseInt? second <;> rfl
    · rfl
  · rfl

/-- The canonical form. A number that has too many digits does not print. -/
def AgentIdentityHeader.format (identity : AgentIdentityHeader) : Raises String :=
  if prints identity.agentId && prints identity.chainId then
    .ok s!"{identity.agentId};{identity.chainId};{identity.footprint}"
  else raise .valueError ("Exceeds the limit (4300 digits) for integer string conversion; " ++
    "use sys.set_int_max_str_digits() to increase the limit")

def reasonFootprint : String :=
  "footprint may not contain the field separator or surrounding " ++
    "whitespace; it is compared byte-for-byte against a binding"

/-- The formatter is held to the rules of the parser, and to stricter ones on space:
it emits nothing that any host would strip. -/
def formatIdentity (agentId chainId : Int) (footprint : String) : Raises String :=
  if agentId < 0 ∨ chainId < 0 then identityError reasonNonCanonical
  else if ';' ∈ footprint.toList ∨ strip footprint ≠ footprint then identityError reasonFootprint
  else do
    let header ← AgentIdentityHeader.format { agentId, chainId, footprint }
    let _ ← parse header
    return header

example : tryParse " 42001;8453;0xAb\t" = .ok (.ok ⟨42001, 8453, "0xAb"⟩) := by decide

end Xcp.Protocol
