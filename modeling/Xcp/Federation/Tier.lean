import Xcp.Library.PythonText

/-! Cells of the trust lattice, written "A2xH1": what backs the agent and what
backs the human. -/

namespace Xcp.Delegation
open Checked Python

/-- An error of this package, with the text it is shown with. -/
def delegationError {α : Type} (text : String) : Raises α := raise (.package "DelegationError") text

structure Tier where
  agent : Int
  human : Int
deriving DecidableEq, Repr

variable [Host]

/-- Strict: a tier that cannot be parsed is not a tier. -/
def parseTier (cell : String) : Raises Tier :=
  match (upper (strip cell)).toList with
  | ['A', agent, 'X', 'H', human] =>
    if isDigit (String.singleton agent) && isDigit (String.singleton human) then do
      let agent ← intOfText (String.singleton agent)
      let human ← intOfText (String.singleton human)
      if 0 ≤ agent ∧ agent ≤ 2 ∧ 0 ≤ human ∧ human ≤ 2 then return { agent, human }
      else delegationError s!"lattice cell out of range: '{cell}'"
    else delegationError s!"not a lattice cell: '{cell}'"
  | _ => delegationError s!"not a lattice cell: '{cell}'"

def formatTier (tier : Tier) : String := "A" ++ toString tier.agent ++ "xH" ++ toString tier.human

/-- The weaker of two cells, leg by leg. -/
def narrowTier (asserted ceiling : String) : Raises String := do
  let first ← parseTier asserted
  let second ← parseTier ceiling
  return formatTier { agent := min first.agent second.agent, human := min first.human second.human }

def canonicalTier (cell : String) : Raises String := do
  let tier ← parseTier cell
  return formatTier tier

def widens (asserted effective : String) : Raises Bool := do
  let first ← parseTier asserted
  let second ← parseTier effective
  return second.agent > first.agent || second.human > first.human

end Xcp.Delegation
