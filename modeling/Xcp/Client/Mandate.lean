import Xcp.Library.Dumps
import Xcp.Library.Ideal

/-! Mandates as the sponsor's client builds and signs them. -/

namespace Xcp.Client
open Checked Python Eth PrefixCode

structure Mandate where
  mandateId : String
  delegator : String
  scope : List String
  notAfter : Int
deriving DecidableEq, Repr

/-- What is signed of a mandate; its scopes are signed as one text. -/
def typed [Host] (chainId mandateId delegator scope : Json) (notAfter : Int) : TypedData where
  domain := "ERC8004x"
  primaryType := "Mandate"
  fields := [("mandateId", "string"), ("delegator", "string"), ("scope", "string"), ("notAfter", "uint64")]
  chainId := chainId
  message := .dict [("mandateId", mandateId), ("delegator", delegator), ("scope", .str (scope.dumps {})),
    ("notAfter", .int notAfter)]

namespace Mandate

def scopes (mandate : Mandate) : Json := .list (mandate.scope.map Json.str)

def fields (mandate : Mandate) : Json :=
  .dict [("mandateId", .str mandate.mandateId), ("delegator", .str mandate.delegator), ("scope", mandate.scopes),
    ("notAfter", .int mandate.notAfter)]

variable [Host]

def canonical (mandate : Mandate) : String := mandate.fields.dumps .compact

def leafBytes [Packages] (mandate : Mandate) : List Nat := Packages.keccak (utf8 mandate.canonical)

def leaf [Packages] (mandate : Mandate) : String := digest (utf8 mandate.canonical)

/-- The presentation of a mandate, with a path to the root of its tree. -/
def toHeader [Packages] (mandate : Mandate) (proof : List String) (signature : String) : Json :=
  .dict [("mandateId", .str mandate.mandateId), ("delegator", .str mandate.delegator), ("mandateScope", mandate.scopes),
    ("notAfter", .int mandate.notAfter), ("leaf", .str mandate.leaf), ("proof", .list (proof.map Json.str)),
    ("signature", .str signature)]

theorem canonical_letters (mandate : Mandate) :
    mandate.canonical.toList = "\x7b\"delegator\":".toList ++ (quoteAscii mandate.delegator).toList ++
      ",\"mandateId\":".toList ++ (quoteAscii mandate.mandateId).toList ++ ",\"notAfter\":".toList ++
      (Json.int mandate.notAfter).letters ++ ",\"scope\":".toList ++ (mandate.scopes.dumps .compact).toList ++
      "\x7d".toList := by
  have names : quoteAscii "delegator" = "\"delegator\"" ∧ quoteAscii "mandateId" = "\"mandateId\"" ∧
      quoteAscii "notAfter" = "\"notAfter\"" ∧ quoteAscii "scope" = "\"scope\"" := by decide
  have order : ¬ "notAfter" ≤ "delegator" ∧ ¬ "notAfter" ≤ "mandateId" ∧ ¬ "mandateId" ≤ "delegator" ∧
      "delegator" ≤ "notAfter" ∧ ¬ "scope" ≤ "notAfter" ∧ "mandateId" ≤ "notAfter" := by decide
  simp [canonical, fields, Json.dumps, dumpsMembers, DumpStyle.compact, joinWith, names, order, Json.letters, Json.canonical]

theorem canonical_inj {first second : Mandate} (same : first.canonical = second.canonical) : first = second := by
  have letters := congrArg String.toList same
  simp only [canonical_letters, List.append_assoc] at letters
  simp only [String.reduceToList, List.cons_append, List.nil_append, List.cons.injEq, true_and] at letters
  obtain ⟨delegators, letters⟩ := quoteAscii_inj letters
  simp only [List.cons.injEq, true_and] at letters
  obtain ⟨names, letters⟩ := quoteAscii_inj letters
  simp only [List.cons.injEq, true_and] at letters
  have digits (number : Int) : ∀ letter ∈ (Json.int number).letters, decide (letter = ',') = false := by
    intro letter member
    rcases int_letters number letter member with digit | rfl
    · by_contra comma
      rw [Bool.not_eq_false, decide_eq_true_eq] at comma
      rw [comma] at digit
      cases digit
    · decide
  have comma (rest : List Char) : Bounded (fun letter => decide (letter = ',')) (',' :: rest) := by simp [Bounded]
  obtain ⟨numbers, letters⟩ := word_inj (digits _) (digits _) (comma _) (comma _) letters
  have times := Int.repr_inj.mp (String.toList_inj.mp numbers)
  simp only [List.cons.injEq, true_and] at letters
  obtain ⟨scopes, _⟩ := dumps_texts_inj letters
  cases first
  cases second
  simp_all

end Mandate

end Xcp.Client
