import Xcp.Library.PythonText

/-! What programs take from the Ethereum packages: the hash, and the accounts
that sign structured data. -/

namespace Eth
open Python

/-- A message with the types of its fields and the domain it is signed for. -/
structure TypedData where
  domain : String
  primaryType : String
  fields : List (String × String)
  chainId : Json := .int 8453
  message : Json
deriving DecidableEq

inductive Signature where
  | bytes (value : List Nat)
  /-- As it came, to be read by the package. -/
  | given (value : Json)
deriving DecidableEq

class Packages where
  keccak : List Nat → List Nat
  /-- What is signed for a message. -/
  encode : TypedData → Raises (List Nat)
  /-- The address whose key made the signature. -/
  recover : List Nat → Signature → Raises String
  sign : List Nat → String → Raises (List Nat)

/-- Accounts by their keys. -/
class Accounts where
  /-- `Account.from_key(key).address`. -/
  address : String → Raises String

def utf8Letter (letter : Char) : List Nat :=
  let code := letter.toNat
  if code < 0x80 then [code]
  else if code < 0x800 then [0xc0 + code / 64, 0x80 + code % 64]
  else if code < 0x10000 then [0xe0 + code / 4096, 0x80 + code / 64 % 64, 0x80 + code % 64]
  else [0xf0 + code / 262144, 0x80 + code / 4096 % 64, 0x80 + code / 64 % 64, 0x80 + code % 64]

def utf8 (text : String) : List Nat := text.toList.flatMap utf8Letter

variable [Packages]

def digest (data : List Nat) : String := "0x" ++ toHex (Packages.keccak data)

/-- What is signed for `encode_defunct(text=text)`. -/
def encodeDefunct (text : String) : List Nat :=
  Packages.keccak (utf8 ("\x19Ethereum Signed Message:\n" ++ toString (utf8 text).length ++ text))

def digestJson [Host] (value : Json) : String := digest (utf8 value.canonical)

end Eth
