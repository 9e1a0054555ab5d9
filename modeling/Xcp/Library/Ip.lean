import Mathlib.Data.List.Basic
import Xcp.Library.PythonText

/-! Internet addresses as Python's `ipaddress` reads and classifies them. -/

namespace Ip
open Python

inductive Address where
  | v4 (value : Nat)
  | v6 (value : Nat)
deriving DecidableEq, Repr

/-! ### Reading -/

def octet? (text : String) : Option Nat := do
  let letters := text.toList
  guard (letters ≠ [] ∧ letters.length ≤ 3 ∧ letters.all (fun letter => 48 ≤ letter.toNat && letter.toNat ≤ 57))
  guard (text = "0" ∨ letters.head? ≠ some '0')
  let value := ofDigits (letters.map (fun letter => letter.toNat - 48))
  guard (value ≤ 255)
  return value

def v4? (text : String) : Option Nat := do
  match splitOn text '.' with
  | [first, second, third, fourth] =>
    let first ← octet? first
    let second ← octet? second
    let third ← octet? third
    let fourth ← octet? fourth
    return ((first * 256 + second) * 256 + third) * 256 + fourth
  | _ => none

def hextet? (text : String) : Option Nat := do
  guard (text ≠ "" ∧ text.toList.length ≤ 4)
  let digits ← text.toList.mapM hexValue?
  return digits.foldl (fun total digit => 16 * total + digit) 0

def ofHextets (hextets : List Nat) : Nat := hextets.foldl (fun total hextet => 65536 * total + hextet) 0

/-- The hextets of an address, the last two of which may be written as an IPv4
address. -/
def spellHextets (parts : List String) : Option (List String) :=
  match parts.reverse with
  | last :: before =>
    if contains last '.' then do
      let value ← v4? last
      let high := toHex [value / 16777216, value / 65536 % 256]
      let low := toHex [value / 256 % 256, value % 256]
      return before.reverse ++ [high, low]
    else some parts
  | [] => some parts

/-- The places other than the ends at which nothing stands between two colons. -/
def skips (parts : List String) : List Nat :=
  (List.range parts.length).filter (fun i => 0 < i && i + 1 < parts.length && parts[i]? = some "")

/-- The half of an address before or after a run of zeros. The end of it that is
away from the run may be empty only when nothing else is in it. -/
def half? (parts : List String) (outer : Option String) : Option (List Nat) :=
  if outer = some "" then if parts.length = 1 then some [] else none
  else parts.mapM hextet?

def v6? (text : String) : Option Nat := do
  let (address, zoned, scope) := partition text '%'
  guard (zoned = true → scope ≠ "" ∧ contains scope '%' = false)
  let parts := splitOn address ':'
  guard (3 ≤ parts.length)
  let parts ← spellHextets parts
  guard (parts.length ≤ 9)
  match skips parts with
  | [] =>
    guard (parts.length = 8)
    let hextets ← parts.mapM hextet?
    return ofHextets hextets
  | [skip] =>
    let high ← half? (parts.take skip) parts.head?
    let low ← half? (parts.drop (skip + 1)) parts.getLast?
    guard (high.length + low.length < 8)
    return ofHextets (high ++ List.replicate (8 - (high.length + low.length)) 0 ++ low)
  | _ => none

/-- `ipaddress.ip_address(text)`. -/
def address? (text : String) : Option Address :=
  if contains text '/' then none
  else (Address.v4 <$> v4? text).orElse (fun _ => Address.v6 <$> v6? text)

/-! ### Networks -/

structure Network where
  base : Address
  bits : Nat
deriving DecidableEq, Repr

def agree (width bits first second : Nat) : Bool := first >>> (width - bits) = second >>> (width - bits)

def Network.contains (network : Network) : Address → Bool
  | .v4 value =>
    match network.base with
    | .v4 base => agree 32 network.bits value base
    | .v6 _ => false
  | .v6 value =>
    match network.base with
    | .v4 _ => false
    | .v6 base => agree 128 network.bits value base

def net4 (first second third fourth bits : Nat) : Network where
  base := .v4 (((first * 256 + second) * 256 + third) * 256 + fourth)
  bits := bits

def net6 (hextets : List Nat) (bits : Nat) : Network where
  base := .v6 (ofHextets (hextets ++ List.replicate (8 - hextets.length) 0))
  bits := bits

def Address.among (address : Address) (networks : List Network) : Bool := networks.any (·.contains address)

def private4 : List Network :=
  [net4 0 0 0 0 8, net4 10 0 0 0 8, net4 127 0 0 0 8, net4 169 254 0 0 16, net4 172 16 0 0 12, net4 192 0 0 0 24,
   net4 192 0 0 170 31, net4 192 0 2 0 24, net4 192 168 0 0 16, net4 198 18 0 0 15, net4 198 51 100 0 24,
   net4 203 0 113 0 24, net4 240 0 0 0 4, net4 255 255 255 255 32]

def notPrivate4 : List Network := [net4 192 0 0 9 32, net4 192 0 0 10 32]

def private6 : List Network :=
  [net6 [0, 0, 0, 0, 0, 0, 0, 1] 128, net6 [] 128, net6 [0, 0, 0, 0, 0, 0xffff] 96, net6 [0x64, 0xff9b, 1] 48,
   net6 [0x100] 64, net6 [0x2001] 23, net6 [0x2001, 0xdb8] 32, net6 [0x2002] 16, net6 [0xfc00] 7, net6 [0xfe80] 10]

def notPrivate6 : List Network :=
  [net6 [0x2001, 1, 0, 0, 0, 0, 0, 1] 128, net6 [0x2001, 1, 0, 0, 0, 0, 0, 2] 128, net6 [0x2001, 3] 32,
   net6 [0x2001, 4, 0x112] 48, net6 [0x2001, 0x20] 28, net6 [0x2001, 0x30] 28]

def reserved6 : List Network :=
  [net6 [] 8, net6 [0x100] 8, net6 [0x200] 7, net6 [0x400] 6, net6 [0x800] 5, net6 [0x1000] 4, net6 [0x4000] 3,
   net6 [0x6000] 3, net6 [0x8000] 3, net6 [0xa000] 3, net6 [0xc000] 3, net6 [0xe000] 4, net6 [0xf000] 5,
   net6 [0xf800] 6, net6 [0xfe00] 9]

namespace Address

/-- An IPv4 address that is mapped into IPv6 is private where the IPv4 address is. -/
def isPrivate : Address → Bool
  | .v4 value => (v4 value).among private4 && !(v4 value).among notPrivate4
  | .v6 value =>
    if value >>> 32 = 0xffff then
      let mapped := v4 (value % 4294967296)
      mapped.among private4 && !mapped.among notPrivate4
    else (v6 value).among private6 && !(v6 value).among notPrivate6

def isLoopback : Address → Bool
  | .v4 value => (v4 value).among [net4 127 0 0 0 8]
  | .v6 value => value = 1

def isLinkLocal (address : Address) : Bool := address.among [net4 169 254 0 0 16, net6 [0xfe80] 10]

def isMulticast (address : Address) : Bool := address.among [net4 224 0 0 0 4, net6 [0xff00] 8]

def isReserved (address : Address) : Bool := address.among (net4 240 0 0 0 4 :: reserved6)

def isUnspecified : Address → Bool
  | .v4 value => value = 0
  | .v6 value => value = 0

end Address

example : address? "2001:db8::10.0.0.1" = some (.v6 0x20010db800000000000000000a000001) := by decide

end Ip
