import Mathlib.Algebra.Group.Nat.Defs
import Mathlib.Logic.Function.Iterate

/-! The hash function SHA-256, on bytes. -/

namespace Sha256

abbrev Word := BitVec 32

def initial : List Word :=
  [0x6a09e667, 0xbb67ae85, 0x3c6ef372, 0xa54ff53a, 0x510e527f, 0x9b05688c, 0x1f83d9ab, 0x5be0cd19]

def constants : List Word :=
  [0x428a2f98, 0x71374491, 0xb5c0fbcf, 0xe9b5dba5, 0x3956c25b, 0x59f111f1, 0x923f82a4, 0xab1c5ed5,
   0xd807aa98, 0x12835b01, 0x243185be, 0x550c7dc3, 0x72be5d74, 0x80deb1fe, 0x9bdc06a7, 0xc19bf174,
   0xe49b69c1, 0xefbe4786, 0x0fc19dc6, 0x240ca1cc, 0x2de92c6f, 0x4a7484aa, 0x5cb0a9dc, 0x76f988da,
   0x983e5152, 0xa831c66d, 0xb00327c8, 0xbf597fc7, 0xc6e00bf3, 0xd5a79147, 0x06ca6351, 0x14292967,
   0x27b70a85, 0x2e1b2138, 0x4d2c6dfc, 0x53380d13, 0x650a7354, 0x766a0abb, 0x81c2c92e, 0x92722c85,
   0xa2bfe8a1, 0xa81a664b, 0xc24b8b70, 0xc76c51a3, 0xd192e819, 0xd6990624, 0xf40e3585, 0x106aa070,
   0x19a4c116, 0x1e376c08, 0x2748774c, 0x34b0bcb5, 0x391c0cb3, 0x4ed8aa4a, 0x5b9cca4f, 0x682e6ff3,
   0x748f82ee, 0x78a5636f, 0x84c87814, 0x8cc70208, 0x90befffa, 0xa4506ceb, 0xbef9a3f7, 0xc67178f2]

/-- The bytes of a number, the highest first. -/
def toBytes (count number : Nat) : List Nat :=
  (List.range count).map (fun place => number / 256 ^ (count - 1 - place) % 256)

def toWords : List Nat → List Word
  | first :: second :: third :: fourth :: rest =>
    BitVec.ofNat 32 (((first * 256 + second) * 256 + third) * 256 + fourth) :: toWords rest
  | _ => []

/-- A message is followed by a one, by zeros, and by the number of its bits. -/
def pad (message : List Nat) : List Nat :=
  message ++ 0x80 :: (List.replicate ((119 - message.length % 64) % 64) 0 ++ toBytes 8 (8 * message.length))

/-- One more word of the schedule, of which the latest is first. -/
def extend (latest : List Word) : List Word :=
  let word (back : Nat) : Word := latest.getD (back - 1) 0
  let early := (word 15).rotateRight 7 ^^^ (word 15).rotateRight 18 ^^^ (word 15 >>> 3)
  let late := (word 2).rotateRight 17 ^^^ (word 2).rotateRight 19 ^^^ (word 2 >>> 10)
  (word 16 + early + word 7 + late) :: latest

def schedule (block : List Word) : List Word := (extend^[48] block.reverse).reverse

def round (state : List Word) (word constant : Word) : List Word :=
  match state with
  | [a, b, c, d, e, f, g, h] =>
    let choice := (e &&& f) ^^^ (~~~e &&& g)
    let majority := (a &&& b) ^^^ (a &&& c) ^^^ (b &&& c)
    let first := h + (e.rotateRight 6 ^^^ e.rotateRight 11 ^^^ e.rotateRight 25) + choice + constant + word
    let second := (a.rotateRight 2 ^^^ a.rotateRight 13 ^^^ a.rotateRight 22) + majority
    [first + second, a, b, c, d + first, e, f, g]
  | other => other

def compress (state block : List Word) : List Word :=
  let rounds := ((schedule block).zip constants).foldl (fun state step => round state step.1 step.2) state
  state.zipWith (· + ·) rounds

/-- `hashlib.sha256(message).digest()`. -/
def sha256 (message : List Nat) : List Nat :=
  let words := toWords (pad message)
  let state := (List.range (words.length / 16)).foldl
    (fun state block => compress state ((words.drop (16 * block)).take 16)) initial
  state.flatMap (fun word => toBytes 4 word.toNat)

example : sha256 [97, 98, 99] =
    [186, 120, 22, 191, 143, 1, 207, 234, 65, 65, 64, 222, 93, 174, 34, 35, 176, 3, 97, 163, 150, 23, 122, 156,
      180, 16, 255, 97, 242, 0, 21, 173] := by
  decide +kernel

end Sha256
