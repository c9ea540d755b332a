/-
This file computes SHA-256 digests. A message is padded to whole blocks of 64 bytes, and
each block is mixed into eight words; the words that remain are the digest.
-/

namespace Declarations.Sha256

/-- The words that the rounds add, one for each round. -/
def roundWords : List UInt32 :=
  [
    0x428a2f98, 0x71374491, 0xb5c0fbcf, 0xe9b5dba5, 0x3956c25b, 0x59f111f1,
    0x923f82a4, 0xab1c5ed5, 0xd807aa98, 0x12835b01, 0x243185be, 0x550c7dc3,
    0x72be5d74, 0x80deb1fe, 0x9bdc06a7, 0xc19bf174, 0xe49b69c1, 0xefbe4786,
    0x0fc19dc6, 0x240ca1cc, 0x2de92c6f, 0x4a7484aa, 0x5cb0a9dc, 0x76f988da,
    0x983e5152, 0xa831c66d, 0xb00327c8, 0xbf597fc7, 0xc6e00bf3, 0xd5a79147,
    0x06ca6351, 0x14292967, 0x27b70a85, 0x2e1b2138, 0x4d2c6dfc, 0x53380d13,
    0x650a7354, 0x766a0abb, 0x81c2c92e, 0x92722c85, 0xa2bfe8a1, 0xa81a664b,
    0xc24b8b70, 0xc76c51a3, 0xd192e819, 0xd6990624, 0xf40e3585, 0x106aa070,
    0x19a4c116, 0x1e376c08, 0x2748774c, 0x34b0bcb5, 0x391c0cb3, 0x4ed8aa4a,
    0x5b9cca4f, 0x682e6ff3, 0x748f82ee, 0x78a5636f, 0x84c87814, 0x8cc70208,
    0x90befffa, 0xa4506ceb, 0xbef9a3f7, 0xc67178f2
  ]

/-- The eight words of a digest in progress. -/
structure State where
  a : UInt32
  b : UInt32
  c : UInt32
  d : UInt32
  e : UInt32
  f : UInt32
  g : UInt32
  h : UInt32
deriving DecidableEq, Repr, Inhabited

namespace State

/-- The words before the first block. -/
def start : State :=
  ⟨0x6a09e667, 0xbb67ae85, 0x3c6ef372, 0xa54ff53a, 0x510e527f, 0x9b05688c, 0x1f83d9ab,
    0x5be0cd19⟩

/-- The sums of the words of two states. -/
def add (left right : State) : State :=
  ⟨left.a + right.a, left.b + right.b, left.c + right.c, left.d + right.d, left.e + right.e,
    left.f + right.f, left.g + right.g, left.h + right.h⟩

/-- The words, in order. -/
def words (state : State) : List UInt32 :=
  [state.a, state.b, state.c, state.d, state.e, state.f, state.g, state.h]

end State

/-- A word with its bits moved to the right in a circle. -/
def rotate (word : UInt32) (count : UInt32) : UInt32 :=
  (word >>> count) ||| (word <<< (32 - count))

/-- One round: the words of a state move on by one place, and two are mixed. -/
def round (state : State) (added : UInt32) : State :=
  let chosen := (state.e &&& state.f) ^^^ (~~~state.e &&& state.g)
  let mixed := rotate state.e 6 ^^^ rotate state.e 11 ^^^ rotate state.e 25
  let first := state.h + mixed + chosen + added
  let agreed := (state.a &&& state.b) ^^^ (state.a &&& state.c) ^^^ (state.b &&& state.c)
  let second := (rotate state.a 2 ^^^ rotate state.a 13 ^^^ rotate state.a 22) + agreed
  ⟨first + second, state.a, state.b, state.c, state.d + first, state.e, state.f, state.g⟩

/-- The word that follows sixteen words of a schedule, which are given last word first. -/
def nextWord (recent : List UInt32) : UInt32 :=
  let word (back : Nat) : UInt32 := recent.getD (back - 1) 0
  let near := word 2
  let far := word 15
  let nearMixed := rotate near 17 ^^^ rotate near 19 ^^^ (near >>> 10)
  let farMixed := rotate far 7 ^^^ rotate far 18 ^^^ (far >>> 3)
  word 16 + farMixed + word 7 + nearMixed

/-- The schedule of a block, last word first: its own words, and `count` more. -/
def extend : Nat → List UInt32 → List UInt32
  | 0, recent => recent
  | count + 1, recent => extend count (nextWord recent :: recent)

/-- Mixes the sixteen words of a block into a state. -/
def mix (state : State) (block : List UInt32) : State :=
  let schedule := (extend 48 block.reverse).reverse
  let mixed := (schedule.zip roundWords).foldl
    (fun state (word, fixed) => round state (word + fixed)) state
  state.add mixed

/-- The bytes of a number of so many bytes, highest first. -/
def bytesOf : Nat → Nat → List UInt8
  | 0, _ => []
  | count + 1, value => bytesOf count (value / 256) ++ [UInt8.ofNat value]

/-- A message with a mark at its end, zeros up to the last eight bytes of a block, and its length
in bits. -/
def padded (message : List UInt8) : List UInt8 :=
  let zeros := (119 - message.length % 64) % 64
  message ++ 0x80 :: List.replicate zeros 0 ++ bytesOf 8 (8 * message.length)

/-- The words of bytes, four bytes each. -/
def toWords : List UInt8 → List UInt32
  | first :: second :: third :: fourth :: rest =>
    ((first.toUInt32 <<< 24) ||| (second.toUInt32 <<< 16) ||| (third.toUInt32 <<< 8) |||
      fourth.toUInt32) :: toWords rest
  | _ => []

/-- Mixes words into a state, sixteen at a time, for at most `count` blocks. -/
def mixAll : Nat → State → List UInt32 → State
  | 0, state, _ => state
  | count + 1, state, words =>
    match words with
    | [] => state
    | _ => mixAll count (mix state (words.take 16)) (words.drop 16)

/-- The digest of a message. -/
def digest (message : List UInt8) : List UInt8 :=
  let words := toWords (padded message)
  (mixAll words.length .start words).words.flatMap fun word => bytesOf 4 word.toNat

/-- The two digits of a byte. -/
def hexByte (byte : UInt8) : List Char :=
  [Nat.digitChar (byte.toNat / 16), Nat.digitChar (byte.toNat % 16)]

/-- The digest of a text, in digits to the base sixteen. -/
def hex (text : String) : String :=
  String.ofList ((digest text.toUTF8.toList).flatMap hexByte)

end Declarations.Sha256
