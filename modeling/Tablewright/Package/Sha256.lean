/-! The hash function SHA-256 on lists of bytes.
-/

namespace Tablewright.Sha256

/-- The eight words that are carried from block to block.
-/
structure State where
  a : UInt32
  b : UInt32
  c : UInt32
  d : UInt32
  e : UInt32
  f : UInt32
  g : UInt32
  h : UInt32
  deriving DecidableEq

/-- The words before the first block.
-/
def initialState : State :=
  ⟨0x6a09e667, 0xbb67ae85, 0x3c6ef372, 0xa54ff53a, 0x510e527f, 0x9b05688c, 0x1f83d9ab,
    0x5be0cd19⟩

/-- The constants of the sixty-four rounds.
-/
def roundConstants : List UInt32 :=
  [
    0x428a2f98, 0x71374491, 0xb5c0fbcf, 0xe9b5dba5, 0x3956c25b, 0x59f111f1, 0x923f82a4, 0xab1c5ed5,
    0xd807aa98, 0x12835b01, 0x243185be, 0x550c7dc3, 0x72be5d74, 0x80deb1fe, 0x9bdc06a7, 0xc19bf174,
    0xe49b69c1, 0xefbe4786, 0x0fc19dc6, 0x240ca1cc, 0x2de92c6f, 0x4a7484aa, 0x5cb0a9dc, 0x76f988da,
    0x983e5152, 0xa831c66d, 0xb00327c8, 0xbf597fc7, 0xc6e00bf3, 0xd5a79147, 0x06ca6351, 0x14292967,
    0x27b70a85, 0x2e1b2138, 0x4d2c6dfc, 0x53380d13, 0x650a7354, 0x766a0abb, 0x81c2c92e, 0x92722c85,
    0xa2bfe8a1, 0xa81a664b, 0xc24b8b70, 0xc76c51a3, 0xd192e819, 0xd6990624, 0xf40e3585, 0x106aa070,
    0x19a4c116, 0x1e376c08, 0x2748774c, 0x34b0bcb5, 0x391c0cb3, 0x4ed8aa4a, 0x5b9cca4f, 0x682e6ff3,
    0x748f82ee, 0x78a5636f, 0x84c87814, 0x8cc70208, 0x90befffa, 0xa4506ceb, 0xbef9a3f7, 0xc67178f2
  ]

/-- Moves the bits of a word to the right; those that leave it come back on the left.
-/
def rotate (x : UInt32) (places : UInt32) : UInt32 :=
  (x >>> places) ||| (x <<< (32 - places))

/-- The word that follows the sixteen words before it.
-/
def nextWord (window : List UInt32) : UInt32 :=
  let early := window.getD 1 0
  let late := window.getD 14 0
  let spread := rotate early 7 ^^^ rotate early 18 ^^^ (early >>> 3)
  let mix := rotate late 17 ^^^ rotate late 19 ^^^ (late >>> 10)
  window.getD 0 0 + spread + window.getD 9 0 + mix

/-- One round, with its constant and its word.
-/
def round (state : State) (constant word : UInt32) : State :=
  let ⟨a, b, c, d, e, f, g, h⟩ := state
  let high := rotate e 6 ^^^ rotate e 11 ^^^ rotate e 25
  let choice := (e &&& f) ^^^ (~~~e &&& g)
  let first := h + high + choice + constant + word
  let low := rotate a 2 ^^^ rotate a 13 ^^^ rotate a 22
  let majority := (a &&& b) ^^^ (a &&& c) ^^^ (b &&& c)
  ⟨first + low + majority, a, b, c, d + first, e, f, g⟩

/-- The rounds with the constants that are left, on a window of sixteen words.
-/
def rounds (window : List UInt32) (state : State) : List UInt32 → State
  | [] => state
  | constant :: rest =>
    rounds (window.drop 1 ++ [nextWord window]) (round state constant (window.getD 0 0)) rest

/-- The state after a block of sixteen words.
-/
def compress (state : State) (block : List UInt32) : State :=
  let ⟨a, b, c, d, e, f, g, h⟩ := rounds block state roundConstants
  ⟨state.a + a, state.b + b, state.c + c, state.d + d, state.e + e, state.f + f, state.g + g,
    state.h + h⟩

/-- The word of four bytes, the highest first.
-/
def wordOf (a b c d : UInt8) : UInt32 :=
  (a.toUInt32 <<< 24) ||| (b.toUInt32 <<< 16) ||| (c.toUInt32 <<< 8) ||| d.toUInt32

/-- The words of bytes.
-/
def words : List UInt8 → List UInt32
  | a :: b :: c :: d :: rest => wordOf a b c d :: words rest
  | _ => []

/-- The blocks of words, one after the other.
-/
def absorb (state : State) (message : List UInt32) : State :=
  match message with
  | [] => state
  | word :: rest => absorb (compress state ((word :: rest).take 16)) (rest.drop 15)
termination_by message.length
decreasing_by
  have := List.length_drop (i := 15) (l := rest)
  simp only [List.length_cons]
  omega

/-- A number as eight bytes, the highest first.
-/
def lengthBytes (n : Nat) : List UInt8 :=
  [56, 48, 40, 32, 24, 16, 8, 0].map fun shift => UInt8.ofNat (n >>> shift)

/-- A message filled up to whole blocks: a bit, zeros, and the number of its bits.
-/
def pad (message : List UInt8) : List UInt8 :=
  let zeros := (119 - message.length % 64) % 64
  message ++ 0x80 :: (List.replicate zeros 0 ++ lengthBytes (8 * message.length))

/-- The digits of a word.
-/
def hexWord (word : UInt32) : List Char :=
  [28, 24, 20, 16, 12, 8, 4, 0].map fun shift => Nat.digitChar ((word.toNat >>> shift) % 16)

/-- The hash of a message, as sixty-four hexadecimal digits.
-/
def hash (message : List UInt8) : String :=
  let ⟨a, b, c, d, e, f, g, h⟩ := absorb initialState (words (pad message))
  String.ofList ([a, b, c, d, e, f, g, h].flatMap hexWord)

end Tablewright.Sha256
