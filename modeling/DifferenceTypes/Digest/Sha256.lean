import DifferenceTypes.Text.Quoted

/-!
# The SHA-256 digest

A message is padded to whole blocks of 64 bytes, each block is expanded into 64 words, and the words
are mixed into an eight-word state. The digest is the final state, written as 64 hexadecimal digits.

The state is a record and a block's words are a list, so each step is a fold; nothing here depends
on how long the message is.
-/

namespace DifferenceTypes.Sha256

/-- The eight chaining words. -/
structure State where
  a : UInt32
  b : UInt32
  c : UInt32
  d : UInt32
  e : UInt32
  f : UInt32
  g : UInt32
  h : UInt32
  deriving Repr, DecidableEq

/-- The fractional parts of the square roots of the first eight primes. -/
def initial : State :=
  ⟨0x6a09e667, 0xbb67ae85, 0x3c6ef372, 0xa54ff53a, 0x510e527f, 0x9b05688c, 0x1f83d9ab, 0x5be0cd19⟩

/-- The fractional parts of the cube roots of the first 64 primes. -/
def roundConstants : List UInt32 :=
  [0x428a2f98, 0x71374491, 0xb5c0fbcf, 0xe9b5dba5, 0x3956c25b, 0x59f111f1, 0x923f82a4, 0xab1c5ed5,
   0xd807aa98, 0x12835b01, 0x243185be, 0x550c7dc3, 0x72be5d74, 0x80deb1fe, 0x9bdc06a7, 0xc19bf174,
   0xe49b69c1, 0xefbe4786, 0x0fc19dc6, 0x240ca1cc, 0x2de92c6f, 0x4a7484aa, 0x5cb0a9dc, 0x76f988da,
   0x983e5152, 0xa831c66d, 0xb00327c8, 0xbf597fc7, 0xc6e00bf3, 0xd5a79147, 0x06ca6351, 0x14292967,
   0x27b70a85, 0x2e1b2138, 0x4d2c6dfc, 0x53380d13, 0x650a7354, 0x766a0abb, 0x81c2c92e, 0x92722c85,
   0xa2bfe8a1, 0xa81a664b, 0xc24b8b70, 0xc76c51a3, 0xd192e819, 0xd6990624, 0xf40e3585, 0x106aa070,
   0x19a4c116, 0x1e376c08, 0x2748774c, 0x34b0bcb5, 0x391c0cb3, 0x4ed8aa4a, 0x5b9cca4f, 0x682e6ff3,
   0x748f82ee, 0x78a5636f, 0x84c87814, 0x8cc70208, 0x90befffa, 0xa4506ceb, 0xbef9a3f7, 0xc67178f2]

/-- The word turned right by some bits, the bits pushed out coming back on the left. -/
def rotateRight (word amount : UInt32) : UInt32 :=
  (word >>> amount) ||| (word <<< (32 - amount))

/-- The next word of a block's schedule, given the words so far with the latest first. -/
def nextWord (latestFirst : List UInt32) : UInt32 :=
  let early := latestFirst.getD 14 0
  let late := latestFirst.getD 1 0
  let mixEarly := rotateRight early 7 ^^^ rotateRight early 18 ^^^ (early >>> 3)
  let mixLate := rotateRight late 17 ^^^ rotateRight late 19 ^^^ (late >>> 10)
  latestFirst.getD 15 0 + mixEarly + latestFirst.getD 6 0 + mixLate

/-- The 64 words of a block whose first sixteen are given. -/
def schedule (words : List UInt32) : List UInt32 :=
  ((List.range 48).foldl (fun latestFirst _ => nextWord latestFirst :: latestFirst)
    words.reverse).reverse

/-- One round with its constant and its word. -/
def round (state : State) (constant word : UInt32) : State :=
  let mixE := rotateRight state.e 6 ^^^ rotateRight state.e 11 ^^^ rotateRight state.e 25
  let choice := (state.e &&& state.f) ^^^ (~~~state.e &&& state.g)
  let first := state.h + mixE + choice + constant + word
  let mixA := rotateRight state.a 2 ^^^ rotateRight state.a 13 ^^^ rotateRight state.a 22
  let majority := (state.a &&& state.b) ^^^ (state.a &&& state.c) ^^^ (state.b &&& state.c)
  ⟨first + (mixA + majority), state.a, state.b, state.c, state.d + first, state.e, state.f, state.g⟩

/-- The state after a block: 64 rounds, added to the state before them. -/
def compress (state : State) (words : List UInt32) : State :=
  let rounds := roundConstants.zip (schedule words)
  let mixed := rounds.foldl (fun current pair => round current pair.1 pair.2) state
  ⟨state.a + mixed.a, state.b + mixed.b, state.c + mixed.c, state.d + mixed.d, state.e + mixed.e,
    state.f + mixed.f, state.g + mixed.g, state.h + mixed.h⟩

/-- The message with a one bit, zeros up to a block's last eight bytes, and its length in bits. -/
def pad (message : List UInt8) : List UInt8 :=
  let length := message.length
  let zeros := (119 - length % 64) % 64
  let bits := length * 8
  message ++ 0x80 :: List.replicate zeros (0 : UInt8) ++
    ([(bits >>> 56).toUInt8, (bits >>> 48).toUInt8, (bits >>> 40).toUInt8, (bits >>> 32).toUInt8,
     (bits >>> 24).toUInt8, (bits >>> 16).toUInt8, (bits >>> 8).toUInt8, bits.toUInt8] : List UInt8)

/-- Bytes as words of four, the first byte highest; one to three left over are dropped. -/
def wordsOfBytes : List UInt8 → List UInt32
  | a :: b :: c :: d :: rest =>
    ((a.toUInt32 <<< 24) ||| (b.toUInt32 <<< 16) ||| (c.toUInt32 <<< 8) ||| d.toUInt32) ::
      wordsOfBytes rest
  | _ => []

/-- Words in groups of sixteen. -/
def blocksOfWords (words : List UInt32) : List (List UInt32) :=
  (List.range (words.length / 16)).map fun index => (words.drop (16 * index)).take 16

/-- The state that remains of a message. -/
def finalState (message : List UInt8) : State :=
  (blocksOfWords (wordsOfBytes (pad message))).foldl compress initial

/-- The digest of a message as 64 digits. -/
def hexDigest (message : List UInt8) : List Char :=
  let state := finalState message
  [state.a, state.b, state.c, state.d, state.e, state.f, state.g, state.h].flatMap fun word =>
    hexadecimal 8 word.toNat

end DifferenceTypes.Sha256
