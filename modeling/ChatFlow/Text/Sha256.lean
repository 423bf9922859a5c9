/-!
# SHA-256

The digest of a byte string: the message is padded to blocks of sixty-four
bytes, each block is expanded to a schedule of sixty-four words, and
sixty-four rounds mix the schedule into a state of eight words.  All words
have thirty-two bits and their arithmetic wraps.
-/

namespace ChatFlow.Text.Sha256

/-- The eight words that the rounds mix. -/
structure State where
  a : UInt32
  b : UInt32
  c : UInt32
  d : UInt32
  e : UInt32
  f : UInt32
  g : UInt32
  h : UInt32
deriving DecidableEq, Repr

/-- Fractional parts of the square roots of the first eight primes. -/
def initial : State :=
  ⟨0x6a09e667, 0xbb67ae85, 0x3c6ef372, 0xa54ff53a, 0x510e527f,
    0x9b05688c, 0x1f83d9ab, 0x5be0cd19⟩

/-- Fractional parts of the cube roots of the first sixty-four primes. -/
def roundConstants : List UInt32 :=
  [0x428a2f98, 0x71374491, 0xb5c0fbcf, 0xe9b5dba5, 0x3956c25b, 0x59f111f1,
    0x923f82a4, 0xab1c5ed5, 0xd807aa98, 0x12835b01, 0x243185be, 0x550c7dc3,
    0x72be5d74, 0x80deb1fe, 0x9bdc06a7, 0xc19bf174, 0xe49b69c1, 0xefbe4786,
    0x0fc19dc6, 0x240ca1cc, 0x2de92c6f, 0x4a7484aa, 0x5cb0a9dc, 0x76f988da,
    0x983e5152, 0xa831c66d, 0xb00327c8, 0xbf597fc7, 0xc6e00bf3, 0xd5a79147,
    0x06ca6351, 0x14292967, 0x27b70a85, 0x2e1b2138, 0x4d2c6dfc, 0x53380d13,
    0x650a7354, 0x766a0abb, 0x81c2c92e, 0x92722c85, 0xa2bfe8a1, 0xa81a664b,
    0xc24b8b70, 0xc76c51a3, 0xd192e819, 0xd6990624, 0xf40e3585, 0x106aa070,
    0x19a4c116, 0x1e376c08, 0x2748774c, 0x34b0bcb5, 0x391c0cb3, 0x4ed8aa4a,
    0x5b9cca4f, 0x682e6ff3, 0x748f82ee, 0x78a5636f, 0x84c87814, 0x8cc70208,
    0x90befffa, 0xa4506ceb, 0xbef9a3f7, 0xc67178f2]

def rotateRight (word count : UInt32) : UInt32 :=
  (word >>> count) ||| (word <<< (32 - count))

/-- The message, a one bit, zero bits up to eight bytes short of a full block,
and the length of the message in bits. -/
def padded (message : Array UInt8) : Array UInt8 :=
  let zeros := (119 - message.size % 64) % 64
  let length := (List.range 8).map fun i => ((message.size * 8) >>> (8 * (7 - i))).toUInt8
  message ++ #[0x80] ++ Array.replicate zeros 0 ++ length.toArray

/-- The word that starts at a position, most significant byte first. -/
def wordAt (bytes : Array UInt8) (position : Nat) : UInt32 :=
  (List.range 4).foldl
    (fun word i => (word <<< 8) ||| (bytes.getD (position + i) 0).toUInt32) 0

/-- The words of a block, extended to one for each round. -/
def schedule (bytes : Array UInt8) (start : Nat) : Array UInt32 :=
  (List.range 48).foldl
    (fun words i =>
      let word := fun back => words.getD (i + 16 - back) 0
      let low := word 15
      let high := word 2
      let sigma0 := rotateRight low 7 ^^^ rotateRight low 18 ^^^ (low >>> 3)
      let sigma1 := rotateRight high 17 ^^^ rotateRight high 19 ^^^ (high >>> 10)
      words.push (word 16 + sigma0 + word 7 + sigma1))
    ((List.range 16).map fun i => wordAt bytes (start + 4 * i)).toArray

def round (s : State) (constant word : UInt32) : State :=
  let sum1 := rotateRight s.e 6 ^^^ rotateRight s.e 11 ^^^ rotateRight s.e 25
  let choice := (s.e &&& s.f) ^^^ (~~~s.e &&& s.g)
  let first := s.h + sum1 + choice + constant + word
  let sum0 := rotateRight s.a 2 ^^^ rotateRight s.a 13 ^^^ rotateRight s.a 22
  let majority := (s.a &&& s.b) ^^^ (s.a &&& s.c) ^^^ (s.b &&& s.c)
  ⟨first + sum0 + majority, s.a, s.b, s.c, s.d + first, s.e, s.f, s.g⟩

/-- Mixes one block into the state. -/
def compress (s : State) (words : Array UInt32) : State :=
  let mixed := (roundConstants.zip words.toList).foldl
    (fun state (constant, word) => round state constant word) s
  ⟨s.a + mixed.a, s.b + mixed.b, s.c + mixed.c, s.d + mixed.d,
    s.e + mixed.e, s.f + mixed.f, s.g + mixed.g, s.h + mixed.h⟩

def ofBytes (message : Array UInt8) : State :=
  let bytes := padded message
  (List.range (bytes.size / 64)).foldl
    (fun state i => compress state (schedule bytes (64 * i))) initial

/-- The eight digits of a word, in lower case. -/
def wordDigits (word : UInt32) : List Char :=
  (List.range 8).map fun i => Nat.digitChar ((word.toNat >>> (4 * (7 - i))) % 16)

def State.hex (s : State) : String :=
  String.ofList ([s.a, s.b, s.c, s.d, s.e, s.f, s.g, s.h].flatMap wordDigits)

/-- The digest of the UTF-8 bytes of a text, as sixty-four hexadecimal digits. -/
def digest (text : String) : String :=
  (ofBytes text.toUTF8.data).hex

end ChatFlow.Text.Sha256
