/-!
# SHA-256

The hash function of FIPS 180-4 over octets: the message is padded to blocks of 64 octets, each
block is expanded to 64 words and mixed into a chaining value of eight words in 64 rounds.
-/

namespace Scorebook.Digest.Sha256

/-- The chaining value, and the working variables of the rounds. -/
structure Words where
  /-- The words `a` to `h` of the standard, in order. -/
  (a b c d e f g h : UInt32)
  deriving DecidableEq, Repr

/-- The chaining value before the first block. -/
def initial : Words :=
  ⟨0x6a09e667, 0xbb67ae85, 0x3c6ef372, 0xa54ff53a, 0x510e527f, 0x9b05688c, 0x1f83d9ab, 0x5be0cd19⟩

/-- The constants of the 64 rounds. -/
def roundConstants : List UInt32 :=
  [0x428a2f98, 0x71374491, 0xb5c0fbcf, 0xe9b5dba5, 0x3956c25b, 0x59f111f1, 0x923f82a4, 0xab1c5ed5,
   0xd807aa98, 0x12835b01, 0x243185be, 0x550c7dc3, 0x72be5d74, 0x80deb1fe, 0x9bdc06a7, 0xc19bf174,
   0xe49b69c1, 0xefbe4786, 0x0fc19dc6, 0x240ca1cc, 0x2de92c6f, 0x4a7484aa, 0x5cb0a9dc, 0x76f988da,
   0x983e5152, 0xa831c66d, 0xb00327c8, 0xbf597fc7, 0xc6e00bf3, 0xd5a79147, 0x06ca6351, 0x14292967,
   0x27b70a85, 0x2e1b2138, 0x4d2c6dfc, 0x53380d13, 0x650a7354, 0x766a0abb, 0x81c2c92e, 0x92722c85,
   0xa2bfe8a1, 0xa81a664b, 0xc24b8b70, 0xc76c51a3, 0xd192e819, 0xd6990624, 0xf40e3585, 0x106aa070,
   0x19a4c116, 0x1e376c08, 0x2748774c, 0x34b0bcb5, 0x391c0cb3, 0x4ed8aa4a, 0x5b9cca4f, 0x682e6ff3,
   0x748f82ee, 0x78a5636f, 0x84c87814, 0x8cc70208, 0x90befffa, 0xa4506ceb, 0xbef9a3f7, 0xc67178f2]

/-- A word rotated to the right. -/
def rotate (x : UInt32) (n : UInt32) : UInt32 := (x >>> n) ||| (x <<< (32 - n))

/-- The octets of a number, most significant first. -/
def bigEndian : (width : Nat) → Nat → List UInt8
  | 0, _ => []
  | width + 1, n => UInt8.ofNat (n >>> (8 * width)) :: bigEndian width n

/-- The message with its padding: one octet 0x80, zeros, and the length in bits over eight octets,
up to a multiple of 64 octets. -/
def padded (message : List UInt8) : List UInt8 :=
  message ++ 0x80 :: List.replicate ((119 - message.length % 64) % 64) 0
    ++ bigEndian 8 (8 * message.length)

/-- The words of a block, the last one first. -/
def wordsOf : List UInt8 → List UInt32 → List UInt32
  | p :: q :: r :: s :: rest, words =>
    let word := ((p.toNat * 256 + q.toNat) * 256 + r.toNat) * 256 + s.toNat
    wordsOf rest (UInt32.ofNat word :: words)
  | _, words => words

/-- The next word of the message schedule from the words so far, the last one first. -/
def nextWord (words : List UInt32) : UInt32 :=
  let x := words.getD 1 0
  let y := words.getD 14 0
  (rotate x 17 ^^^ rotate x 19 ^^^ (x >>> 10)) + words.getD 6 0
    + (rotate y 7 ^^^ rotate y 18 ^^^ (y >>> 3)) + words.getD 15 0

/-- A block's 16 words expanded by `count` more, the last one first. -/
def extend : (count : Nat) → List UInt32 → List UInt32
  | 0, words => words
  | count + 1, words => extend count (nextWord words :: words)

/-- One round with the sum of its constant and its word. -/
def round (v : Words) (input : UInt32) : Words :=
  let t1 := v.h + (rotate v.e 6 ^^^ rotate v.e 11 ^^^ rotate v.e 25)
    + ((v.e &&& v.f) ^^^ (v.e.complement &&& v.g)) + input
  let t2 := (rotate v.a 2 ^^^ rotate v.a 13 ^^^ rotate v.a 22)
    + ((v.a &&& v.b) ^^^ (v.a &&& v.c) ^^^ (v.b &&& v.c))
  ⟨t1 + t2, v.a, v.b, v.c, v.d + t1, v.e, v.f, v.g⟩

/-- One block of 64 octets mixed into the chaining value. -/
def absorb (v : Words) (block : List UInt8) : Words :=
  let schedule := (extend 48 (wordsOf block [])).reverse
  let w := (List.zipWith (· + ·) roundConstants schedule).foldl round v
  ⟨v.a + w.a, v.b + w.b, v.c + w.c, v.d + w.d, v.e + w.e, v.f + w.f, v.g + w.g, v.h + w.h⟩

/-- The first `count` blocks of 64 octets, absorbed in order. -/
def absorbAll : (count : Nat) → Words → List UInt8 → Words
  | 0, v, _ => v
  | count + 1, v, octets => absorbAll count (absorb v (octets.take 64)) (octets.drop 64)

/-- The digest of a message: 32 octets. -/
def digest (message : List UInt8) : List UInt8 :=
  let octets := padded message
  let v := absorbAll (octets.length / 64) initial octets
  [v.a, v.b, v.c, v.d, v.e, v.f, v.g, v.h].flatMap fun word => bigEndian 4 word.toNat

/-- An octet as two lower-case hexadecimal digits. -/
def hexOctet (octet : UInt8) : List Char :=
  [Nat.digitChar (octet.toNat / 16), Nat.digitChar (octet.toNat % 16)]

/-- The digest of a text's UTF-8 form, in lower-case hexadecimal. -/
def hexDigest (text : String) : String :=
  String.ofList ((digest text.toUTF8.toList).flatMap hexOctet)

end Scorebook.Digest.Sha256
