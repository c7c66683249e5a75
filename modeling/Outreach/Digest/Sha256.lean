/-!
The 256-bit digest of a byte string. A digest has 32 bytes.
-/

namespace Outreach.Digest

/-- The round constants. -/
def roundConstants : List UInt32 := [
  0x428a2f98, 0x71374491, 0xb5c0fbcf, 0xe9b5dba5, 0x3956c25b, 0x59f111f1, 0x923f82a4, 0xab1c5ed5,
  0xd807aa98, 0x12835b01, 0x243185be, 0x550c7dc3, 0x72be5d74, 0x80deb1fe, 0x9bdc06a7, 0xc19bf174,
  0xe49b69c1, 0xefbe4786, 0x0fc19dc6, 0x240ca1cc, 0x2de92c6f, 0x4a7484aa, 0x5cb0a9dc, 0x76f988da,
  0x983e5152, 0xa831c66d, 0xb00327c8, 0xbf597fc7, 0xc6e00bf3, 0xd5a79147, 0x06ca6351, 0x14292967,
  0x27b70a85, 0x2e1b2138, 0x4d2c6dfc, 0x53380d13, 0x650a7354, 0x766a0abb, 0x81c2c92e, 0x92722c85,
  0xa2bfe8a1, 0xa81a664b, 0xc24b8b70, 0xc76c51a3, 0xd192e819, 0xd6990624, 0xf40e3585, 0x106aa070,
  0x19a4c116, 0x1e376c08, 0x2748774c, 0x34b0bcb5, 0x391c0cb3, 0x4ed8aa4a, 0x5b9cca4f, 0x682e6ff3,
  0x748f82ee, 0x78a5636f, 0x84c87814, 0x8cc70208, 0x90befffa, 0xa4506ceb, 0xbef9a3f7, 0xc67178f2]

/-- The eight words that are carried from block to block. -/
structure Chain where
  a : UInt32
  b : UInt32
  c : UInt32
  d : UInt32
  e : UInt32
  f : UInt32
  g : UInt32
  h : UInt32

def Chain.first : Chain :=
  ⟨0x6a09e667, 0xbb67ae85, 0x3c6ef372, 0xa54ff53a, 0x510e527f, 0x9b05688c, 0x1f83d9ab, 0x5be0cd19⟩

def Chain.add (x y : Chain) : Chain :=
  ⟨x.a + y.a, x.b + y.b, x.c + y.c, x.d + y.d, x.e + y.e, x.f + y.f, x.g + y.g, x.h + y.h⟩

def Chain.words (x : Chain) : List UInt32 := [x.a, x.b, x.c, x.d, x.e, x.f, x.g, x.h]

def rotate (count word : UInt32) : UInt32 := (word >>> count) ||| (word <<< (32 - count))

/-- The word that follows the given ones, the latest first. -/
def nextWord (latest : List UInt32) : UInt32 :=
  let ago (n : Nat) : UInt32 := latest.getD (n - 1) 0
  let low := ago 15
  let high := ago 2
  let lowMix := rotate 7 low ^^^ rotate 18 low ^^^ (low >>> 3)
  let highMix := rotate 17 high ^^^ rotate 19 high ^^^ (high >>> 10)
  ago 16 + lowMix + ago 7 + highMix

/-- Adds so many words to a schedule, the latest first. -/
def extend : (count : Nat) → List UInt32 → List UInt32
  | 0, latest => latest
  | count + 1, latest => extend count (nextWord latest :: latest)

/-- The 64 words of a block of 16. -/
def schedule (block : List UInt32) : List UInt32 := (extend 48 block.reverse).reverse

def round (x : Chain) (mixed : UInt32 × UInt32) : Chain :=
  let sum := rotate 6 x.e ^^^ rotate 11 x.e ^^^ rotate 25 x.e
  let choice := (x.e &&& x.f) ^^^ (~~~x.e &&& x.g)
  let first := x.h + sum + choice + mixed.1 + mixed.2
  let other := rotate 2 x.a ^^^ rotate 13 x.a ^^^ rotate 22 x.a
  let majority := (x.a &&& x.b) ^^^ (x.a &&& x.c) ^^^ (x.b &&& x.c)
  ⟨first + other + majority, x.a, x.b, x.c, x.d + first, x.e, x.f, x.g⟩

def compress (x : Chain) (block : List UInt32) : Chain :=
  x.add ((roundConstants.zip (schedule block)).foldl round x)

/-- A number as so many bytes, the highest first. -/
def bigEndian : (count n : Nat) → List UInt8
  | 0, _ => []
  | count + 1, n => bigEndian count (n / 256) ++ [UInt8.ofNat n]

theorem length_bigEndian (count n : Nat) : (bigEndian count n).length = count := by
  induction count generalizing n with
  | zero => rfl
  | succ count ih => simp [bigEndian, ih]

/-- The bytes filled up to whole blocks: a set bit, zeros, and the length in bits. -/
def pad (bytes : List UInt8) : List UInt8 :=
  bytes ++ 0x80 :: List.replicate ((119 - bytes.length % 64) % 64) 0 ++
    bigEndian 8 (8 * bytes.length)

theorem length_pad (bytes : List UInt8) : (pad bytes).length % 64 = 0 := by
  simp only [pad, List.append_assoc, List.cons_append, List.length_append, List.length_cons,
    List.length_replicate, length_bigEndian]
  omega

/-- The words of a byte string, four bytes each. -/
def words : List UInt8 → List UInt32
  | a :: b :: c :: d :: rest =>
      UInt32.ofNat (((a.toNat * 256 + b.toNat) * 256 + c.toNat) * 256 + d.toNat) :: words rest
  | _ => []

/-- Goes through so many blocks of 16 words. -/
def absorb : (blocks : Nat) → Chain → List UInt32 → Chain
  | 0, x, _ => x
  | blocks + 1, x, words => absorb blocks (compress x (words.take 16)) (words.drop 16)

/-- The digest of a byte string. -/
def sha256 (bytes : List UInt8) : List UInt8 :=
  let padded := words (pad bytes)
  (absorb (padded.length / 16) .first padded).words.flatMap fun word => bigEndian 4 word.toNat

end Outreach.Digest
