import Outreach.Digest.Sha256

/-!
The digests with words of 64 bits: one of 64 bytes, and one of 48 that begins with other words and
leaves the last two out.
-/

namespace Outreach.Digest.Long

/-- The round constants. -/
def roundConstants : List UInt64 := [
  0x428a2f98d728ae22, 0x7137449123ef65cd, 0xb5c0fbcfec4d3b2f, 0xe9b5dba58189dbbc,
  0x3956c25bf348b538, 0x59f111f1b605d019, 0x923f82a4af194f9b, 0xab1c5ed5da6d8118,
  0xd807aa98a3030242, 0x12835b0145706fbe, 0x243185be4ee4b28c, 0x550c7dc3d5ffb4e2,
  0x72be5d74f27b896f, 0x80deb1fe3b1696b1, 0x9bdc06a725c71235, 0xc19bf174cf692694,
  0xe49b69c19ef14ad2, 0xefbe4786384f25e3, 0x0fc19dc68b8cd5b5, 0x240ca1cc77ac9c65,
  0x2de92c6f592b0275, 0x4a7484aa6ea6e483, 0x5cb0a9dcbd41fbd4, 0x76f988da831153b5,
  0x983e5152ee66dfab, 0xa831c66d2db43210, 0xb00327c898fb213f, 0xbf597fc7beef0ee4,
  0xc6e00bf33da88fc2, 0xd5a79147930aa725, 0x06ca6351e003826f, 0x142929670a0e6e70,
  0x27b70a8546d22ffc, 0x2e1b21385c26c926, 0x4d2c6dfc5ac42aed, 0x53380d139d95b3df,
  0x650a73548baf63de, 0x766a0abb3c77b2a8, 0x81c2c92e47edaee6, 0x92722c851482353b,
  0xa2bfe8a14cf10364, 0xa81a664bbc423001, 0xc24b8b70d0f89791, 0xc76c51a30654be30,
  0xd192e819d6ef5218, 0xd69906245565a910, 0xf40e35855771202a, 0x106aa07032bbd1b8,
  0x19a4c116b8d2d0c8, 0x1e376c085141ab53, 0x2748774cdf8eeb99, 0x34b0bcb5e19b48a8,
  0x391c0cb3c5c95a63, 0x4ed8aa4ae3418acb, 0x5b9cca4f7763e373, 0x682e6ff3d6b2b8a3,
  0x748f82ee5defb2fc, 0x78a5636f43172f60, 0x84c87814a1f0ab72, 0x8cc702081a6439ec,
  0x90befffa23631e28, 0xa4506cebde82bde9, 0xbef9a3f7b2c67915, 0xc67178f2e372532b,
  0xca273eceea26619c, 0xd186b8c721c0c207, 0xeada7dd6cde0eb1e, 0xf57d4f7fee6ed178,
  0x06f067aa72176fba, 0x0a637dc5a2c898a6, 0x113f9804bef90dae, 0x1b710b35131c471b,
  0x28db77f523047d84, 0x32caab7b40c72493, 0x3c9ebe0a15c9bebc, 0x431d67c49c100d4c,
  0x4cc5d4becb3e42b6, 0x597f299cfc657e2a, 0x5fcb6fab3ad6faec, 0x6c44198c4a475817]

/-- The eight words that are carried from block to block. -/
structure Chain where
  a : UInt64
  b : UInt64
  c : UInt64
  d : UInt64
  e : UInt64
  f : UInt64
  g : UInt64
  h : UInt64

def Chain.first : Chain :=
  ⟨0x6a09e667f3bcc908, 0xbb67ae8584caa73b, 0x3c6ef372fe94f82b, 0xa54ff53a5f1d36f1,
    0x510e527fade682d1, 0x9b05688c2b3e6c1f, 0x1f83d9abfb41bd6b, 0x5be0cd19137e2179⟩

/-- The words that the shorter digest begins with. -/
def Chain.firstShort : Chain :=
  ⟨0xcbbb9d5dc1059ed8, 0x629a292a367cd507, 0x9159015a3070dd17, 0x152fecd8f70e5939,
    0x67332667ffc00b31, 0x8eb44a8768581511, 0xdb0c2e0d64f98fa7, 0x47b5481dbefa4fa4⟩

def Chain.add (x y : Chain) : Chain :=
  ⟨x.a + y.a, x.b + y.b, x.c + y.c, x.d + y.d, x.e + y.e, x.f + y.f, x.g + y.g, x.h + y.h⟩

def Chain.words (x : Chain) : List UInt64 := [x.a, x.b, x.c, x.d, x.e, x.f, x.g, x.h]

def rotate (count word : UInt64) : UInt64 := (word >>> count) ||| (word <<< (64 - count))

/-- The word that follows the given ones, the latest first. -/
def nextWord (latest : List UInt64) : UInt64 :=
  let ago (n : Nat) : UInt64 := latest.getD (n - 1) 0
  let low := ago 15
  let high := ago 2
  let lowMix := rotate 1 low ^^^ rotate 8 low ^^^ (low >>> 7)
  let highMix := rotate 19 high ^^^ rotate 61 high ^^^ (high >>> 6)
  ago 16 + lowMix + ago 7 + highMix

/-- Adds so many words to a schedule, the latest first. -/
def extend : (count : Nat) → List UInt64 → List UInt64
  | 0, latest => latest
  | count + 1, latest => extend count (nextWord latest :: latest)

/-- The 80 words of a block of 16. -/
def schedule (block : List UInt64) : List UInt64 := (extend 64 block.reverse).reverse

def round (x : Chain) (mixed : UInt64 × UInt64) : Chain :=
  let sum := rotate 14 x.e ^^^ rotate 18 x.e ^^^ rotate 41 x.e
  let choice := (x.e &&& x.f) ^^^ (~~~x.e &&& x.g)
  let first := x.h + sum + choice + mixed.1 + mixed.2
  let other := rotate 28 x.a ^^^ rotate 34 x.a ^^^ rotate 39 x.a
  let majority := (x.a &&& x.b) ^^^ (x.a &&& x.c) ^^^ (x.b &&& x.c)
  ⟨first + other + majority, x.a, x.b, x.c, x.d + first, x.e, x.f, x.g⟩

def compress (x : Chain) (block : List UInt64) : Chain :=
  x.add ((roundConstants.zip (schedule block)).foldl round x)

/-- The bytes filled up to whole blocks of 128: a set bit, zeros, and the length in bits. -/
def pad (bytes : List UInt8) : List UInt8 :=
  bytes ++ 0x80 :: List.replicate ((239 - bytes.length % 128) % 128) 0 ++
    bigEndian 16 (8 * bytes.length)

theorem length_pad (bytes : List UInt8) : (pad bytes).length % 128 = 0 := by
  simp only [pad, List.append_assoc, List.cons_append, List.length_append, List.length_cons,
    List.length_replicate, length_bigEndian]
  omega

/-- The words of a byte string, eight bytes each. -/
def words : List UInt8 → List UInt64
  | a :: b :: c :: d :: e :: f :: g :: h :: rest =>
      UInt64.ofNat ([a, b, c, d, e, f, g, h].foldl (fun n byte => n * 256 + byte.toNat) 0) ::
        words rest
  | _ => []

/-- Goes through so many blocks of 16 words. -/
def absorb : (blocks : Nat) → Chain → List UInt64 → Chain
  | 0, x, _ => x
  | blocks + 1, x, words => absorb blocks (compress x (words.take 16)) (words.drop 16)

/-- The words that are carried out of the last block. -/
def digestWords (first : Chain) (bytes : List UInt8) : List UInt64 :=
  let padded := words (pad bytes)
  (absorb (padded.length / 16) first padded).words

def ofWords (words : List UInt64) : List UInt8 := words.flatMap fun word => bigEndian 8 word.toNat

end Long

/-- The digest of 64 bytes. -/
def sha512 (bytes : List UInt8) : List UInt8 := Long.ofWords (Long.digestWords .first bytes)

/-- The digest of 48 bytes. -/
def sha384 (bytes : List UInt8) : List UInt8 :=
  Long.ofWords ((Long.digestWords .firstShort bytes).take 6)

end Outreach.Digest
