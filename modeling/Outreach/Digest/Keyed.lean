import Outreach.Digest.Sha512

/-!
Digests under a key: the key is mixed into two blocks, of which one goes before the message and the
other before the digest of that.
-/

namespace Outreach.Digest

/-- A digest with the length of its blocks in bytes. -/
structure Method where
  blockLength : Nat
  digest : List UInt8 → List UInt8

def Method.sha256 : Method := ⟨64, Digest.sha256⟩

def Method.sha384 : Method := ⟨128, Digest.sha384⟩

def Method.sha512 : Method := ⟨128, Digest.sha512⟩

/-- A key as one block. -/
def keyBlock (method : Method) (key : List UInt8) : List UInt8 :=
  let short := if method.blockLength < key.length then method.digest key else key
  short ++ List.replicate (method.blockLength - short.length) 0

/-- The digest of a message under a key. -/
def keyed (method : Method) (key message : List UInt8) : List UInt8 :=
  let block := keyBlock method key
  method.digest (block.map (· ^^^ 0x5c) ++ method.digest (block.map (· ^^^ 0x36) ++ message))

end Outreach.Digest
