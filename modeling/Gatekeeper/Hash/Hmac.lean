import Gatekeeper.Hash.Sha256

/-!
# Keyed digests

HMAC over SHA-256.  A key enters the computation only through `keyBlock`, the 64
bytes it is brought to, so two keys with one key block give the same code for
every message.
-/

namespace Gatekeeper

namespace Hash

namespace Hmac

/-- A key longer than a block is replaced by its digest; a shorter one is filled up with zeros. -/
def keyBlock (key : List UInt8) : List UInt8 :=
  let key := if key.length ≤ 64 then key else (Sha256.hash key).toBytes
  key ++ List.replicate (64 - key.length) 0

/-- The chaining values after the two key blocks, from which every code under the key starts. -/
structure Key where
  inner : Words
  outer : Words

def ofBlock (block : List UInt8) : Key where
  inner := Sha256.absorb Sha256.initial (Sha256.bytesToWords (block.map (· ^^^ 0x36)))
  outer := Sha256.absorb Sha256.initial (Sha256.bytesToWords (block.map (· ^^^ 0x5c)))

def prepare (key : List UInt8) : Key := ofBlock (keyBlock key)

/-- Absorb a digest as the only block after a key block: 96 bytes in all, so 768 bits. -/
@[inline] def absorbDigest (state digest : Words) : Words :=
  Sha256.compress state digest.a digest.b digest.c digest.d digest.e digest.f digest.g digest.h
    0x80000000 0 0 0 0 0 0 768

def code (key : Key) (message : List UInt8) : Words :=
  absorbDigest key.outer (Sha256.finish key.inner 64 message)

/-- The code of a message that is itself a digest. -/
@[inline] def codeOfDigest (key : Key) (digest : Words) : Words :=
  absorbDigest key.outer (absorbDigest key.inner digest)

end Hmac

end Hash

end Gatekeeper
