/-!
# SHA-256

The compression function on eight 32-bit words, and the digest of a byte
string.  A message is padded, read as big-endian words and absorbed sixteen
words at a time.  The message schedule is kept as a window of sixteen words that
slides by one in every round, so that a round needs no table.
-/

namespace Gatekeeper

namespace Hash

/-- The chaining value of SHA-256, and its digest. -/
structure Words where
  a : UInt32
  b : UInt32
  c : UInt32
  d : UInt32
  e : UInt32
  f : UInt32
  g : UInt32
  h : UInt32
deriving DecidableEq, Repr

namespace Words

@[inline] def add (x y : Words) : Words :=
  ⟨x.a + y.a, x.b + y.b, x.c + y.c, x.d + y.d, x.e + y.e, x.f + y.f, x.g + y.g, x.h + y.h⟩

@[inline] def xor (x y : Words) : Words :=
  ⟨x.a ^^^ y.a, x.b ^^^ y.b, x.c ^^^ y.c, x.d ^^^ y.d,
    x.e ^^^ y.e, x.f ^^^ y.f, x.g ^^^ y.g, x.h ^^^ y.h⟩

def toList (x : Words) : List UInt32 := [x.a, x.b, x.c, x.d, x.e, x.f, x.g, x.h]

def wordBytes (w : UInt32) : List UInt8 :=
  [(w >>> 24).toUInt8, (w >>> 16).toUInt8, (w >>> 8).toUInt8, w.toUInt8]

def toBytes (x : Words) : List UInt8 := x.toList.flatMap wordBytes

@[simp] theorem toBytes_length (x : Words) : x.toBytes.length = 32 := rfl

end Words

namespace Sha256

@[inline] def rotate (w : UInt32) (count : UInt32) : UInt32 :=
  (w >>> count) ||| (w <<< (32 - count))

@[inline] def choose (x y z : UInt32) : UInt32 := (x &&& y) ^^^ (x.complement &&& z)

@[inline] def majority (x y z : UInt32) : UInt32 := (x &&& y) ^^^ (x &&& z) ^^^ (y &&& z)

@[inline] def bigSigma0 (x : UInt32) : UInt32 := rotate x 2 ^^^ rotate x 13 ^^^ rotate x 22

@[inline] def bigSigma1 (x : UInt32) : UInt32 := rotate x 6 ^^^ rotate x 11 ^^^ rotate x 25

@[inline] def smallSigma0 (x : UInt32) : UInt32 := rotate x 7 ^^^ rotate x 18 ^^^ (x >>> 3)

@[inline] def smallSigma1 (x : UInt32) : UInt32 := rotate x 17 ^^^ rotate x 19 ^^^ (x >>> 10)

def initial : Words :=
  ⟨0x6a09e667, 0xbb67ae85, 0x3c6ef372, 0xa54ff53a, 0x510e527f, 0x9b05688c, 0x1f83d9ab, 0x5be0cd19⟩

def roundConstants : List UInt32 := [
  0x428a2f98, 0x71374491, 0xb5c0fbcf, 0xe9b5dba5, 0x3956c25b, 0x59f111f1, 0x923f82a4, 0xab1c5ed5,
  0xd807aa98, 0x12835b01, 0x243185be, 0x550c7dc3, 0x72be5d74, 0x80deb1fe, 0x9bdc06a7, 0xc19bf174,
  0xe49b69c1, 0xefbe4786, 0x0fc19dc6, 0x240ca1cc, 0x2de92c6f, 0x4a7484aa, 0x5cb0a9dc, 0x76f988da,
  0x983e5152, 0xa831c66d, 0xb00327c8, 0xbf597fc7, 0xc6e00bf3, 0xd5a79147, 0x06ca6351, 0x14292967,
  0x27b70a85, 0x2e1b2138, 0x4d2c6dfc, 0x53380d13, 0x650a7354, 0x766a0abb, 0x81c2c92e, 0x92722c85,
  0xa2bfe8a1, 0xa81a664b, 0xc24b8b70, 0xc76c51a3, 0xd192e819, 0xd6990624, 0xf40e3585, 0x106aa070,
  0x19a4c116, 0x1e376c08, 0x2748774c, 0x34b0bcb5, 0x391c0cb3, 0x4ed8aa4a, 0x5b9cca4f, 0x682e6ff3,
  0x748f82ee, 0x78a5636f, 0x84c87814, 0x8cc70208, 0x90befffa, 0xa4506ceb, 0xbef9a3f7, 0xc67178f2]

/--
One round for each constant.  `w0` to `w15` are the next sixteen words of the
message schedule; a round uses the first and appends the one after the last.
-/
def rounds : List UInt32 →
    (a b c d e f g h w0 w1 w2 w3 w4 w5 w6 w7 w8 w9 w10 w11 w12 w13 w14 w15 : UInt32) → Words
  | [], a, b, c, d, e, f, g, h, _, _, _, _, _, _, _, _, _, _, _, _, _, _, _, _ =>
      ⟨a, b, c, d, e, f, g, h⟩
  | k :: ks, a, b, c, d, e, f, g, h,
      w0, w1, w2, w3, w4, w5, w6, w7, w8, w9, w10, w11, w12, w13, w14, w15 =>
      let t1 := h + bigSigma1 e + choose e f g + k + w0
      let t2 := bigSigma0 a + majority a b c
      rounds ks (t1 + t2) a b c (d + t1) e f g
        w1 w2 w3 w4 w5 w6 w7 w8 w9 w10 w11 w12 w13 w14 w15
        (smallSigma1 w14 + w9 + smallSigma0 w1 + w0)

/-- The chaining value after one block of sixteen words. -/
@[inline] def compress (state : Words)
    (w0 w1 w2 w3 w4 w5 w6 w7 w8 w9 w10 w11 w12 w13 w14 w15 : UInt32) : Words :=
  state.add (rounds roundConstants state.a state.b state.c state.d state.e state.f state.g state.h
    w0 w1 w2 w3 w4 w5 w6 w7 w8 w9 w10 w11 w12 w13 w14 w15)

/-- Absorb the words of a message, sixteen at a time; an incomplete block at the end is ignored. -/
def absorb (state : Words) : List UInt32 → Words
  | w0 :: w1 :: w2 :: w3 :: w4 :: w5 :: w6 :: w7 ::
      w8 :: w9 :: w10 :: w11 :: w12 :: w13 :: w14 :: w15 :: rest =>
      absorb (compress state w0 w1 w2 w3 w4 w5 w6 w7 w8 w9 w10 w11 w12 w13 w14 w15) rest
  | _ => state

/-- Big-endian words of a byte string whose length is a multiple of four. -/
def bytesToWords : List UInt8 → List UInt32
  | p :: q :: r :: s :: rest =>
      ((p.toUInt32 <<< 24) ||| (q.toUInt32 <<< 16) ||| (r.toUInt32 <<< 8) ||| s.toUInt32)
        :: bytesToWords rest
  | _ => []

/-- The eight bytes of a bit length, most significant first. -/
def lengthBytes (bits : Nat) : List UInt8 :=
  [56, 48, 40, 32, 24, 16, 8, 0].map fun shift => UInt8.ofNat (bits >>> shift)

/--
What follows the last bytes of a message of `total` bytes: a one bit, zeros up
to eight bytes before the end of a block, and the length in bits.
-/
def padding (total : Nat) : List UInt8 :=
  0x80 :: (List.replicate ((119 - total % 64) % 64) 0 ++ lengthBytes (8 * total))

/--
The digest of a message whose first `absorbed` bytes (whole blocks) have led to
`state` and whose remaining bytes are `rest`.
-/
def finish (state : Words) (absorbed : Nat) (rest : List UInt8) : Words :=
  absorb state (bytesToWords (rest ++ padding (absorbed + rest.length)))

def hash (message : List UInt8) : Words := finish initial 0 message

end Sha256

end Hash

end Gatekeeper
