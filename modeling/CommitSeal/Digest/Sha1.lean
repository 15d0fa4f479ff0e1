import CommitSeal.Digest.Construction

/-!
# SHA-1

Fingerprints of version 4 keys, keybox checksums, the string-to-key function of stored secret keys
and their authentication codes are all SHA-1.

The message schedule is a window of sixteen words that slides by one word a round. Window and
working variables are separate arguments of the round loop, so that the compiled loop keeps them in
registers: the string-to-key function hashes tens of millions of octets.
-/

namespace CommitSeal.Digest.Sha1

/-- The five words of the chaining value. -/
structure Chain where
  a : UInt32
  b : UInt32
  c : UInt32
  d : UInt32
  e : UInt32

/-- The round function of rounds 0 to 19, 20 to 39, 40 to 59 and 60 to 79, counted by how many
rounds are left, with its constant added. -/
@[inline] def mix (left : Nat) (b c d : UInt32) : UInt32 :=
  if 60 < left then ((b &&& c) ||| (~~~b &&& d)) + 0x5A827999
  else if 40 < left then (b ^^^ c ^^^ d) + 0x6ED9EBA1
  else if 20 < left then ((b &&& c) ||| (b &&& d) ||| (c &&& d)) + 0x8F1BBCDC
  else (b ^^^ c ^^^ d) + 0xCA62C1D6

/-- The rounds that are left, over a window of the schedule that starts with `w0`. -/
def rounds : (left : Nat) → (w0 w1 w2 w3 w4 w5 w6 w7 w8 w9 w10 w11 w12 w13 w14 w15 : UInt32) →
    (a b c d e : UInt32) → Chain
  | 0, _, _, _, _, _, _, _, _, _, _, _, _, _, _, _, _, a, b, c, d, e => ⟨a, b, c, d, e⟩
  | left + 1, w0, w1, w2, w3, w4, w5, w6, w7, w8, w9, w10, w11, w12, w13, w14, w15, a, b, c, d, e =>
    rounds left w1 w2 w3 w4 w5 w6 w7 w8 w9 w10 w11 w12 w13 w14 w15
      (rotl32 (w13 ^^^ w8 ^^^ w2 ^^^ w0) 1)
      (rotl32 a 5 + mix (left + 1) b c d + e + w0) a (rotl32 b 30) c d

/-- One block folded into the chaining value. -/
def compress (chain : Chain) (block : Octets) : Chain :=
  match words32 block with
  | [w0, w1, w2, w3, w4, w5, w6, w7, w8, w9, w10, w11, w12, w13, w14, w15] =>
    match chain with
    | ⟨a, b, c, d, e⟩ =>
      match rounds 80 w0 w1 w2 w3 w4 w5 w6 w7 w8 w9 w10 w11 w12 w13 w14 w15 a b c d e with
      | ⟨a', b', c', d', e'⟩ => ⟨a + a', b + b', c + c', d + d', e + e'⟩
  | _ => chain

/-- The construction of SHA-1. -/
def construction : Construction Chain where
  blockLength := 64
  lengthWidth := 8
  start := ⟨0x67452301, 0xEFCDAB89, 0x98BADCFE, 0x10325476, 0xC3D2E1F0⟩
  compress := compress
  output chain :=
    octets32 chain.a ++ octets32 chain.b ++ octets32 chain.c ++ octets32 chain.d ++ octets32 chain.e

end Sha1

/-- The SHA-1 digest of a message, 20 octets. -/
def sha1 (message : Octets) : Octets := Sha1.construction.digest message

end CommitSeal.Digest
