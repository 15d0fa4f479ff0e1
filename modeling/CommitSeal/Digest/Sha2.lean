import CommitSeal.Digest.Construction

/-!
# The SHA-2 family

SHA-224 and SHA-256 work on 32-bit words, SHA-384 and SHA-512 on 64-bit words. Signatures made here
are over SHA-256; signatures checked here name any of the four.
-/

namespace CommitSeal.Digest

/-! ## 32-bit words -/

namespace Sha256

/-- The eight words of the chaining value. -/
structure Chain where
  a : UInt32
  b : UInt32
  c : UInt32
  d : UInt32
  e : UInt32
  f : UInt32
  g : UInt32
  h : UInt32

/-- The round constants: the first 32 bits of the fractional parts of the cube roots of the first
64 primes. -/
def constants : List UInt32 :=
  [0x428A2F98, 0x71374491, 0xB5C0FBCF, 0xE9B5DBA5, 0x3956C25B, 0x59F111F1,
   0x923F82A4, 0xAB1C5ED5, 0xD807AA98, 0x12835B01, 0x243185BE, 0x550C7DC3,
   0x72BE5D74, 0x80DEB1FE, 0x9BDC06A7, 0xC19BF174, 0xE49B69C1, 0xEFBE4786,
   0x0FC19DC6, 0x240CA1CC, 0x2DE92C6F, 0x4A7484AA, 0x5CB0A9DC, 0x76F988DA,
   0x983E5152, 0xA831C66D, 0xB00327C8, 0xBF597FC7, 0xC6E00BF3, 0xD5A79147,
   0x06CA6351, 0x14292967, 0x27B70A85, 0x2E1B2138, 0x4D2C6DFC, 0x53380D13,
   0x650A7354, 0x766A0ABB, 0x81C2C92E, 0x92722C85, 0xA2BFE8A1, 0xA81A664B,
   0xC24B8B70, 0xC76C51A3, 0xD192E819, 0xD6990624, 0xF40E3585, 0x106AA070,
   0x19A4C116, 0x1E376C08, 0x2748774C, 0x34B0BCB5, 0x391C0CB3, 0x4ED8AA4A,
   0x5B9CCA4F, 0x682E6FF3, 0x748F82EE, 0x78A5636F, 0x84C87814, 0x8CC70208,
   0x90BEFFFA, 0xA4506CEB, 0xBEF9A3F7, 0xC67178F2]

/-- One round for each constant, over a window of the schedule that starts with `w0`. -/
def rounds : (constants : List UInt32) →
    (w0 w1 w2 w3 w4 w5 w6 w7 w8 w9 w10 w11 w12 w13 w14 w15 : UInt32) →
    (a b c d e f g h : UInt32) → Chain
  | [], _, _, _, _, _, _, _, _, _, _, _, _, _, _, _, _, a, b, c, d, e, f, g, h =>
    ⟨a, b, c, d, e, f, g, h⟩
  | k :: ks, w0, w1, w2, w3, w4, w5, w6, w7, w8, w9, w10, w11, w12, w13, w14, w15,
      a, b, c, d, e, f, g, h =>
    let next := (rotr32 w14 17 ^^^ rotr32 w14 19 ^^^ w14 >>> 10) + w9
      + (rotr32 w1 7 ^^^ rotr32 w1 18 ^^^ w1 >>> 3) + w0
    let first := h + (rotr32 e 6 ^^^ rotr32 e 11 ^^^ rotr32 e 25)
      + ((e &&& f) ^^^ (~~~e &&& g)) + k + w0
    let second := (rotr32 a 2 ^^^ rotr32 a 13 ^^^ rotr32 a 22)
      + ((a &&& b) ^^^ (a &&& c) ^^^ (b &&& c))
    rounds ks w1 w2 w3 w4 w5 w6 w7 w8 w9 w10 w11 w12 w13 w14 w15 next
      (first + second) a b c (d + first) e f g

/-- One block folded into the chaining value. -/
def compress (chain : Chain) (block : Octets) : Chain :=
  match words32 block with
  | [w0, w1, w2, w3, w4, w5, w6, w7, w8, w9, w10, w11, w12, w13, w14, w15] =>
    match chain with
    | ⟨a, b, c, d, e, f, g, h⟩ =>
      match rounds constants w0 w1 w2 w3 w4 w5 w6 w7 w8 w9 w10 w11 w12 w13 w14 w15
          a b c d e f g h with
      | ⟨a', b', c', d', e', f', g', h'⟩ =>
        ⟨a + a', b + b', c + c', d + d', e + e', f + f', g + g', h + h'⟩
  | _ => chain

/-- The octets of a chaining value. -/
def Chain.octets (chain : Chain) : Octets :=
  octets32 chain.a ++ octets32 chain.b ++ octets32 chain.c ++ octets32 chain.d
    ++ octets32 chain.e ++ octets32 chain.f ++ octets32 chain.g ++ octets32 chain.h

/-- The construction from a starting value, with the digest cut to `length` octets. -/
def construction (start : Chain) (length : Nat) : Construction Chain where
  blockLength := 64
  lengthWidth := 8
  start := start
  compress := compress
  output chain := chain.octets.take length

end Sha256

/-! ## 64-bit words -/

namespace Sha512

/-- The eight words of the chaining value. -/
structure Chain where
  a : UInt64
  b : UInt64
  c : UInt64
  d : UInt64
  e : UInt64
  f : UInt64
  g : UInt64
  h : UInt64

/-- The round constants: the first 64 bits of the fractional parts of the cube roots of the first
80 primes. -/
def constants : List UInt64 :=
  [0x428A2F98D728AE22, 0x7137449123EF65CD, 0xB5C0FBCFEC4D3B2F,
   0xE9B5DBA58189DBBC, 0x3956C25BF348B538, 0x59F111F1B605D019,
   0x923F82A4AF194F9B, 0xAB1C5ED5DA6D8118, 0xD807AA98A3030242,
   0x12835B0145706FBE, 0x243185BE4EE4B28C, 0x550C7DC3D5FFB4E2,
   0x72BE5D74F27B896F, 0x80DEB1FE3B1696B1, 0x9BDC06A725C71235,
   0xC19BF174CF692694, 0xE49B69C19EF14AD2, 0xEFBE4786384F25E3,
   0x0FC19DC68B8CD5B5, 0x240CA1CC77AC9C65, 0x2DE92C6F592B0275,
   0x4A7484AA6EA6E483, 0x5CB0A9DCBD41FBD4, 0x76F988DA831153B5,
   0x983E5152EE66DFAB, 0xA831C66D2DB43210, 0xB00327C898FB213F,
   0xBF597FC7BEEF0EE4, 0xC6E00BF33DA88FC2, 0xD5A79147930AA725,
   0x06CA6351E003826F, 0x142929670A0E6E70, 0x27B70A8546D22FFC,
   0x2E1B21385C26C926, 0x4D2C6DFC5AC42AED, 0x53380D139D95B3DF,
   0x650A73548BAF63DE, 0x766A0ABB3C77B2A8, 0x81C2C92E47EDAEE6,
   0x92722C851482353B, 0xA2BFE8A14CF10364, 0xA81A664BBC423001,
   0xC24B8B70D0F89791, 0xC76C51A30654BE30, 0xD192E819D6EF5218,
   0xD69906245565A910, 0xF40E35855771202A, 0x106AA07032BBD1B8,
   0x19A4C116B8D2D0C8, 0x1E376C085141AB53, 0x2748774CDF8EEB99,
   0x34B0BCB5E19B48A8, 0x391C0CB3C5C95A63, 0x4ED8AA4AE3418ACB,
   0x5B9CCA4F7763E373, 0x682E6FF3D6B2B8A3, 0x748F82EE5DEFB2FC,
   0x78A5636F43172F60, 0x84C87814A1F0AB72, 0x8CC702081A6439EC,
   0x90BEFFFA23631E28, 0xA4506CEBDE82BDE9, 0xBEF9A3F7B2C67915,
   0xC67178F2E372532B, 0xCA273ECEEA26619C, 0xD186B8C721C0C207,
   0xEADA7DD6CDE0EB1E, 0xF57D4F7FEE6ED178, 0x06F067AA72176FBA,
   0x0A637DC5A2C898A6, 0x113F9804BEF90DAE, 0x1B710B35131C471B,
   0x28DB77F523047D84, 0x32CAAB7B40C72493, 0x3C9EBE0A15C9BEBC,
   0x431D67C49C100D4C, 0x4CC5D4BECB3E42B6, 0x597F299CFC657E2A,
   0x5FCB6FAB3AD6FAEC, 0x6C44198C4A475817]

/-- One round for each constant, over a window of the schedule that starts with `w0`. -/
def rounds : (constants : List UInt64) →
    (w0 w1 w2 w3 w4 w5 w6 w7 w8 w9 w10 w11 w12 w13 w14 w15 : UInt64) →
    (a b c d e f g h : UInt64) → Chain
  | [], _, _, _, _, _, _, _, _, _, _, _, _, _, _, _, _, a, b, c, d, e, f, g, h =>
    ⟨a, b, c, d, e, f, g, h⟩
  | k :: ks, w0, w1, w2, w3, w4, w5, w6, w7, w8, w9, w10, w11, w12, w13, w14, w15,
      a, b, c, d, e, f, g, h =>
    let next := (rotr64 w14 19 ^^^ rotr64 w14 61 ^^^ w14 >>> 6) + w9
      + (rotr64 w1 1 ^^^ rotr64 w1 8 ^^^ w1 >>> 7) + w0
    let first := h + (rotr64 e 14 ^^^ rotr64 e 18 ^^^ rotr64 e 41)
      + ((e &&& f) ^^^ (~~~e &&& g)) + k + w0
    let second := (rotr64 a 28 ^^^ rotr64 a 34 ^^^ rotr64 a 39)
      + ((a &&& b) ^^^ (a &&& c) ^^^ (b &&& c))
    rounds ks w1 w2 w3 w4 w5 w6 w7 w8 w9 w10 w11 w12 w13 w14 w15 next
      (first + second) a b c (d + first) e f g

/-- One block folded into the chaining value. -/
def compress (chain : Chain) (block : Octets) : Chain :=
  match words64 block with
  | [w0, w1, w2, w3, w4, w5, w6, w7, w8, w9, w10, w11, w12, w13, w14, w15] =>
    match chain with
    | ⟨a, b, c, d, e, f, g, h⟩ =>
      match rounds constants w0 w1 w2 w3 w4 w5 w6 w7 w8 w9 w10 w11 w12 w13 w14 w15
          a b c d e f g h with
      | ⟨a', b', c', d', e', f', g', h'⟩ =>
        ⟨a + a', b + b', c + c', d + d', e + e', f + f', g + g', h + h'⟩
  | _ => chain

/-- The octets of a chaining value. -/
def Chain.octets (chain : Chain) : Octets :=
  octets64 chain.a ++ octets64 chain.b ++ octets64 chain.c ++ octets64 chain.d
    ++ octets64 chain.e ++ octets64 chain.f ++ octets64 chain.g ++ octets64 chain.h

/-- The construction from a starting value, with the digest cut to `length` octets. -/
def construction (start : Chain) (length : Nat) : Construction Chain where
  blockLength := 128
  lengthWidth := 16
  start := start
  compress := compress
  output chain := chain.octets.take length

end Sha512

/-! ## The members of the family -/

/-- The construction of SHA-224. -/
def sha224Construction : Construction Sha256.Chain :=
  Sha256.construction
    ⟨0xC1059ED8, 0x367CD507, 0x3070DD17, 0xF70E5939,
    0xFFC00B31, 0x68581511, 0x64F98FA7, 0xBEFA4FA4⟩ 28

/-- The construction of SHA-256. -/
def sha256Construction : Construction Sha256.Chain :=
  Sha256.construction
    ⟨0x6A09E667, 0xBB67AE85, 0x3C6EF372, 0xA54FF53A,
    0x510E527F, 0x9B05688C, 0x1F83D9AB, 0x5BE0CD19⟩ 32

/-- The construction of SHA-384. -/
def sha384Construction : Construction Sha512.Chain :=
  Sha512.construction
    ⟨0xCBBB9D5DC1059ED8, 0x629A292A367CD507, 0x9159015A3070DD17, 0x152FECD8F70E5939,
    0x67332667FFC00B31, 0x8EB44A8768581511, 0xDB0C2E0D64F98FA7, 0x47B5481DBEFA4FA4⟩ 48

/-- The construction of SHA-512. -/
def sha512Construction : Construction Sha512.Chain :=
  Sha512.construction
    ⟨0x6A09E667F3BCC908, 0xBB67AE8584CAA73B, 0x3C6EF372FE94F82B, 0xA54FF53A5F1D36F1,
    0x510E527FADE682D1, 0x9B05688C2B3E6C1F, 0x1F83D9ABFB41BD6B, 0x5BE0CD19137E2179⟩ 64

/-- The SHA-224 digest of a message, 28 octets. -/
def sha224 (message : Octets) : Octets := sha224Construction.digest message

/-- The SHA-256 digest of a message, 32 octets. -/
def sha256 (message : Octets) : Octets := sha256Construction.digest message

/-- The SHA-384 digest of a message, 48 octets. -/
def sha384 (message : Octets) : Octets := sha384Construction.digest message

/-- The SHA-512 digest of a message, 64 octets. -/
def sha512 (message : Octets) : Octets := sha512Construction.digest message

end CommitSeal.Digest
