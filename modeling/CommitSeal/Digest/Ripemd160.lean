import CommitSeal.Digest.Construction

/-!
# RIPEMD-160

Some secret keys are sealed with RIPEMD-160. A block is worked through in two lines side by side,
five times each and in different orders, and the two are joined in the end.
-/

namespace CommitSeal.Digest.Ripemd160

/-- The five words of the chaining value. -/
structure Chain where
  a : UInt32
  b : UInt32
  c : UInt32
  d : UInt32
  e : UInt32

/-- The words of the block in the order in which the left line takes them. -/
def leftPlaces : Array Nat :=
  #[0, 1, 2, 3, 4, 5, 6, 7, 8, 9, 10, 11, 12, 13, 14, 15,
    7, 4, 13, 1, 10, 6, 15, 3, 12, 0, 9, 5, 2, 14, 11, 8,
    3, 10, 14, 4, 9, 15, 8, 1, 2, 7, 0, 6, 13, 11, 5, 12,
    1, 9, 11, 10, 0, 8, 12, 4, 13, 3, 7, 15, 14, 5, 6, 2,
    4, 0, 5, 9, 7, 12, 2, 10, 14, 1, 3, 8, 11, 6, 15, 13]

/-- The words of the block in the order in which the right line takes them. -/
def rightPlaces : Array Nat :=
  #[5, 14, 7, 0, 9, 2, 11, 4, 13, 6, 15, 8, 1, 10, 3, 12,
    6, 11, 3, 7, 0, 13, 5, 10, 14, 15, 8, 12, 4, 9, 1, 2,
    15, 5, 1, 3, 7, 14, 6, 9, 11, 8, 12, 2, 10, 0, 4, 13,
    8, 6, 4, 1, 3, 11, 15, 0, 5, 12, 2, 13, 9, 7, 10, 14,
    12, 15, 10, 4, 1, 5, 8, 7, 6, 2, 13, 14, 0, 3, 9, 11]

/-- How far each word of the block is rotated, in each of the five passes. -/
def rotations : Array UInt32 :=
  #[11, 14, 15, 12, 5, 8, 7, 9, 11, 13, 14, 15, 6, 7, 9, 8,
    12, 13, 11, 15, 6, 9, 9, 7, 12, 15, 11, 13, 7, 8, 7, 7,
    13, 15, 14, 11, 7, 7, 6, 8, 13, 14, 13, 12, 5, 5, 6, 9,
    14, 11, 12, 14, 8, 6, 5, 5, 15, 12, 15, 14, 9, 9, 8, 6,
    15, 12, 13, 13, 9, 5, 8, 6, 14, 11, 12, 11, 8, 6, 5, 5]

/-- The constants of the passes of the left line. -/
def leftConstants : Array UInt32 := #[0x00000000, 0x5A827999, 0x6ED9EBA1, 0x8F1BBCDC, 0xA953FD4E]

/-- The constants of the passes of the right line. -/
def rightConstants : Array UInt32 := #[0x50A28BE6, 0x5C4DD124, 0x6D703EF3, 0x7A6D76E9, 0x00000000]

/-- The round functions in the order in which the left line takes them. -/
@[inline] def mix (pass : Nat) (b c d : UInt32) : UInt32 :=
  if pass = 0 then b ^^^ c ^^^ d
  else if pass = 1 then (b &&& c) ||| (~~~b &&& d)
  else if pass = 2 then (b ||| ~~~c) ^^^ d
  else if pass = 3 then (b &&& d) ||| (c &&& ~~~d)
  else b ^^^ (c ||| ~~~d)

/-- One round of a line: its places and constants, and which round function a pass takes. -/
def step (places : Array Nat) (constants : Array UInt32) (order : Nat → Nat)
    (words : Array UInt32) (chain : Chain) (round : Nat) : Chain :=
  let pass := round / 16
  let place := places.getD round 0
  let sum := chain.a + mix (order pass) chain.b chain.c chain.d + words.getD place 0
    + constants.getD pass 0
  ⟨chain.e, rotl32 sum (rotations.getD (16 * pass + place) 0) + chain.e, chain.b,
    rotl32 chain.c 10, chain.d⟩

/-- One block folded into the chaining value. -/
def compress (chain : Chain) (block : Octets) : Chain :=
  let words := (leWords32 block).toArray
  let left := (List.range 80).foldl (step leftPlaces leftConstants id words) chain
  let right := (List.range 80).foldl (step rightPlaces rightConstants (4 - ·) words) chain
  ⟨chain.b + left.c + right.d, chain.c + left.d + right.e, chain.d + left.e + right.a,
    chain.e + left.a + right.b, chain.a + left.b + right.c⟩

/-- The construction of RIPEMD-160. -/
def construction : Construction Chain where
  blockLength := 64
  lengthWidth := 8
  lengthOctets := Octets.leOfNat 8
  start := ⟨0x67452301, 0xEFCDAB89, 0x98BADCFE, 0x10325476, 0xC3D2E1F0⟩
  compress := compress
  output chain :=
    leOctets32 chain.a ++ leOctets32 chain.b ++ leOctets32 chain.c ++ leOctets32 chain.d
      ++ leOctets32 chain.e

end Ripemd160

/-- The RIPEMD-160 digest of a message, 20 octets. -/
def ripemd160 (message : Octets) : Octets := Ripemd160.construction.digest message

end CommitSeal.Digest
