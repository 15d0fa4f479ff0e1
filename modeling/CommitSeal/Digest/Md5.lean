import CommitSeal.Digest.Construction

/-!
# MD5

Old signatures and old secret keys name MD5, which is no longer strong. A block is sixteen words,
the octets of lower weight first, and is worked through four times in different orders.
-/

namespace CommitSeal.Digest.Md5

/-- The four words of the chaining value. -/
structure Chain where
  a : UInt32
  b : UInt32
  c : UInt32
  d : UInt32

/-- The constants of the rounds: the sines of 1, 2, 3 and so on, scaled. -/
def constants : Array UInt32 :=
  #[0xD76AA478, 0xE8C7B756, 0x242070DB, 0xC1BDCEEE, 0xF57C0FAF, 0x4787C62A,
    0xA8304613, 0xFD469501, 0x698098D8, 0x8B44F7AF, 0xFFFF5BB1, 0x895CD7BE,
    0x6B901122, 0xFD987193, 0xA679438E, 0x49B40821, 0xF61E2562, 0xC040B340,
    0x265E5A51, 0xE9B6C7AA, 0xD62F105D, 0x02441453, 0xD8A1E681, 0xE7D3FBC8,
    0x21E1CDE6, 0xC33707D6, 0xF4D50D87, 0x455A14ED, 0xA9E3E905, 0xFCEFA3F8,
    0x676F02D9, 0x8D2A4C8A, 0xFFFA3942, 0x8771F681, 0x6D9D6122, 0xFDE5380C,
    0xA4BEEA44, 0x4BDECFA9, 0xF6BB4B60, 0xBEBFBC70, 0x289B7EC6, 0xEAA127FA,
    0xD4EF3085, 0x04881D05, 0xD9D4D039, 0xE6DB99E5, 0x1FA27CF8, 0xC4AC5665,
    0xF4292244, 0x432AFF97, 0xAB9423A7, 0xFC93A039, 0x655B59C3, 0x8F0CCC92,
    0xFFEFF47D, 0x85845DD1, 0x6FA87E4F, 0xFE2CE6E0, 0xA3014314, 0x4E0811A1,
    0xF7537E82, 0xBD3AF235, 0x2AD7D2BB, 0xEB86D391]

/-- How far words are rotated in the four rounds of each quarter in turn. -/
def rotations : Array UInt32 := #[7, 12, 17, 22, 5, 9, 14, 20, 4, 11, 16, 23, 6, 10, 15, 21]

/-- The round function of a quarter. -/
@[inline] def mix (quarter : Nat) (b c d : UInt32) : UInt32 :=
  if quarter = 0 then (b &&& c) ||| (~~~b &&& d)
  else if quarter = 1 then (d &&& b) ||| (~~~d &&& c)
  else if quarter = 2 then b ^^^ c ^^^ d
  else c ^^^ (b ||| ~~~d)

/-- The word of the block that a round takes. -/
@[inline] def place (quarter round : Nat) : Nat :=
  (if quarter = 0 then round
    else if quarter = 1 then 5 * round + 1
    else if quarter = 2 then 3 * round + 5
    else 7 * round) % 16

/-- One round. -/
def step (words : Array UInt32) (chain : Chain) (round : Nat) : Chain :=
  let quarter := round / 16
  let sum := chain.a + mix quarter chain.b chain.c chain.d + constants.getD round 0
    + words.getD (place quarter round) 0
  ⟨chain.d, chain.b + rotl32 sum (rotations.getD (4 * quarter + round % 4) 0), chain.b, chain.c⟩

/-- One block folded into the chaining value. -/
def compress (chain : Chain) (block : Octets) : Chain :=
  let last := (List.range 64).foldl (step (leWords32 block).toArray) chain
  ⟨chain.a + last.a, chain.b + last.b, chain.c + last.c, chain.d + last.d⟩

/-- The construction of MD5. -/
def construction : Construction Chain where
  blockLength := 64
  lengthWidth := 8
  lengthOctets := Octets.leOfNat 8
  start := ⟨0x67452301, 0xEFCDAB89, 0x98BADCFE, 0x10325476⟩
  compress := compress
  output chain :=
    leOctets32 chain.a ++ leOctets32 chain.b ++ leOctets32 chain.c ++ leOctets32 chain.d

end Md5

/-- The MD5 digest of a message, 16 octets. -/
def md5 (message : Octets) : Octets := Md5.construction.digest message

end CommitSeal.Digest
