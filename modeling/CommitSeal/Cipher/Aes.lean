import CommitSeal.Octets.Basic

/-!
# AES

The block cipher with keys of 16, 24 or 32 octets. A block is four columns of four octets. Every
step of encryption stands beside the step of decryption that undoes it: `substitute` and
`unsubstitute`, `shiftRows` and `unshiftRows`, `mixColumns` and `unmixColumns`; adding a round key
undoes itself. `Aes.backward` runs the undoing steps in the opposite order of `Aes.forward`.
-/

namespace CommitSeal.Cipher

/-- A column of a block. -/
structure Column where
  r0 : UInt8
  r1 : UInt8
  r2 : UInt8
  r3 : UInt8
  deriving DecidableEq, Repr

/-- A block of 16 octets, column after column. -/
structure Block where
  c0 : Column
  c1 : Column
  c2 : Column
  c3 : Column
  deriving DecidableEq, Repr

/-! ## Columns and blocks -/

namespace Column

/-- The column of zeros. -/
def zero : Column := ⟨0, 0, 0, 0⟩

/-- Octetwise exclusive or. -/
def xor (a b : Column) : Column := ⟨a.r0 ^^^ b.r0, a.r1 ^^^ b.r1, a.r2 ^^^ b.r2, a.r3 ^^^ b.r3⟩

/-- A function applied to every octet. -/
def map (f : UInt8 → UInt8) (a : Column) : Column := ⟨f a.r0, f a.r1, f a.r2, f a.r3⟩

/-- The octets from top to bottom. -/
def octets (a : Column) : Octets := [a.r0, a.r1, a.r2, a.r3]

end Column

namespace Block

/-- The block of zeros. -/
def zero : Block := ⟨.zero, .zero, .zero, .zero⟩

/-- Octetwise exclusive or. -/
def xor (a b : Block) : Block := ⟨a.c0.xor b.c0, a.c1.xor b.c1, a.c2.xor b.c2, a.c3.xor b.c3⟩

/-- A function applied to every octet. -/
def map (f : UInt8 → UInt8) (a : Block) : Block := ⟨a.c0.map f, a.c1.map f, a.c2.map f, a.c3.map f⟩

/-- The 16 octets of a block. -/
def octets (a : Block) : Octets := a.c0.octets ++ a.c1.octets ++ a.c2.octets ++ a.c3.octets

/-- The block of 16 octets; of any other number, the block of zeros. -/
def ofOctets : Octets → Block
  | [a, b, c, d, e, f, g, h, i, j, k, l, m, n, o, p] =>
    ⟨⟨a, b, c, d⟩, ⟨e, f, g, h⟩, ⟨i, j, k, l⟩, ⟨m, n, o, p⟩⟩
  | _ => zero

/-- Cuts octets into blocks; what is left over is shorter than a block. -/
def split : Octets → List Block × Octets
  | a :: b :: c :: d :: e :: f :: g :: h :: i :: j :: k :: l :: m :: n :: o :: p :: rest =>
    let (blocks, left) := split rest
    (⟨⟨a, b, c, d⟩, ⟨e, f, g, h⟩, ⟨i, j, k, l⟩, ⟨m, n, o, p⟩⟩ :: blocks, left)
  | left => ([], left)

/-- The octets of blocks, one behind the other. -/
def join (blocks : List Block) : Octets := blocks.flatMap octets

end Block

/-! ## The field of octets -/

namespace Aes

/-- An octet doubled in the field with 256 elements. -/
def double (a : UInt8) : UInt8 := a <<< 1 ^^^ (if a < 0x80 then 0 else 0x1B)

/-- An octet tripled. -/
def triple (a : UInt8) : UInt8 := double a ^^^ a

/-- The substitution: inversion in the field, followed by an affine map. -/
def substitution : Array UInt8 :=
  #[0x63, 0x7C, 0x77, 0x7B, 0xF2, 0x6B, 0x6F, 0xC5, 0x30, 0x01, 0x67, 0x2B, 0xFE, 0xD7, 0xAB, 0x76,
    0xCA, 0x82, 0xC9, 0x7D, 0xFA, 0x59, 0x47, 0xF0, 0xAD, 0xD4, 0xA2, 0xAF, 0x9C, 0xA4, 0x72, 0xC0,
    0xB7, 0xFD, 0x93, 0x26, 0x36, 0x3F, 0xF7, 0xCC, 0x34, 0xA5, 0xE5, 0xF1, 0x71, 0xD8, 0x31, 0x15,
    0x04, 0xC7, 0x23, 0xC3, 0x18, 0x96, 0x05, 0x9A, 0x07, 0x12, 0x80, 0xE2, 0xEB, 0x27, 0xB2, 0x75,
    0x09, 0x83, 0x2C, 0x1A, 0x1B, 0x6E, 0x5A, 0xA0, 0x52, 0x3B, 0xD6, 0xB3, 0x29, 0xE3, 0x2F, 0x84,
    0x53, 0xD1, 0x00, 0xED, 0x20, 0xFC, 0xB1, 0x5B, 0x6A, 0xCB, 0xBE, 0x39, 0x4A, 0x4C, 0x58, 0xCF,
    0xD0, 0xEF, 0xAA, 0xFB, 0x43, 0x4D, 0x33, 0x85, 0x45, 0xF9, 0x02, 0x7F, 0x50, 0x3C, 0x9F, 0xA8,
    0x51, 0xA3, 0x40, 0x8F, 0x92, 0x9D, 0x38, 0xF5, 0xBC, 0xB6, 0xDA, 0x21, 0x10, 0xFF, 0xF3, 0xD2,
    0xCD, 0x0C, 0x13, 0xEC, 0x5F, 0x97, 0x44, 0x17, 0xC4, 0xA7, 0x7E, 0x3D, 0x64, 0x5D, 0x19, 0x73,
    0x60, 0x81, 0x4F, 0xDC, 0x22, 0x2A, 0x90, 0x88, 0x46, 0xEE, 0xB8, 0x14, 0xDE, 0x5E, 0x0B, 0xDB,
    0xE0, 0x32, 0x3A, 0x0A, 0x49, 0x06, 0x24, 0x5C, 0xC2, 0xD3, 0xAC, 0x62, 0x91, 0x95, 0xE4, 0x79,
    0xE7, 0xC8, 0x37, 0x6D, 0x8D, 0xD5, 0x4E, 0xA9, 0x6C, 0x56, 0xF4, 0xEA, 0x65, 0x7A, 0xAE, 0x08,
    0xBA, 0x78, 0x25, 0x2E, 0x1C, 0xA6, 0xB4, 0xC6, 0xE8, 0xDD, 0x74, 0x1F, 0x4B, 0xBD, 0x8B, 0x8A,
    0x70, 0x3E, 0xB5, 0x66, 0x48, 0x03, 0xF6, 0x0E, 0x61, 0x35, 0x57, 0xB9, 0x86, 0xC1, 0x1D, 0x9E,
    0xE1, 0xF8, 0x98, 0x11, 0x69, 0xD9, 0x8E, 0x94, 0x9B, 0x1E, 0x87, 0xE9, 0xCE, 0x55, 0x28, 0xDF,
    0x8C, 0xA1, 0x89, 0x0D, 0xBF, 0xE6, 0x42, 0x68, 0x41, 0x99, 0x2D, 0x0F, 0xB0, 0x54, 0xBB, 0x16]

/-- The substitution undone. -/
def unsubstitution : Array UInt8 :=
  #[0x52, 0x09, 0x6A, 0xD5, 0x30, 0x36, 0xA5, 0x38, 0xBF, 0x40, 0xA3, 0x9E, 0x81, 0xF3, 0xD7, 0xFB,
    0x7C, 0xE3, 0x39, 0x82, 0x9B, 0x2F, 0xFF, 0x87, 0x34, 0x8E, 0x43, 0x44, 0xC4, 0xDE, 0xE9, 0xCB,
    0x54, 0x7B, 0x94, 0x32, 0xA6, 0xC2, 0x23, 0x3D, 0xEE, 0x4C, 0x95, 0x0B, 0x42, 0xFA, 0xC3, 0x4E,
    0x08, 0x2E, 0xA1, 0x66, 0x28, 0xD9, 0x24, 0xB2, 0x76, 0x5B, 0xA2, 0x49, 0x6D, 0x8B, 0xD1, 0x25,
    0x72, 0xF8, 0xF6, 0x64, 0x86, 0x68, 0x98, 0x16, 0xD4, 0xA4, 0x5C, 0xCC, 0x5D, 0x65, 0xB6, 0x92,
    0x6C, 0x70, 0x48, 0x50, 0xFD, 0xED, 0xB9, 0xDA, 0x5E, 0x15, 0x46, 0x57, 0xA7, 0x8D, 0x9D, 0x84,
    0x90, 0xD8, 0xAB, 0x00, 0x8C, 0xBC, 0xD3, 0x0A, 0xF7, 0xE4, 0x58, 0x05, 0xB8, 0xB3, 0x45, 0x06,
    0xD0, 0x2C, 0x1E, 0x8F, 0xCA, 0x3F, 0x0F, 0x02, 0xC1, 0xAF, 0xBD, 0x03, 0x01, 0x13, 0x8A, 0x6B,
    0x3A, 0x91, 0x11, 0x41, 0x4F, 0x67, 0xDC, 0xEA, 0x97, 0xF2, 0xCF, 0xCE, 0xF0, 0xB4, 0xE6, 0x73,
    0x96, 0xAC, 0x74, 0x22, 0xE7, 0xAD, 0x35, 0x85, 0xE2, 0xF9, 0x37, 0xE8, 0x1C, 0x75, 0xDF, 0x6E,
    0x47, 0xF1, 0x1A, 0x71, 0x1D, 0x29, 0xC5, 0x89, 0x6F, 0xB7, 0x62, 0x0E, 0xAA, 0x18, 0xBE, 0x1B,
    0xFC, 0x56, 0x3E, 0x4B, 0xC6, 0xD2, 0x79, 0x20, 0x9A, 0xDB, 0xC0, 0xFE, 0x78, 0xCD, 0x5A, 0xF4,
    0x1F, 0xDD, 0xA8, 0x33, 0x88, 0x07, 0xC7, 0x31, 0xB1, 0x12, 0x10, 0x59, 0x27, 0x80, 0xEC, 0x5F,
    0x60, 0x51, 0x7F, 0xA9, 0x19, 0xB5, 0x4A, 0x0D, 0x2D, 0xE5, 0x7A, 0x9F, 0x93, 0xC9, 0x9C, 0xEF,
    0xA0, 0xE0, 0x3B, 0x4D, 0xAE, 0x2A, 0xF5, 0xB0, 0xC8, 0xEB, 0xBB, 0x3C, 0x83, 0x53, 0x99, 0x61,
    0x17, 0x2B, 0x04, 0x7E, 0xBA, 0x77, 0xD6, 0x26, 0xE1, 0x69, 0x14, 0x63, 0x55, 0x21, 0x0C, 0x7D]

/-- The substitute of an octet. -/
def substitute (a : UInt8) : UInt8 := substitution.getD a.toNat 0

/-- The octet with a given substitute. -/
def unsubstitute (a : UInt8) : UInt8 := unsubstitution.getD a.toNat 0

/-! ## The steps of a round -/

/-- Rows move to the left, each by its index. -/
def shiftRows (a : Block) : Block :=
  ⟨⟨a.c0.r0, a.c1.r1, a.c2.r2, a.c3.r3⟩, ⟨a.c1.r0, a.c2.r1, a.c3.r2, a.c0.r3⟩,
   ⟨a.c2.r0, a.c3.r1, a.c0.r2, a.c1.r3⟩, ⟨a.c3.r0, a.c0.r1, a.c1.r2, a.c2.r3⟩⟩

/-- Rows move to the right, each by its index. -/
def unshiftRows (a : Block) : Block :=
  ⟨⟨a.c0.r0, a.c3.r1, a.c2.r2, a.c1.r3⟩, ⟨a.c1.r0, a.c0.r1, a.c3.r2, a.c2.r3⟩,
   ⟨a.c2.r0, a.c1.r1, a.c0.r2, a.c3.r3⟩, ⟨a.c3.r0, a.c2.r1, a.c1.r2, a.c0.r3⟩⟩

/-- A column multiplied by the polynomial with coefficients 2, 1, 1, 3. -/
def mixColumn (a : Column) : Column :=
  ⟨double a.r0 ^^^ triple a.r1 ^^^ a.r2 ^^^ a.r3, a.r0 ^^^ double a.r1 ^^^ triple a.r2 ^^^ a.r3,
   a.r0 ^^^ a.r1 ^^^ double a.r2 ^^^ triple a.r3, triple a.r0 ^^^ a.r1 ^^^ a.r2 ^^^ double a.r3⟩

/-- An octet multiplied by 9. -/
def times9 (a : UInt8) : UInt8 := double (double (double a)) ^^^ a

/-- An octet multiplied by 11. -/
def times11 (a : UInt8) : UInt8 := double (double (double a)) ^^^ double a ^^^ a

/-- An octet multiplied by 13. -/
def times13 (a : UInt8) : UInt8 := double (double (double a)) ^^^ double (double a) ^^^ a

/-- An octet multiplied by 14. -/
def times14 (a : UInt8) : UInt8 := double (double (double a)) ^^^ double (double a) ^^^ double a

/-- A column multiplied by the polynomial with coefficients 14, 9, 13, 11, which undoes
`mixColumn`. -/
def unmixColumn (a : Column) : Column :=
  ⟨times14 a.r0 ^^^ times11 a.r1 ^^^ times13 a.r2 ^^^ times9 a.r3,
   times9 a.r0 ^^^ times14 a.r1 ^^^ times11 a.r2 ^^^ times13 a.r3,
   times13 a.r0 ^^^ times9 a.r1 ^^^ times14 a.r2 ^^^ times11 a.r3,
   times11 a.r0 ^^^ times13 a.r1 ^^^ times9 a.r2 ^^^ times14 a.r3⟩

/-- Every column mixed. -/
def mixColumns (a : Block) : Block :=
  ⟨mixColumn a.c0, mixColumn a.c1, mixColumn a.c2, mixColumn a.c3⟩

/-- Every column unmixed. -/
def unmixColumns (a : Block) : Block :=
  ⟨unmixColumn a.c0, unmixColumn a.c1, unmixColumn a.c2, unmixColumn a.c3⟩

/-! ## The key schedule -/

/-- The octets of a column moved up by one. -/
def rotate (a : Column) : Column := ⟨a.r1, a.r2, a.r3, a.r0⟩

/-- The columns of a key. -/
def keyColumns : Octets → List Column
  | a :: b :: c :: d :: rest => ⟨a, b, c, d⟩ :: keyColumns rest
  | _ => []

/-- Appends `left` columns to a schedule. `schedule` holds the columns so far, last first, and
`index` is how many they are; `size` is the number of columns of the key. -/
def expand (size : Nat) : (left index : Nat) → (round : UInt8) → (schedule : List Column) →
    List Column
  | 0, _, _, schedule => schedule.reverse
  | left + 1, index, round, schedule =>
    let last := schedule.headD .zero
    let back := schedule.getD (size - 1) .zero
    if index % size = 0 then
      let turned := (rotate last).map substitute
      expand size left (index + 1) (double round)
        (back.xor (turned.xor ⟨round, 0, 0, 0⟩) :: schedule)
    else if 6 < size ∧ index % size = 4 then
      expand size left (index + 1) round (back.xor (last.map substitute) :: schedule)
    else expand size left (index + 1) round (back.xor last :: schedule)

/-- Four columns to a round key. -/
def roundKeysOf : List Column → List Block
  | a :: b :: c :: d :: rest => ⟨a, b, c, d⟩ :: roundKeysOf rest
  | _ => []

/-- The round keys of a key of 16, 24 or 32 octets: 11, 13 or 15. -/
def roundKeys (key : Octets) : List Block :=
  let columns := keyColumns key
  let size := columns.length
  roundKeysOf (expand size (4 * (size + 7) - size) size 1 columns.reverse)

/-! ## Encryption and decryption -/

/-- The rounds of encryption, one for each key; the last one mixes no columns. -/
def forward : List Block → Block → Block
  | [], state => state
  | [key], state => key.xor (shiftRows (state.map substitute))
  | key :: keys, state => forward keys (key.xor (mixColumns (shiftRows (state.map substitute))))

/-- The rounds of decryption, which undo those of `forward`. -/
def backward : List Block → Block → Block
  | [], state => state
  | [key], state => (unshiftRows (key.xor state)).map unsubstitute
  | key :: keys, state =>
    (unshiftRows (unmixColumns (key.xor (backward keys state)))).map unsubstitute

/-- Encrypts a block under round keys. -/
def encrypt (keys : List Block) (plain : Block) : Block :=
  match keys with
  | [] => plain
  | key :: keys => forward keys (key.xor plain)

/-- Decrypts a block under round keys. -/
def decrypt (keys : List Block) (cipher : Block) : Block :=
  match keys with
  | [] => cipher
  | key :: keys => key.xor (backward keys cipher)

end Aes

end CommitSeal.Cipher
