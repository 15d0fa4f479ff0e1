import CommitSeal.Cipher.Aes

/-!
# Authenticated encryption: OCB

The offset codebook mode with a nonce of 12 octets and a tag of 16. Each block is encrypted
between two additions of an offset that is its own; the tag covers the plaintext and the associated
data. `Ocb.decrypt?` gives the plaintext only if the tag fits, `Ocb.encrypt` makes what it accepts.
-/

namespace CommitSeal.Cipher.Ocb

/-- Octets of the tag. -/
def tagLength : Nat := 16

/-! ## Offsets -/

/-- A block doubled in the field with 2^128 elements. -/
def double (a : Block) : Block :=
  let value := 2 * Octets.toNat a.octets
  Block.ofOctets (Octets.ofNat 16
    (if value < (1 <<< 128) then value else Nat.xor (value - (1 <<< 128)) 0x87))

/-- The zero block encrypted; all offsets are multiples of it and of the nonce's. -/
def base (keys : List Block) : Block := Aes.encrypt keys .zero

/-- What is added for a last block that is not full. -/
def partialStep (keys : List Block) : Block := base keys

/-- What is added for the tag. -/
def tagStep (keys : List Block) : Block := double (base keys)

/-- How often two divides a number; a zero counts as undivided. -/
def twos : (fuel : Nat) → Nat → Nat
  | 0, _ => 0
  | fuel + 1, n => if n % 2 = 0 ∧ n ≠ 0 then twos fuel (n / 2) + 1 else 0

/-- A block doubled `n` times. -/
def doubleTimes : Nat → Block → Block
  | 0, a => a
  | n + 1, a => double (doubleTimes n a)

/-- What is added to the offset for the block of a place, counted from one. -/
def step (keys : List Block) (place : Nat) : Block :=
  doubleTimes (twos place place) (double (tagStep keys))

/-- The octets from bit `start` on, 16 of them, of a string of at least that many bits. -/
def bitsFrom (start : Nat) (octets : Octets) : Octets :=
  Octets.ofNat 16 (Octets.toNat octets >>> (8 * octets.length - 128 - start))

/-- The offset before the first block. -/
def firstOffset (keys : List Block) (nonce : Octets) : Block :=
  let full := [0, 0, 0, 1] ++ nonce
  let last := full.getLastD 0
  let top := (Aes.encrypt keys (Block.ofOctets (full.dropLast ++ [last &&& 0xC0]))).octets
  let stretch := top ++ Octets.xor (top.take 8) ((top.drop 1).take 8)
  Block.ofOctets (bitsFrom (last &&& 0x3F).toNat stretch)

/-- Octets shorter than a block, closed by a one bit and zeros. -/
def pad (left : Octets) : Block :=
  Block.ofOctets ((left ++ 0x80 :: List.replicate 16 0).take 16)

/-! ## Associated data -/

/-- The sum over the blocks of the associated data, from a place on. -/
def hashBlocks (keys : List Block) (place : Nat) (offset sum : Block) :
    List Block → (left : Octets) → Block
  | [], left =>
    if left.isEmpty then sum
    else sum.xor (Aes.encrypt keys ((pad left).xor (offset.xor (partialStep keys))))
  | block :: rest, left =>
    let offset := offset.xor (step keys place)
    hashBlocks keys (place + 1) offset (sum.xor (Aes.encrypt keys (block.xor offset))) rest left

/-- The part of the tag that covers the associated data. -/
def hash (keys : List Block) (associated : Octets) : Block :=
  let (blocks, left) := Block.split associated
  hashBlocks keys 1 .zero .zero blocks left

/-! ## Encryption and decryption -/

/-- The tag from the last offset and the sum of the plaintext. -/
def tag (keys : List Block) (offset sum : Block) (associated : Octets) : Octets :=
  ((Aes.encrypt keys ((sum.xor offset).xor (tagStep keys))).xor (hash keys associated)).octets

/-- Decrypts blocks from a place on, and then the octets left over. The answer is the plaintext,
the last offset and the sum of the plaintext. -/
def decryptBlocks (keys : List Block) (place : Nat) (offset sum : Block) :
    List Block → (left : Octets) → Octets × Block × Block
  | [], left =>
    if left.isEmpty then ([], offset, sum)
    else
      let offset := offset.xor (partialStep keys)
      let plain := Octets.xor left (Aes.encrypt keys offset).octets
      (plain, offset, sum.xor (pad plain))
  | cipher :: rest, left =>
    let offset := offset.xor (step keys place)
    let plain := offset.xor (Aes.decrypt keys (cipher.xor offset))
    let (tail, last, total) := decryptBlocks keys (place + 1) offset (sum.xor plain) rest left
    (plain.octets ++ tail, last, total)

/-- Encrypts blocks from a place on, and then the octets left over. The answer is the ciphertext,
the last offset and the sum of the plaintext. -/
def encryptBlocks (keys : List Block) (place : Nat) (offset sum : Block) :
    List Block → (left : Octets) → Octets × Block × Block
  | [], left =>
    if left.isEmpty then ([], offset, sum)
    else
      let offset := offset.xor (partialStep keys)
      (Octets.xor left (Aes.encrypt keys offset).octets, offset, sum.xor (pad left))
  | plain :: rest, left =>
    let offset := offset.xor (step keys place)
    let cipher := offset.xor (Aes.encrypt keys (plain.xor offset))
    let (tail, last, total) := encryptBlocks keys (place + 1) offset (sum.xor plain) rest left
    (cipher.octets ++ tail, last, total)

/-- Decrypts what stands before the tag; `none` if the tag does not fit. -/
def decrypt? (key nonce sealed associated : Octets) : Option Octets :=
  let keys := Aes.roundKeys key
  let length := sealed.length - tagLength
  let (blocks, left) := Block.split (sealed.take length)
  let (plain, offset, sum) := decryptBlocks keys 1 (firstOffset keys nonce) .zero blocks left
  if tag keys offset sum associated = sealed.drop length then some plain else none

/-- Encrypts, and appends the tag. -/
def encrypt (key nonce plain associated : Octets) : Octets :=
  let keys := Aes.roundKeys key
  let (blocks, left) := Block.split plain
  let (cipher, offset, sum) := encryptBlocks keys 1 (firstOffset keys nonce) .zero blocks left
  cipher ++ tag keys offset sum associated

end CommitSeal.Cipher.Ocb
