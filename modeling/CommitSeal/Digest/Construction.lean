import CommitSeal.Octets.Basic

/-!
# Iterated hash functions

The digests here share one construction: a chaining value is folded through the blocks of
the message, which is closed by a one bit, zeros, and its length in bits. `Digest.Construction` has
what a member of the family chooses; the rest is here.

A message may arrive in pieces. `Digest.Progress` is what is known after some of it, and absorbing
is a fold over the octets, so that pieces may be cut anywhere: `update_append`.
-/

namespace CommitSeal.Digest

/-- What distinguishes one iterated hash function from another. -/
structure Construction (Chain : Type) where
  /-- Octets to a block. -/
  blockLength : Nat
  /-- Octets of the length field that closes the last block. -/
  lengthWidth : Nat
  /-- The octets of a length. -/
  lengthOctets : Nat → Octets := Octets.ofNat lengthWidth
  /-- The chaining value before the first block. -/
  start : Chain
  /-- One block folded into a chaining value. -/
  compress : Chain → Octets → Chain
  /-- The digest that a chaining value stands for. -/
  output : Chain → Octets

/-- A message partly absorbed. -/
structure Progress (Chain : Type) where
  /-- The chaining value behind the last full block. -/
  chain : Chain
  /-- The octets of the block begun, last first. -/
  pending : Octets
  /-- How many octets the block begun has. -/
  fill : Nat
  /-- How many octets were absorbed in all. -/
  total : Nat

variable {Chain : Type}

/-- Nothing absorbed yet. -/
def Construction.begin (c : Construction Chain) : Progress Chain := ⟨c.start, [], 0, 0⟩

/-- One more octet absorbed. -/
def Construction.absorb (c : Construction Chain) (progress : Progress Chain) (octet : UInt8) :
    Progress Chain :=
  match progress with
  | ⟨chain, pending, fill, total⟩ =>
    if fill + 1 = c.blockLength then
      ⟨c.compress chain (octet :: pending).reverse, [], 0, total + 1⟩
    else ⟨chain, octet :: pending, fill + 1, total + 1⟩

/-- A piece of the message absorbed. -/
def Construction.update (c : Construction Chain) (progress : Progress Chain) (piece : Octets) :
    Progress Chain :=
  piece.foldl c.absorb progress

/-- The octets that close a message: a one bit, zeros up to the length field, the length in bits. -/
def Construction.closing (c : Construction Chain) (progress : Progress Chain) : Octets :=
  let used := progress.fill + 1 + c.lengthWidth
  let zeros := (c.blockLength - used % c.blockLength) % c.blockLength
  0x80 :: (List.replicate zeros 0 ++ c.lengthOctets (8 * progress.total))

/-- The digest of what was absorbed. -/
def Construction.finish (c : Construction Chain) (progress : Progress Chain) : Octets :=
  c.output (c.update progress (c.closing progress)).chain

/-- The digest of a message. -/
def Construction.digest (c : Construction Chain) (message : Octets) : Octets :=
  c.finish (c.update c.begin message)

/-- A message may be cut anywhere. -/
theorem update_append (c : Construction Chain) (progress : Progress Chain) (first second : Octets) :
    c.update progress (first ++ second) = c.update (c.update progress first) second :=
  List.foldl_append

/-- The big-endian 32-bit words of a block. -/
def words32 : Octets → List UInt32
  | a :: b :: c :: d :: rest =>
    (a.toUInt32 <<< 24 ||| b.toUInt32 <<< 16 ||| c.toUInt32 <<< 8 ||| d.toUInt32) :: words32 rest
  | _ => []

/-- The big-endian octets of a 32-bit word. -/
def octets32 (word : UInt32) : Octets :=
  [(word >>> 24).toUInt8, (word >>> 16).toUInt8, (word >>> 8).toUInt8, word.toUInt8]

/-- The little-endian 32-bit words of a block. -/
def leWords32 : Octets → List UInt32
  | a :: b :: c :: d :: rest =>
    (d.toUInt32 <<< 24 ||| c.toUInt32 <<< 16 ||| b.toUInt32 <<< 8 ||| a.toUInt32)
      :: leWords32 rest
  | _ => []

/-- The little-endian octets of a 32-bit word. -/
def leOctets32 (word : UInt32) : Octets :=
  [word.toUInt8, (word >>> 8).toUInt8, (word >>> 16).toUInt8, (word >>> 24).toUInt8]

/-- The big-endian 64-bit words of a block. -/
def words64 : Octets → List UInt64
  | a :: b :: c :: d :: e :: f :: g :: h :: rest =>
    (a.toUInt64 <<< 56 ||| b.toUInt64 <<< 48 ||| c.toUInt64 <<< 40 ||| d.toUInt64 <<< 32
      ||| e.toUInt64 <<< 24 ||| f.toUInt64 <<< 16 ||| g.toUInt64 <<< 8 ||| h.toUInt64)
      :: words64 rest
  | _ => []

/-- The big-endian octets of a 64-bit word. -/
def octets64 (word : UInt64) : Octets :=
  octets32 (word >>> 32).toUInt32 ++ octets32 word.toUInt32

/-- A 32-bit word rotated to the left. -/
@[inline] def rotl32 (word : UInt32) (bits : UInt32) : UInt32 :=
  word <<< bits ||| word >>> (32 - bits)

/-- A 32-bit word rotated to the right. -/
@[inline] def rotr32 (word : UInt32) (bits : UInt32) : UInt32 :=
  word >>> bits ||| word <<< (32 - bits)

/-- A 64-bit word rotated to the right. -/
@[inline] def rotr64 (word : UInt64) (bits : UInt64) : UInt64 :=
  word >>> bits ||| word <<< (64 - bits)

end CommitSeal.Digest
