import CommitSeal.Octets.Basic

/-!
# Bits of octets

Compressed data is a sequence of bits. Which bit of an octet comes first depends on the format, and
so does which bit of a number does.
-/

namespace CommitSeal.Compression

/-- A sequence of bits. -/
abbrev Bits := List Bool

namespace Bits

/-- The bits of octets, the lowest of each first. -/
def lowFirst (octets : Octets) : Bits :=
  octets.flatMap fun octet => (List.range 8).map octet.toNat.testBit

/-- The bits of octets, the highest of each first. -/
def highFirst (octets : Octets) : Bits :=
  octets.flatMap fun octet => (List.range 8).reverse.map octet.toNat.testBit

/-- Reads a number of `count` bits, the lowest first. -/
def readLow : (count : Nat) → Bits → Option (Nat × Bits)
  | 0, bits => some (0, bits)
  | _ + 1, [] => none
  | count + 1, bit :: bits =>
    (readLow count bits).map fun (number, rest) => (bit.toNat + 2 * number, rest)

/-- Reads a number of `count` bits, the highest first, behind the bits of `front`. -/
def readHighFrom (front : Nat) : (count : Nat) → Bits → Option (Nat × Bits)
  | 0, bits => some (front, bits)
  | _ + 1, [] => none
  | count + 1, bit :: bits => readHighFrom (2 * front + bit.toNat) count bits

/-- Reads a number of `count` bits, the highest first. -/
def readHigh : (count : Nat) → Bits → Option (Nat × Bits) := readHighFrom 0

/-- Drops what is left of the octet that the bits start in. -/
def align (bits : Bits) : Bits := bits.drop (bits.length % 8)

/-- The octets of bits, the lowest of each first; what is left of an octet is dropped. -/
def octets : (count : Nat) → Bits → Option (Octets × Bits)
  | 0, bits => some ([], bits)
  | count + 1, bits =>
    match readLow 8 bits with
    | none => none
    | some (octet, bits) =>
      (octets count bits).map fun (octets, rest) => (UInt8.ofNat octet :: octets, rest)

end Bits

end CommitSeal.Compression
