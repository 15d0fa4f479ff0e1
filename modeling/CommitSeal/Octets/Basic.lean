/-!
# Octet strings

Everything that is stored, hashed, encrypted or framed in this library is a list of octets. The
list is the one view of such data: readers recurse on it, writers append to it, and laws about
either are inductions on it.

* `Octets.ofText` is the UTF-8 form of a text.
* `Octets.hex` and `Octets.ofHex?` are the hexadecimal form and its reader.
* `Octets.toNat` and `Octets.ofNat` read and write big-endian integers, `Octets.leToNat` and
  `Octets.leOfNat` little-endian ones.
* `Octets.isBlank`, `Octets.strip` and `Octets.lines` are the ASCII white space rules that
  textual key files are read with.
-/

namespace CommitSeal

/-- A string of octets. -/
abbrev Octets := List UInt8

namespace Octets

/-! ## Texts as octets -/

/-- The UTF-8 form of a text. -/
def ofText (text : String) : Octets :=
  text.toList.flatMap String.utf8EncodeChar

/-- The characters of an ASCII octet string; every other octet reads as U+FFFD. -/
def asciiText (octets : Octets) : String :=
  String.ofList (octets.map fun octet =>
    if octet < 0x80 then Char.ofNat octet.toNat else Char.ofNat 0xFFFD)

/-- The text whose characters have the octets as their codes. -/
def codeText (octets : Octets) : String :=
  String.ofList (octets.map fun octet => Char.ofNat octet.toNat)

/-- Whether every octet is an ASCII code. -/
def isAscii (octets : Octets) : Bool :=
  octets.all (· < 0x80)

/-! ## Hexadecimal form -/

/-- The lower-case hexadecimal digit of a value below 16. -/
def hexDigit (value : Nat) : Char :=
  if value < 10 then Char.ofNat (0x30 + value) else Char.ofNat (0x57 + value)

/-- The upper-case hexadecimal digit of a value below 16. -/
def upperHexDigit (value : Nat) : Char :=
  if value < 10 then Char.ofNat (0x30 + value) else Char.ofNat (0x37 + value)

/-- The value of an ASCII hexadecimal digit of either case. -/
def hexValue? (octet : UInt8) : Option Nat :=
  if 0x30 ≤ octet ∧ octet ≤ 0x39 then some (octet.toNat - 0x30)
  else if 0x41 ≤ octet ∧ octet ≤ 0x46 then some (octet.toNat - 0x37)
  else if 0x61 ≤ octet ∧ octet ≤ 0x66 then some (octet.toNat - 0x57)
  else none

/-- The characters of the lower-case hexadecimal form, two to an octet. -/
def hexChars (octets : Octets) : List Char :=
  octets.flatMap fun octet => [hexDigit (octet.toNat / 16), hexDigit (octet.toNat % 16)]

/-- The characters of the upper-case hexadecimal form, two to an octet. -/
def upperHexChars (octets : Octets) : List Char :=
  octets.flatMap fun octet => [upperHexDigit (octet.toNat / 16), upperHexDigit (octet.toNat % 16)]

/-- The lower-case hexadecimal form. -/
def hex (octets : Octets) : String := String.ofList (hexChars octets)

/-- The upper-case hexadecimal form. -/
def upperHex (octets : Octets) : String := String.ofList (upperHexChars octets)

/-- Reads pairs of hexadecimal digits of either case; an odd digit or a foreign octet is refused. -/
def ofHex? : Octets → Option Octets
  | [] => some []
  | [_] => none
  | high :: low :: rest =>
    match hexValue? high, hexValue? low with
    | some h, some l => (ofHex? rest).map (UInt8.ofNat (16 * h + l) :: ·)
    | _, _ => none

/-! ## Integers -/

/-- The big-endian value of an octet string. -/
def toNat (octets : Octets) : Nat :=
  octets.foldl (fun value octet => 256 * value + octet.toNat) 0

/-- The `width` low octets of a number, the most significant first. -/
def ofNat : (width : Nat) → Nat → Octets
  | 0, _ => []
  | width + 1, value => UInt8.ofNat (value >>> (8 * width)) :: ofNat width value

/-- The number of octets that a number needs; zero needs none. -/
def octetLength (value : Nat) : Nat :=
  if value = 0 then 0 else Nat.log2 value / 8 + 1

/-- The shortest big-endian form of a number; zero is empty. -/
def ofNatMinimal (value : Nat) : Octets :=
  ofNat (octetLength value) value

/-- A number in at least `width` octets, and in no fewer than one. -/
def ofNatAtLeast (width value : Nat) : Octets :=
  ofNat (max width (max 1 (octetLength value))) value

/-- The number of bits that a number needs; zero needs none. -/
def bitLength (value : Nat) : Nat :=
  if value = 0 then 0 else Nat.log2 value + 1

/-- The little-endian value of an octet string. -/
def leToNat : Octets → Nat
  | [] => 0
  | octet :: rest => octet.toNat + 256 * leToNat rest

/-- The `width` low octets of a number, the least significant first. -/
def leOfNat : (width : Nat) → Nat → Octets
  | 0, _ => []
  | width + 1, value => UInt8.ofNat value :: leOfNat width (value / 256)

/-- A sum of octet values, as checksums over plain octets use it. -/
def sum (octets : Octets) : Nat :=
  octets.foldl (fun total octet => total + octet.toNat) 0

/-- The positionwise exclusive or, as long as the shorter of the two. -/
def xor (left right : Octets) : Octets :=
  List.zipWith (· ^^^ ·) left right

/-! ## Cutting -/

/-- Where a list of `length` octets is cut by a count: one below zero counts from the end. -/
def cut (length : Nat) (count : Int) : Nat :=
  if 0 ≤ count then min count.toNat length else length - (-count).toNat

/-- What stands before a cut, and what stands behind it. -/
def splitAtCut (count : Int) (octets : Octets) : Octets × Octets :=
  octets.splitAt (cut octets.length count)

/-- The octets in front of a place, filled up with zeros where there are fewer. -/
def takeFilled (count : Nat) (octets : Octets) : Octets :=
  octets.take count ++ List.replicate (count - octets.length) 0

/-! ## White space and lines -/

/-- ASCII white space: the space, and the codes from tab to carriage return. -/
def isBlank (octet : UInt8) : Bool :=
  octet == 0x20 || (0x09 ≤ octet && octet ≤ 0x0D)

/-- Drops white space from the end. -/
def stripRight (octets : Octets) : Octets :=
  (octets.reverse.dropWhile isBlank).reverse

/-- Drops white space from both ends. -/
def strip (octets : Octets) : Octets :=
  stripRight (octets.dropWhile isBlank)

/-- The lines of a text, split at LF, CR and CR LF. A terminator at the very end starts no further
line, and `current` holds the line being collected, last octet first. -/
def linesFrom (current : Octets) : Octets → List Octets
  | [] => if current.isEmpty then [] else [current.reverse]
  | 0x0D :: 0x0A :: rest => current.reverse :: linesFrom [] rest
  | octet :: rest =>
    if octet = 0x0A ∨ octet = 0x0D then current.reverse :: linesFrom [] rest
    else linesFrom (octet :: current) rest

/-- The lines of a text without their terminators. -/
def lines (octets : Octets) : List Octets := linesFrom [] octets

/-- Drops leading zero octets, which add nothing to a big-endian value. -/
def dropZeros (octets : Octets) : Octets :=
  octets.dropWhile (· = 0)

/-- Every octet overwritten with zero; the length is kept. -/
def wiped (octets : Octets) : Octets :=
  List.replicate octets.length 0

end Octets

end CommitSeal
