import CommitSeal.Scheme.Dsa

/-!
# Pairs of numbers in one octet string

The two numbers of a signature travel as one octet string: a sequence of two integers in the
distinguished encoding, in which every value has one form only. Reading accepts that form and no
other.
-/

namespace CommitSeal.Der

/-! ## Writing -/

/-- A length, in the fewest octets. -/
def encodeLength (length : Nat) : Octets :=
  if length < 128 then [UInt8.ofNat length]
  else
    let octets := Octets.ofNatMinimal length
    UInt8.ofNat (128 + octets.length) :: octets

/-- A content behind a tag and its length. -/
def encodeTagged (tag : UInt8) (content : Octets) : Octets :=
  tag :: (encodeLength content.length ++ content)

/-- A natural number: in the fewest octets of which the first is below 128. -/
def encodeNumber (number : Nat) : Octets :=
  encodeTagged 0x02 (Octets.ofNat (Octets.bitLength number / 8 + 1) number)

/-- The two numbers of a signature. -/
def encodePair (pair : Dsa.Signature) : Octets :=
  encodeTagged 0x30 (encodeNumber pair.r ++ encodeNumber pair.s)

/-! ## Reading -/

/-- The length in front of octets, and what follows. -/
def readLength? : Octets → Option (Nat × Octets)
  | [] => none
  | first :: rest =>
    if first < 128 then some (first.toNat, rest)
    else
      let width := first.toNat - 128
      some (Octets.toNat (rest.take width), rest.drop width)

/-- The content behind a tag and its length, and what follows. -/
def readTagged? (tag : UInt8) : Octets → Option (Octets × Octets)
  | [] => none
  | first :: rest =>
    if first = tag then
      (readLength? rest).map fun (length, rest) => (rest.take length, rest.drop length)
    else none

/-- The two numbers that octets hold in whatever form. -/
def looselyReadPair? (octets : Octets) : Option Dsa.Signature := do
  let (content, _) ← readTagged? 0x30 octets
  let (r, rest) ← readTagged? 0x02 content
  let (s, _) ← readTagged? 0x02 rest
  return ⟨Octets.toNat r, Octets.toNat s⟩

/-- The two numbers that octets hold in the one form that they have. -/
def readPair? (octets : Octets) : Option Dsa.Signature :=
  (looselyReadPair? octets).filter fun pair => encodePair pair == octets

end CommitSeal.Der
