import CommitSeal.Octets.Basic

/-!
# Packet headers, read leniently

Transferable keys are read with more tolerance than `Packet.frame` has. A header may give its
length in parts, the declared length may exceed what is left, and the contents of a packet decide
where it ends, not its header. A header read is kept, because a packet is written back with the
length that it came with.

The readers of this family take octets and return what they read together with what follows.
-/

namespace CommitSeal.Transferable

/-- Why octets are no sequence of transferable keys. -/
inductive Error where
  /-- A packet whose contents make no sense. -/
  | malformed (reason : String)
  /-- The data ends inside a header. -/
  | truncated
  /-- A signature with nothing in front of it that it could be on. -/
  | leadingSignature
  /-- A user or a subkey in front of every primary key. -/
  | ownerless
  /-- A signature that does not state when it was made, or by which key, where that matters. -/
  | unstated
  deriving DecidableEq, Repr

/-- A reader of octets: what was read, and what follows. -/
abbrev Reader (α : Type) := Octets → Except Error (α × Octets)

/-- The next octet. -/
def readOctet : Reader UInt8
  | [] => .error (.malformed "a packet ends early")
  | octet :: rest => .ok (octet, rest)

/-- What stands before a cut. -/
def readCut (count : Int) : Reader Octets := fun data => .ok (Octets.splitAtCut count data)

/-- Replaces what a reader reads. -/
def Reader.map {α β : Type} (f : α → β) (read : Reader α) : Reader β := fun data =>
  match read data with
  | .error e => .error e
  | .ok (value, rest) => .ok (f value, rest)

/-! ## Lengths -/

/-- How a header gives the length of its packet. -/
inductive HeaderForm where
  /-- In the new format. -/
  | variable
  /-- In the old format, in a number of octets; without any, the packet takes all that is left. -/
  | fixed (width : Nat)
  deriving DecidableEq, Repr

/-- A packet header. -/
structure Header where
  form : HeaderForm
  tag : UInt8
  /-- The declared length of the body. -/
  length : Nat
  deriving DecidableEq, Repr

/-- A length in the new format. -/
structure VariableLength where
  value : Nat
  /-- How many octets the length itself takes. -/
  size : Nat
  /-- Whether another part follows. -/
  isPart : Bool

/-- The value of a length in two octets. Without the second one, the first counts as that, and the
difference to a first one wraps around. -/
def pairedLength (first : UInt8) : (rest : Octets) → Nat
  | [] => 0x4000 + first.toNat + 192
  | second :: _ => (first.toNat - 192) * 256 + second.toNat + 192

/-- Reads a length in the new format. -/
def variableLength? : Octets → Option VariableLength
  | [] => none
  | first :: rest =>
    if first < 192 then some ⟨first.toNat, 1, false⟩
    else if first < 224 then some ⟨pairedLength first rest, 2, false⟩
    else if first < 255 then some ⟨1 <<< (first.toNat % 32), 1, true⟩
    else some ⟨Octets.toNat (rest.take 4), 5, false⟩

/-- Reads the lengths of further parts behind `total` octets, and joins the parts. -/
def joinParts : (fuel : Nat) → (total : Nat) → Octets → Option (Nat × Octets)
  | 0, _, _ => none
  | fuel + 1, total, data =>
    match variableLength? (data.drop total) with
    | none => none
    | some length =>
      let joined := data.take total ++ data.drop (total + length.size)
      let total := total + length.value
      if length.isPart then joinParts fuel total joined else some (total, joined)

/-- Reads a length in the new format; parts are joined. -/
def readVariableLength (data : Octets) : Option (Nat × Octets) :=
  match variableLength? data with
  | none => none
  | some length =>
    let rest := data.drop length.size
    if length.isPart then joinParts rest.length length.value rest else some (length.value, rest)

/-- A length in the new format, in the fewest octets. -/
def encodeVariableLength (length : Nat) : Octets :=
  if length < 192 then [UInt8.ofNat length]
  else if length < 8384 then
    [UInt8.ofNat ((length - 192) / 256 + 192), UInt8.ofNat ((length - 192) % 256)]
  else 0xFF :: Octets.ofNat 4 length

/-- How many octets a length takes in the new format. -/
def variableLengthSize (length : Nat) : Nat :=
  if length < 192 then 1 else if length < 8384 then 2 else 5

/-! ## Headers -/

/-- The width that the low bits of an old-format header stand for. -/
def fixedWidth (bits : UInt8) : Nat :=
  if bits = 0 then 1 else if bits = 1 then 2 else if bits = 2 then 4 else 0

/-- The bits that stand for a width. -/
def widthBits (width : Nat) : UInt8 :=
  if width = 1 then 0 else if width = 2 then 1 else if width = 4 then 2 else 3

/-- Reads a header. -/
def readHeader : Reader Header
  | [] => .error .truncated
  | octet :: rest =>
    if octet &&& 0x40 = 0 then
      let width := fixedWidth (octet &&& 0x03)
      let tag := octet >>> 2 &&& 0x0F
      if width = 0 then .ok (⟨.fixed 0, tag, rest.length⟩, rest)
      else .ok (⟨.fixed width, tag, Octets.toNat (rest.take width)⟩, rest.drop width)
    else
      match readVariableLength rest with
      | none => .error .truncated
      | some (length, rest) => .ok (⟨.variable, octet &&& 0x3F, length⟩, rest)

/-- Writes a header. -/
def Header.encode (header : Header) : Octets :=
  match header.form with
  | .variable => (0xC0 ||| header.tag) :: encodeVariableLength header.length
  | .fixed width =>
    (header.tag <<< (2 : UInt8) ||| widthBits width ||| 0x80) :: Octets.ofNat width header.length

/-! ## Numbers -/

/-- Reads a multiprecision integer; where the data ends early, it is shorter. -/
def readNumber (data : Octets) : Nat × Octets :=
  let length := (Octets.toNat (data.take 2) + 7) / 8
  let rest := data.drop 2
  (Octets.toNat (rest.take length), rest.drop length)

/-- Reads several numbers, one behind the other. -/
def readNumbers : (count : Nat) → Octets → List Nat × Octets
  | 0, data => ([], data)
  | count + 1, data =>
    match readNumber data with
    | (number, rest) =>
      match readNumbers count rest with
      | (numbers, rest) => (number :: numbers, rest)

/-- The fewest octets of a number, at least one. -/
def numberOctets (number : Nat) : Octets := Octets.ofNatAtLeast 1 number

/-- How many octets a number is said to take with its length; a zero counts as none. -/
def statedSize (number : Nat) : Nat := 2 + Octets.octetLength number

/-- Writes a multiprecision integer. -/
def encodeNumber (number : Nat) : Octets :=
  Octets.ofNat 2 (Octets.bitLength number) ++ numberOctets number

/-- Writes several numbers, one behind the other. -/
def encodeNumbers (numbers : List Nat) : Octets := numbers.flatMap encodeNumber

end CommitSeal.Transferable
