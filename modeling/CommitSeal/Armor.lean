import CommitSeal.Octets.Base64

/-!
# Armor

OpenPGP data travels in texts as a block: a first line that names what is inside, headers, base64 in
lines, a checksum line, and a last line that repeats the name.

`Armor.encode` writes a block without headers. `Armor.find?` finds the first complete block of a
text, whatever stands around it; behind a line that announces a signed text it is the last one. A
reader is lenient: the blank line behind the headers may be missing, lines may end in CR LF, foreign
characters in base64 are skipped, and the checksum is required but not compared.
-/

namespace CommitSeal.Armor

/-! ## Checksum -/

/-- One bit of the checksum's division. -/
def checksumShift (register : Nat) : Nat :=
  let shifted := 2 * register
  if shifted < 0x1000000 then shifted else (shifted ^^^ 0x1864CFB) % 0x1000000

/-- The 24-bit checksum of octets. -/
def checksum (octets : Octets) : Nat :=
  octets.foldl (fun register octet =>
    (List.range 8).foldl (fun register _ => checksumShift register)
      (register ^^^ (octet.toNat <<< 16))) 0xB704CE

/-! ## Writing -/

/-- The lines that data is cut into; `column` is the place in the current line. -/
def wrap (width column : Nat) : Octets → Octets
  | [] => if column = 0 then [] else [0x0A]
  | octet :: rest =>
    if column + 1 = width then octet :: 0x0A :: wrap width 0 rest
    else octet :: wrap width (column + 1) rest

/-- A block of the given name. -/
def encode (name : String) (data : Octets) : Octets :=
  Octets.ofText s!"-----BEGIN PGP {name}-----\n\n"
    ++ wrap 64 0 (Base64.encode data)
    ++ 0x3D :: Base64.encode (Octets.ofNat 3 (checksum data))
    ++ Octets.ofText s!"\n-----END PGP {name}-----\n"

/-! ## Reading -/

/-- Whether octets can be a text with a block in it: printable ASCII, tabs and line ends. Anything
else is taken for the data itself. -/
def isPlausible (octets : Octets) : Bool :=
  octets.all fun octet =>
    (0x20 ≤ octet && octet ≤ 0x7E) || octet = 0x09 || octet = 0x0A || octet = 0x0D

/-- Base64 as a lenient reader takes it: foreign characters are skipped, and complete padding ends
the data. `bits` holds the bits not yet written, `count` how many characters of the quantum were
read, and `pads` how many padding characters follow them. -/
def decodeFrom (bits count pads : Nat) : Octets → Option Octets
  | [] => if count = 0 then some [] else none
  | octet :: rest =>
    if octet = Base64.pad then
      if count < 2 then decodeFrom bits count pads rest
      else if 4 ≤ count + pads + 1 then some []
      else decodeFrom bits count (pads + 1) rest
    else
      match Base64.value? octet with
      | none => decodeFrom bits count pads rest
      | some value =>
        match count with
        | 0 => decodeFrom value 1 0 rest
        | 1 => (decodeFrom (value % 16) 2 0 rest).map (UInt8.ofNat (bits * 4 + value / 16) :: ·)
        | 2 => (decodeFrom (value % 4) 3 0 rest).map (UInt8.ofNat (bits * 16 + value / 4) :: ·)
        | _ => (decodeFrom 0 0 0 rest).map (UInt8.ofNat (bits * 64 + value) :: ·)

/-- The data that lenient base64 stands for. -/
def decode? (octets : Octets) : Option Octets := decodeFrom 0 0 0 octets

/-- The pieces between line feeds; the last one is not ended by one. -/
def pieces (current : Octets) : Octets → List Octets
  | [] => [current.reverse]
  | octet :: rest =>
    if octet = 0x0A then current.reverse :: pieces [] rest else pieces (octet :: current) rest

/-- A line without a carriage return at its end. -/
def dropReturn (line : Octets) : Octets :=
  match line.reverse with
  | 0x0D :: rest => rest.reverse
  | _ => line

/-- What stands between two marks. -/
def between? (before after line : Octets) : Option Octets :=
  if before.isPrefixOf line then
    let rest := line.drop before.length
    let middle := rest.take (rest.length - after.length)
    if rest = middle ++ after then some middle else none
  else none

/-- Whether an octet can stand in the name of a block. -/
def isNameOctet (octet : UInt8) : Bool :=
  (0x41 ≤ octet && octet ≤ 0x5A) || (0x30 ≤ octet && octet ≤ 0x39) || octet = 0x20 || octet = 0x2C

/-- The name in a first line. -/
def firstLine? (line : Octets) : Option Octets :=
  match between? (Octets.ofText "-----BEGIN PGP ") (Octets.ofText "-----") (dropReturn line) with
  | some name => if name ≠ [] ∧ name.all isNameOctet then some name else none
  | none => none

/-- Whether a colon and a space stand in a line, with something in front and something behind. -/
def isHeader (line : Octets) : Bool :=
  match line with
  | [] => false
  | _ :: rest => hasColon rest
where
  /-- Whether a colon, a space and something more stand anywhere in a line. -/
  hasColon : Octets → Bool
    | [] => false
    | octet :: rest =>
      (octet = 0x3A && (match rest with
        | 0x20 :: _ :: _ => true
        | _ => false)) || hasColon rest

/-- Whether a line holds base64: 1 to 76 characters, and up to two for padding. -/
def isBody (line : Octets) : Bool :=
  let line := dropReturn line
  let characters := line.takeWhile fun octet => (Base64.value? octet).isSome
  let rest := line.drop characters.length
  1 ≤ characters.length && characters.length ≤ 76 && rest.length ≤ 2
    && rest.all (· = Base64.pad)

/-- Whether a line holds a checksum. -/
def isChecksum (line : Octets) : Bool :=
  match dropReturn line with
  | 0x3D :: characters =>
    characters.length = 4 && characters.all fun octet => (Base64.value? octet).isSome
  | _ => false

/-- A block: its name, and the base64 in it. -/
structure Block where
  name : Octets
  content : Octets
  deriving DecidableEq, Repr

/-- The block that begins with the given lines. -/
def blockAt? : List Octets → Option Block
  | [] => none
  | first :: rest =>
    match firstLine? first with
    | none => none
    | some name =>
      let rest := rest.dropWhile isHeader
      let rest :=
        match rest with
        | line :: more => if dropReturn line = [] then more else rest
        | [] => []
      let body := rest.takeWhile isBody
      match body, rest.drop body.length with
      | _ :: _, checksum :: last :: _ =>
        if isChecksum checksum ∧
            (Octets.ofText "-----END PGP " ++ name ++ Octets.ofText "-----").isPrefixOf last then
          some ⟨name, body.flatten⟩
        else none
      | _, _ => none

/-- The last block that begins in a list of lines. -/
def lastBlock? : List Octets → Option Block
  | [] => none
  | line :: rest =>
    match lastBlock? rest with
    | some block => some block
    | none => blockAt? (line :: rest)

/-- Whether a line announces a text with its signature behind it. -/
def announcesText (line : Octets) : Bool :=
  dropReturn line = Octets.ofText "-----BEGIN PGP SIGNED MESSAGE-----"

/-- The block that counts if the first of the lines starts it: the one of that line, or the last
block behind a text of at least one line that the line announces. -/
def startingAt? (lines : List Octets) : Option Block :=
  match lines with
  | line :: _ :: rest =>
    if announcesText line then (lastBlock? rest).or (blockAt? lines) else blockAt? lines
  | _ => blockAt? lines

/-- The first block in a list of lines. -/
def search? : List Octets → Option Block
  | [] => none
  | line :: rest =>
    match startingAt? (line :: rest) with
    | some block => some block
    | none => search? rest

/-- The first block of a text. -/
def find? (text : Octets) : Option Block := search? (pieces [] text)

end CommitSeal.Armor
