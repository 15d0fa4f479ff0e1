import CommitSeal.Compression.PrefixCode

/-!
# Deflated data

Deflated data is cut into blocks. A block holds octets as they are, or codewords that stand for
octets and for repetitions of what is already there; its codes are fixed, or given in front of it.
`Deflate.expand?` gives the octets of deflated data, and `Deflate.expandChecked?` those of data in a
frame with a sum behind it.
-/

namespace CommitSeal.Compression.Deflate

/-! ## Codes -/

/-- The greatest length of a codeword. -/
def longest : Nat := 15

/-- The symbol that ends a block. -/
def endSymbol : Nat := 256

/-- The codes of a block: for octets and lengths, and for distances. -/
structure Codes where
  main : PrefixCode
  distance : PrefixCode

/-- The codes of blocks that give none. -/
def fixedCodes : Codes :=
  { main := .ofLengths longest (List.replicate 144 8 ++ List.replicate 112 9
      ++ List.replicate 24 7 ++ List.replicate 8 8)
    distance := .ofLengths longest (List.replicate 30 5) }

/-- The order in which the lengths of the codewords for lengths are given. -/
def lengthOrder : List Nat := [16, 17, 18, 0, 8, 7, 9, 6, 10, 5, 11, 4, 12, 3, 13, 2, 14, 1, 15]

/-- Reads lengths of three bits each. -/
def readShortLengths : (count : Nat) → Bits → Option (List Nat × Bits)
  | 0, bits => some ([], bits)
  | count + 1, bits => do
    let (length, bits) ← Bits.readLow 3 bits
    let (lengths, bits) ← readShortLengths count bits
    return (length :: lengths, bits)

/-- Reads `count` lengths of codewords, of which those read so far are given, the last one first.
Three of the symbols repeat a length; each takes at least one bit. -/
def readLengths (code : PrefixCode) (count : Nat) :
    (fuel : Nat) → (done : List Nat) → Bits → Option (List Nat × Bits)
  | 0, _, _ => none
  | fuel + 1, done, bits =>
    if done.length = count then some (done.reverse, bits)
    else if count < done.length then none
    else do
      let (symbol, bits) ← code.read bits
      if symbol < 16 then readLengths code count fuel (symbol :: done) bits
      else if symbol = 16 then
        let last ← done.head?
        let (more, bits) ← Bits.readLow 2 bits
        readLengths code count fuel (List.replicate (3 + more) last ++ done) bits
      else if symbol = 17 then
        let (more, bits) ← Bits.readLow 3 bits
        readLengths code count fuel (List.replicate (3 + more) 0 ++ done) bits
      else
        let (more, bits) ← Bits.readLow 7 bits
        readLengths code count fuel (List.replicate (11 + more) 0 ++ done) bits

/-- Whether a code may be used: it is complete, or has a single codeword of one bit, or none. -/
def isUsable (code : PrefixCode) : Bool :=
  code.missing == 0 || (code.symbols.size == 1 && code.counts.head? == some 1)
    || code.symbols.isEmpty

/-- Reads the codes of a block. -/
def readCodes (bits : Bits) : Option (Codes × Bits) := do
  let (mainMore, bits) ← Bits.readLow 5 bits
  let (distanceMore, bits) ← Bits.readLow 5 bits
  let (lengthMore, bits) ← Bits.readLow 4 bits
  let mainCount := 257 + mainMore
  let distanceCount := 1 + distanceMore
  if 286 < mainCount || 30 < distanceCount then none
  let (given, bits) ← readShortLengths (4 + lengthMore) bits
  let ordered := lengthOrder.zip given
  let lengthCode := PrefixCode.ofLengths 7
    ((List.range 19).map fun symbol => (ordered.lookup symbol).getD 0)
  if lengthCode.missing != 0 then none
  let count := mainCount + distanceCount
  let (lengths, bits) ← readLengths lengthCode count (count + 1) [] bits
  let main := PrefixCode.ofLengths longest (lengths.take mainCount)
  let distance := PrefixCode.ofLengths longest (lengths.drop mainCount)
  if main.symbols.contains endSymbol && isUsable main && isUsable distance then
    some (⟨main, distance⟩, bits)
  else none

/-! ## Repetitions -/

/-- The smallest lengths that symbols stand for, with how many bits say how much more it is. -/
def lengthSteps : Array (Nat × Nat) :=
  #[(3, 0), (4, 0), (5, 0), (6, 0), (7, 0), (8, 0), (9, 0), (10, 0), (11, 1), (13, 1), (15, 1),
    (17, 1), (19, 2), (23, 2), (27, 2), (31, 2), (35, 3), (43, 3), (51, 3), (59, 3), (67, 4),
    (83, 4), (99, 4), (115, 4), (131, 5), (163, 5), (195, 5), (227, 5), (258, 0)]

/-- The smallest distances that symbols stand for, with how many bits say how much more it is. -/
def distanceSteps : Array (Nat × Nat) :=
  #[(1, 0), (2, 0), (3, 0), (4, 0), (5, 1), (7, 1), (9, 2), (13, 2), (17, 3), (25, 3), (33, 4),
    (49, 4), (65, 5), (97, 5), (129, 6), (193, 6), (257, 7), (385, 7), (513, 8), (769, 8),
    (1025, 9), (1537, 9), (2049, 10), (3073, 10), (4097, 11), (6145, 11), (8193, 12), (12289, 12),
    (16385, 13), (24577, 13)]

/-- Reads what a symbol stands for. -/
def readStep (steps : Array (Nat × Nat)) (symbol : Nat) (bits : Bits) : Option (Nat × Bits) := do
  let (least, width) ← steps[symbol]?
  let (more, bits) ← Bits.readLow width bits
  return (least + more, bits)

/-- Repeats octets of what is there, the last one first, from a distance on. -/
def repeatFrom (distance : Nat) : (length : Nat) → Octets → Option Octets
  | 0, done => some done
  | length + 1, done =>
    match done.drop (distance - 1) with
    | [] => none
    | octet :: _ => repeatFrom distance length (octet :: done)

/-! ## Blocks -/

/-- Reads the octets of a block with codes; those read so far are given, the last one first. Each
symbol takes at least one bit. -/
def readCoded (codes : Codes) : (fuel : Nat) → (done : Octets) → Bits → Option (Octets × Bits)
  | 0, _, _ => none
  | fuel + 1, done, bits => do
    let (symbol, bits) ← codes.main.read bits
    if symbol < endSymbol then readCoded codes fuel (UInt8.ofNat symbol :: done) bits
    else if symbol = endSymbol then some (done, bits)
    else
      let (length, bits) ← readStep lengthSteps (symbol - 257) bits
      let (symbol, bits) ← codes.distance.read bits
      let (distance, bits) ← readStep distanceSteps symbol bits
      let done ← repeatFrom distance length done
      readCoded codes fuel done bits

/-- Reads the octets of a block without codes, behind their number and its complement. -/
def readStored (done : Octets) (bits : Bits) : Option (Octets × Bits) := do
  let (count, bits) ← Bits.readLow 16 bits.align
  let (complement, bits) ← Bits.readLow 16 bits
  if count + complement = 65535 then
    let (octets, bits) ← Bits.octets count bits
    return (octets.reverse ++ done, bits)
  else none

/-- Reads the octets of a block of a kind. -/
def readBlock (kind : Nat) (done : Octets) (bits : Bits) : Option (Octets × Bits) :=
  if kind = 0 then readStored done bits
  else if kind = 1 then readCoded fixedCodes (bits.length + 1) done bits
  else if kind = 2 then do
    let (codes, bits) ← readCodes bits
    readCoded codes (bits.length + 1) done bits
  else none

/-- Reads blocks up to the last one; each takes at least three bits. -/
def readBlocks : (fuel : Nat) → (done : Octets) → Bits → Option (Octets × Bits)
  | 0, _, _ => none
  | fuel + 1, done, bits => do
    let (isLast, bits) ← Bits.readLow 1 bits
    let (kind, bits) ← Bits.readLow 2 bits
    let (done, bits) ← readBlock kind done bits
    if isLast = 1 then some (done.reverse, bits) else readBlocks fuel done bits

/-- The octets of deflated data, and the bits that follow it. -/
def read (data : Octets) : Option (Octets × Bits) :=
  let bits := Bits.lowFirst data
  readBlocks bits.length [] bits

/-! ## Whole data -/

/-- The octets of deflated data. What follows it is left out. -/
def expand? (data : Octets) : Option Octets := (read data).map Prod.fst

/-- A sum of octets that depends on their order: one more than the sum, and the sum of those numbers
after each octet. -/
def orderedSum (octets : Octets) : Nat :=
  let (total, sums) := octets.foldl (fun (total, sums) octet =>
    let total := (total + octet.toNat) % 65521
    (total, (sums + total) % 65521)) (1, 0)
  sums * 65536 + total

/-- The octets of deflated data behind two octets that announce it and in front of a sum. What
follows is left out. -/
def expandChecked? : Octets → Option Octets
  | method :: flags :: data => do
    if method &&& 0x0F != 8 || method >>> 4 > 7 || flags &&& 0x20 != 0
        || (method.toNat * 256 + flags.toNat) % 31 != 0 then none
    let (octets, bits) ← read data
    let (sum, _) ← Bits.octets 4 bits.align
    if Octets.toNat sum = orderedSum octets then some octets else none
  | _ => none

end CommitSeal.Compression.Deflate
