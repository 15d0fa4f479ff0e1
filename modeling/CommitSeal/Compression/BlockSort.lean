import CommitSeal.Compression.PrefixCode

/-!
# Block-sorted data

Block-sorted data is cut into blocks. The octets of a block are shortened where one is repeated, put
in the order of what follows them, and written as places in a list whose items move to the front
when they are used. A block and a whole stream have sums behind them. `BlockSort.expand?` gives the
octets of one or more streams.
-/

namespace CommitSeal.Compression.BlockSort

/-! ## Sums -/

/-- One step of a sum for a bit. -/
def sumStep (sum : UInt32) (bit : Bool) : UInt32 :=
  let isHigh := sum &&& 0x80000000 != 0
  let shifted := sum <<< (1 : UInt32)
  if isHigh != bit then shifted ^^^ 0x04C11DB7 else shifted

/-- The sum of the octets of a block. -/
def sum (octets : Octets) : UInt32 :=
  (octets.foldl (fun sum octet => (Bits.highFirst [octet]).foldl sumStep sum) 0xFFFFFFFF)
    ^^^ 0xFFFFFFFF

/-- The sum of a stream up to a block with a sum of its own. -/
def joinSum (joined sum : UInt32) : UInt32 :=
  (joined <<< (1 : UInt32) ||| joined >>> (31 : UInt32)) ^^^ sum

/-! ## Codes -/

/-- The greatest length of a codeword. -/
def longest : Nat := 20

/-- How many symbols are written in the same code. -/
def groupLength : Nat := 50

/-- Takes the item at a place to the front. -/
def moveToFront {α : Type} (index : Nat) (items : List α) : Option (α × List α) :=
  match items.drop index with
  | [] => none
  | item :: rest => some (item, item :: (items.take index ++ rest))

/-- Reads flags; the answer has the positions of those that are set. -/
def readFlags (count : Nat) (bits : Bits) : Option (List Nat × Bits) :=
  if bits.length < count then none
  else
    let flags := (bits.take count).zipIdx
    some ((flags.filter Prod.fst).map Prod.snd, bits.drop count)

/-- Reads the octets that occur in a block: flags for groups of 16, and in those for each octet. -/
def readAlphabet (bits : Bits) : Option (Octets × Bits) := do
  let (groups, bits) ← readFlags 16 bits
  groups.foldlM (fun (octets, bits) group => do
    let (places, bits) ← readFlags 16 bits
    return (octets ++ places.map fun place => UInt8.ofNat (16 * group + place), bits)) ([], bits)

/-- Reads a number below `limit`, written as so many set bits and one that is not. -/
def readUnary : (limit : Nat) → Bits → Option (Nat × Bits)
  | 0, _ => none
  | _, [] => none
  | _ + 1, false :: bits => some (0, bits)
  | limit + 1, true :: bits => (readUnary limit bits).map fun (number, rest) => (number + 1, rest)

/-- Reads which code each group of symbols is in: places in the list of codes, in which a code moves
to the front when it is used. -/
def readSelectors (codes : List Nat) : (count : Nat) → Bits → Option (List Nat × Bits)
  | 0, bits => some ([], bits)
  | count + 1, bits => do
    let (place, bits) ← readUnary codes.length bits
    let (code, codes) ← moveToFront place codes
    let (selectors, bits) ← readSelectors codes count bits
    return (code :: selectors, bits)

/-- Reads the length of a codeword, given that of the one before: set bits go one up or down. -/
def readLength : (fuel : Nat) → (length : Nat) → Bits → Option (Nat × Bits)
  | fuel + 1, length, bit :: bits =>
    if length < 1 || longest < length then none
    else if !bit then some (length, bits)
    else
      match bits with
      | [] => none
      | isDown :: bits => readLength fuel (if isDown then length - 1 else length + 1) bits
  | _, _, _ => none

/-- Reads the lengths of codewords, given that of the one before. -/
def readLengths : (count : Nat) → (length : Nat) → Bits → Option (List Nat × Bits)
  | 0, _, bits => some ([], bits)
  | count + 1, length, bits => do
    let (length, bits) ← readLength bits.length length bits
    let (lengths, bits) ← readLengths count length bits
    return (length :: lengths, bits)

/-- Reads codes with a number of symbols. -/
def readCodes (symbols : Nat) : (count : Nat) → Bits → Option (List PrefixCode × Bits)
  | 0, bits => some ([], bits)
  | count + 1, bits => do
    let (length, bits) ← Bits.readHigh 5 bits
    let (lengths, bits) ← readLengths symbols length bits
    let (codes, bits) ← readCodes symbols count bits
    return (.ofLengths longest lengths :: codes, bits)

/-! ## Symbols -/

/-- Reads symbols up to the one that ends a block, `left` of them in a code and the others in the
codes behind it. Those read so far are given, the last one first. -/
def readSymbols (endSymbol : Nat) :
    (fuel : Nat) → (left : Nat) → (codes : List PrefixCode) → (done : List Nat) → Bits →
    Option (List Nat × Bits)
  | fuel + 1, left + 1, code :: codes, done, bits => do
    let (symbol, bits) ← code.read bits
    if symbol = endSymbol then some (done.reverse, bits)
    else readSymbols endSymbol fuel left (code :: codes) (symbol :: done) bits
  | fuel + 1, 0, _ :: codes, done, bits =>
    readSymbols endSymbol fuel groupLength codes done bits
  | _, _, _, _, _ => none

/-- Spells out symbols: the two smallest are digits of how often the front of the alphabet stands
here, of weights one, two, four and so on; the others take an octet to the front. No more than
`limit` octets are spelled out at once. The octets so far are given, the last one first. -/
def spell (limit : Nat) (alphabet : Octets) (weight count : Nat) (done : Octets) :
    List Nat → Option Octets
  | [] =>
    if limit < count then none else some (List.replicate count (alphabet.headD 0) ++ done)
  | symbol :: rest =>
    if symbol ≤ 1 then
      if 1 <<< 21 ≤ weight then none
      else spell limit alphabet (2 * weight) (count + (symbol + 1) * weight) done rest
    else if limit < count then none
    else
      match moveToFront (symbol - 1) alphabet with
      | none => none
      | some (octet, moved) =>
        spell limit moved 1 0 (octet :: (List.replicate count (alphabet.headD 0) ++ done)) rest

/-! ## Order -/

/-- Puts the octets of a block back in order, beginning at the place that a place is sorted to. -/
def unsort (start : Nat) (octets : Octets) : Octets :=
  let sorted := octets.zipIdx.mergeSort fun a b => decide (a.1 ≤ b.1)
  let places := (sorted.map Prod.snd).toArray
  let block := octets.toArray
  let (_, reversed) := octets.foldl (fun (place, done) _ =>
    let place := places.getD place 0
    (place, block.getD place 0 :: done)) (start, [])
  reversed.reverse

/-- Writes repetitions out: behind four times the same octet stands how often it follows again.
`last` is the octet before and how often it stood there. -/
def unfold (last : UInt8) (count : Nat) (done : Octets) : Octets → Option Octets
  | [] => if count = 4 then none else some done.reverse
  | octet :: rest =>
    if count = 4 then unfold octet 0 (List.replicate octet.toNat last ++ done) rest
    else if count ≠ 0 ∧ octet = last then unfold octet (count + 1) (octet :: done) rest
    else unfold octet 1 (octet :: done) rest

/-! ## Blocks -/

/-- Reads the octets of a block behind its sum, of which there may be `limit` when they are still
shortened. -/
def readBlock (limit : Nat) (bits : Bits) : Option (Octets × Bits) := do
  let (isScrambled, bits) ← Bits.readHigh 1 bits
  let (start, bits) ← Bits.readHigh 24 bits
  let (alphabet, bits) ← readAlphabet bits
  let (codeCount, bits) ← Bits.readHigh 3 bits
  let (selectorCount, bits) ← Bits.readHigh 15 bits
  if isScrambled = 1 || alphabet.isEmpty || codeCount < 2 || 6 < codeCount || selectorCount = 0 then
    none
  let (selectors, bits) ← readSelectors (List.range codeCount) selectorCount bits
  let (codes, bits) ← readCodes (alphabet.length + 2) codeCount bits
  let used := selectors.filterMap fun selector => codes[selector]?
  let (symbols, bits) ← readSymbols (alphabet.length + 1)
    (bits.length + used.length + 1) groupLength used [] bits
  let reversed ← spell limit alphabet 1 0 [] symbols
  let octets := reversed.reverse
  if start < octets.length && octets.length ≤ limit then
    let block ← unfold 0 0 [] (unsort start octets)
    some (block, bits)
  else none

/-- Reads the blocks of a stream up to its end; each takes at least its mark. The octets so far are
given, block by block, the last one first. -/
def readBlocks (limit : Nat) :
    (fuel : Nat) → (joined : UInt32) → (done : List Octets) → Bits → Option (Octets × Bits)
  | 0, _, _, _ => none
  | fuel + 1, joined, done, bits => do
    let (mark, bits) ← Bits.readHigh 48 bits
    let (stated, bits) ← Bits.readHigh 32 bits
    if mark = 0x314159265359 then
      let (block, bits) ← readBlock limit bits
      let sum := sum block
      if sum.toNat = stated then readBlocks limit fuel (joinSum joined sum) (block :: done) bits
      else none
    else if mark = 0x177245385090 && joined.toNat = stated then
      some (done.reverse.flatten, bits.align)
    else none

/-- Reads a stream, which states how many octets a block of it may have. -/
def readStream (bits : Bits) : Option (Octets × Bits) := do
  let (mark, bits) ← Bits.readHigh 24 bits
  let (level, bits) ← Bits.readHigh 8 bits
  if mark = 0x425A68 && 0x31 ≤ level && level ≤ 0x39 then
    readBlocks (100000 * (level - 0x30)) bits.length 0 [] bits
  else none

/-- Whether bits start as a stream does, as far as they go. -/
def startsStream (bits : Bits) : Bool :=
  let mark := Bits.highFirst [0x42, 0x5A, 0x68]
  !bits.isEmpty && mark.take bits.length == bits.take mark.length

/-- Reads streams as far as any start; each takes at least its mark. -/
def readStreams : (fuel : Nat) → Bits → Option Octets
  | 0, _ => some []
  | fuel + 1, bits =>
    if startsStream bits then do
      let (octets, bits) ← readStream bits
      let behind ← readStreams fuel bits
      return octets ++ behind
    else some []

/-- The octets of block-sorted data. Of no data there are none; else it starts with a stream, and
what follows the last stream is left out. -/
def expand? (data : Octets) : Option Octets :=
  let bits := Bits.highFirst data
  if bits.isEmpty || startsStream bits then readStreams bits.length bits else none

end CommitSeal.Compression.BlockSort
