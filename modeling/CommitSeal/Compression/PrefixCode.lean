import CommitSeal.Compression.Bits

/-!
# Prefix codes

A code in which no codeword starts another one is given by the lengths of the codewords alone: those
of one length are consecutive numbers in the order of their symbols, and follow the shorter ones.
`PrefixCode.read` reads the codeword in front of bits.
-/

namespace CommitSeal.Compression

/-- A prefix code. -/
structure PrefixCode where
  /-- How many codewords there are of each length, from one bit on. -/
  counts : List Nat
  /-- The symbols in the order of their codewords. -/
  symbols : Array Nat
  deriving DecidableEq, Repr

namespace PrefixCode

/-- The symbols with codewords of a length. -/
def symbolsOf (length : Nat) (lengths : List Nat) : List Nat :=
  (lengths.zipIdx.filter fun entry => entry.1 == length).map Prod.snd

/-- The code in which the codewords of the symbols, counted from zero, have given lengths; a symbol
of length zero has none. No length is above `longest`. -/
def ofLengths (longest : Nat) (lengths : List Nat) : PrefixCode :=
  let groups := (List.range longest).map fun n => symbolsOf (n + 1) lengths
  { counts := groups.map List.length, symbols := groups.flatten.toArray }

/-- How many codewords of the greatest length would be needed to complete a code. -/
def missing (code : PrefixCode) : Int :=
  code.counts.foldl (fun (missing : Int) (count : Nat) => 2 * missing - (count : Int)) (1 : Int)

/-- Reads a codeword: `word` are the bits read so far, `first` is the codeword of that length which
comes first, and `index` says how many symbols have shorter codewords. -/
def readFrom (symbols : Array Nat) :
    (counts : List Nat) → (word first index : Nat) → Bits → Option (Nat × Bits)
  | [], _, _, _, _ => none
  | _ :: _, _, _, _, [] => none
  | count :: counts, word, first, index, bit :: bits =>
    let word := 2 * word + bit.toNat
    if word < first + count then
      (symbols[index + (word - first)]?).map fun symbol => (symbol, bits)
    else readFrom symbols counts word (2 * (first + count)) (index + count) bits

/-- Reads a codeword; the answer is its symbol. -/
def read (code : PrefixCode) : Bits → Option (Nat × Bits) :=
  readFrom code.symbols code.counts 0 0 0

end PrefixCode

end CommitSeal.Compression
