import CommitSeal.Compression.BlockSort
import CommitSeal.Compression.Deflate

/-!
# Ways to compress

The ways in which packets are compressed, and their numbers.
-/

namespace CommitSeal

/-- A way to compress octets. -/
inductive Compression where
  | none
  | deflated
  | deflatedChecked
  | blockSorted
  deriving DecidableEq, Repr

namespace Compression

/-- The way that a number stands for. -/
def ofNumber? (number : UInt8) : Option Compression :=
  if number = 0 then some none
  else if number = 1 then some deflated
  else if number = 2 then some deflatedChecked
  else if number = 3 then some blockSorted
  else .none

/-- The octets that compressed ones stand for. -/
def expand? (way : Compression) (data : Octets) : Option Octets :=
  match way with
  | none => some data
  | deflated => Deflate.expand? data
  | deflatedChecked => Deflate.expandChecked? data
  | blockSorted => BlockSort.expand? data

end Compression

end CommitSeal
