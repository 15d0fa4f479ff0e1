import CommitSeal.Digest.Sha1

/-!
# From a passphrase to a key: iterated and salted

The string-to-key function hashes salt and passphrase over and over, up to a count of octets, and
takes as many digests as the key needs, each with one more zero octet in front than the one before.
The count may be written in a coded form of one octet.

`S2k.derive` feeds the hash whole multiples of salt and passphrase, so that tens of millions of
octets need no memory.
-/

namespace CommitSeal.S2k

open Digest

/-- Why there is no key. -/
inductive Error where
  /-- A coded count so far below zero that its exponent is negative. -/
  | negativeExponent
  /-- Neither salt nor passphrase. -/
  | nothingToHash
  deriving DecidableEq, Repr

/-- The number of octets that a count stands for: itself from 256 on, else the coded form with four
bits of mantissa and an exponent. -/
def octetCount (count : Int) : Except Error Nat :=
  if 256 ≤ count then .ok count.toNat
  else
    let exponent := count / 16 + 6
    if exponent < 0 then .error .negativeExponent
    else .ok ((16 + (count % 16).toNat) <<< exponent.toNat)

variable {Chain : Type}

/-- A piece absorbed `times` times. -/
def absorbTimes (c : Construction Chain) (piece : Octets) : (times : Nat) → Progress Chain →
    Progress Chain
  | 0, progress => progress
  | times + 1, progress => absorbTimes c piece times (c.update progress piece)

/-- The first `count` octets of `piece` repeated without end, absorbed. -/
def absorbRepeated (c : Construction Chain) (piece : Octets) (count : Nat)
    (progress : Progress Chain) : Progress Chain :=
  c.update (absorbTimes c piece (count / piece.length) progress) (piece.take (count % piece.length))

/-- Whole copies of `data`, as many as fit into 8192 octets, and at least one. -/
def chunk (data : Octets) : Octets :=
  (List.replicate (max 1 (8192 / data.length)) data).flatten

/-- The digest with `zeros` zero octets in front. -/
def digestBehind (c : Construction Chain) (zeros : Nat) (piece : Octets) (count : Nat) : Octets :=
  c.finish (absorbRepeated c piece count (c.update c.begin (List.replicate zeros 0)))

/-- `length` octets of key; a digest has `digestLength` octets, and at least all of `data` is
hashed. -/
def expand (c : Construction Chain) (digestLength : Nat) (data : Octets) (count length : Nat) :
    Octets :=
  ((List.range ((length + digestLength - 1) / digestLength)).flatMap fun zeros =>
    digestBehind c zeros (chunk data) (max count data.length)).take length

/-- The key of `length` octets that the protection of stored secret keys uses, over SHA-1. -/
def derive (passphrase salt : Octets) (count : Int) (length : Nat) : Except Error Octets :=
  match octetCount count with
  | .error e => .error e
  | .ok octets =>
    if (salt ++ passphrase).isEmpty then .error .nothingToHash
    else .ok (expand Sha1.construction 20 (salt ++ passphrase) octets length)

end CommitSeal.S2k
