import CommitSeal.Octets.Basic

/-!
# Base64

`Base64.decode?` is the strict reader: only the alphabet and padding, the data a whole number of
quanta, the last one padded where it is short, and nothing behind the padding. The bits that
padding leaves unused may be anything, and padding behind a full last quantum is superfluous but
accepted. `Base64.encode` is the writer.
-/

namespace CommitSeal.Base64

/-- The six-bit value of a character of the alphabet. -/
def value? (octet : UInt8) : Option Nat :=
  if 0x41 ≤ octet ∧ octet ≤ 0x5A then some (octet.toNat - 0x41)
  else if 0x61 ≤ octet ∧ octet ≤ 0x7A then some (octet.toNat - 0x61 + 26)
  else if 0x30 ≤ octet ∧ octet ≤ 0x39 then some (octet.toNat - 0x30 + 52)
  else if octet = 0x2B then some 62
  else if octet = 0x2F then some 63
  else none

/-- The character of a six-bit value. -/
def digit (value : Nat) : UInt8 :=
  if value < 26 then UInt8.ofNat (0x41 + value)
  else if value < 52 then UInt8.ofNat (0x61 + (value - 26))
  else if value < 62 then UInt8.ofNat (0x30 + (value - 52))
  else if value = 62 then 0x2B
  else 0x2F

/-- The padding character. -/
def pad : UInt8 := 0x3D

/-- The strict reader, one quantum of four characters at a time. -/
def decode? : Octets → Option Octets
  | [] => some []
  | a :: b :: c :: d :: rest =>
    match value? a, value? b with
    | some a, some b =>
      let first := UInt8.ofNat (a * 4 + b / 16)
      if c = pad then
        if d = pad ∧ rest = [] then some [first] else none
      else
        match value? c with
        | none => none
        | some c =>
          let second := UInt8.ofNat (b * 16 + c / 4)
          if d = pad then
            if rest = [] then some [first, second] else none
          else
            match value? d with
            | none => none
            | some d =>
              let third := UInt8.ofNat (c * 64 + d)
              if rest.all (· = pad) then some [first, second, third]
              else (decode? rest).map fun tail => first :: second :: third :: tail
    | _, _ => none
  | _ => none

/-- The padded form, four characters for every three octets begun. -/
def encode : Octets → Octets
  | [] => []
  | [a] => [digit (a.toNat / 4), digit (a.toNat % 4 * 16), pad, pad]
  | [a, b] =>
    [digit (a.toNat / 4), digit (a.toNat % 4 * 16 + b.toNat / 16), digit (b.toNat % 16 * 4), pad]
  | a :: b :: c :: rest =>
    digit (a.toNat / 4) :: digit (a.toNat % 4 * 16 + b.toNat / 16)
      :: digit (b.toNat % 16 * 4 + c.toNat / 64) :: digit (c.toNat % 64) :: encode rest

end CommitSeal.Base64
