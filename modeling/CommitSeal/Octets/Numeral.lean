import CommitSeal.Octets.Basic

/-!
# Integers written as text

The grammar of a lenient integer text in base 8, 10 or 16: white space around it, one sign, a base
mark (`0o` in base 8, `0x` in base 16, either letter case), and digits among which single
underscores may stand. An underscore may also follow the base mark. In base 10 a text of more than
`Numeral.maxDecimalDigits` digits is refused.
-/

namespace CommitSeal.Numeral

/-- Longest decimal text that is read, in digits. -/
def maxDecimalDigits : Nat := 4300

/-- The value of an octet as a digit, letters of either case counting from ten. -/
def digitValue? (octet : UInt8) : Option Nat :=
  if 0x30 ≤ octet ∧ octet ≤ 0x39 then some (octet.toNat - 0x30)
  else if 0x41 ≤ octet ∧ octet ≤ 0x5A then some (octet.toNat - 0x37)
  else if 0x61 ≤ octet ∧ octet ≤ 0x7A then some (octet.toNat - 0x57)
  else none

/-- The value of a digit of the given base. -/
def digit? (base : Nat) (octet : UInt8) : Option Nat :=
  match digitValue? octet with
  | some value => if value < base then some value else none
  | none => none

/-- Digits with single underscores between them, to the end of the text. `value` and `count` hold
what was read so far, and `afterDigit` says whether an underscore may stand next. The answer is the
value and the number of digits. -/
def digits (base : Nat) (value count : Nat) (afterDigit : Bool) : Octets → Option (Nat × Nat)
  | [] => if afterDigit then some (value, count) else none
  | octet :: rest =>
    if octet = 0x5F then
      if afterDigit then digits base value count false rest else none
    else
      match digit? base octet with
      | some d => digits base (base * value + d) (count + 1) true rest
      | none => none

/-- Drops the mark of the base, and one underscore behind it. -/
def dropBaseMark (base : Nat) : Octets → Octets
  | 0x30 :: mark :: rest =>
    if (base = 16 ∧ (mark = 0x78 ∨ mark = 0x58)) ∨ (base = 8 ∧ (mark = 0x6F ∨ mark = 0x4F)) then
      match rest with
      | 0x5F :: rest => rest
      | rest => rest
    else 0x30 :: mark :: rest
  | text => text

/-- The value of an unsigned integer text. -/
def unsigned? (base : Nat) (text : Octets) : Option Nat :=
  match digits base 0 0 false (dropBaseMark base text) with
  | some (value, count) => if base = 10 ∧ maxDecimalDigits < count then none else some value
  | none => none

/-- The value of an integer text, with white space around it and a sign before it. -/
def int? (base : Nat) (text : Octets) : Option Int :=
  match Octets.strip text with
  | 0x2D :: rest => (unsigned? base rest).map fun value => -(value : Int)
  | 0x2B :: rest => (unsigned? base rest).map fun value => (value : Int)
  | rest => (unsigned? base rest).map fun value => (value : Int)

/-- The value of an integer text as one octet; values outside 0 to 255 are refused. -/
def octet? (base : Nat) (text : Octets) : Option UInt8 :=
  match int? base text with
  | some (.ofNat value) => if value < 256 then some (UInt8.ofNat value) else none
  | _ => none

/-- The decimal text of a number. -/
def decimal (value : Nat) : Octets :=
  (Nat.toDigits 10 value).map fun digit => UInt8.ofNat digit.toNat

end CommitSeal.Numeral
