import CommitSeal.Text.Quoted

/-!
# Untyped values

Values that come from outside have no type yet: a limit may be given as a number, a text or
something else. `Datum.literal` is how a value is named in a message.
-/

namespace CommitSeal

/-- A value of unknown type. -/
inductive Datum where
  | null
  | truth (value : Bool)
  | integer (value : Int)
  /-- The number `mantissa / 10 ^ places` with a sign, given with a fraction or an exponent. -/
  | decimal (isNegative : Bool) (mantissa places : Nat)
  /-- A number beyond all others, with a sign. -/
  | infinite (isNegative : Bool)
  /-- What stands for no number, where one could. -/
  | notANumber
  | text (value : String)
  | list (items : List Datum)
  | record (fields : List (String × Datum))
  deriving Inhabited

namespace Datum

/-! ## Decimal numbers -/

/-- A number and places behind the point, without zeros at the end. -/
def trimPlaces (value : Nat) : (places : Nat) → Nat × Nat
  | 0 => (value, 0)
  | places + 1 =>
    if value % 10 = 0 then trimPlaces (value / 10) places else (value, places + 1)

/-- The nearest number of 53 significant bits, the even one of two. -/
def nearest (value : Nat) : Nat :=
  let excess := value.log2 - 52
  let quotient := value >>> excess
  let twice := 2 * (value - quotient <<< excess)
  let isUp := 1 <<< excess < twice ∨ (1 <<< excess = twice ∧ quotient % 2 = 1)
  (if isUp then quotient + 1 else quotient) <<< excess

/-- The whole number that a decimal number stands for, if it has no fraction. -/
def whole? (value places : Nat) : Option Nat :=
  match trimPlaces value places with
  | (value, 0) => some (nearest value)
  | (0, _) => some 0
  | _ => none

/-- The least number that counts as beyond all others. -/
def leastInfinite : Nat := (1 <<< 1024) - (1 <<< 970)

/-- The value of a number given with a fraction or an exponent. -/
def ofDecimal (isNegative : Bool) (mantissa places : Nat) : Datum :=
  if leastInfinite ≤ mantissa / Nat.pow 10 places then infinite isNegative
  else decimal isNegative mantissa places

/-- The decimal digits of a number. -/
def digits (value : Nat) : List Char := (toString value).toList

/-- Zeros. -/
def zeros (count : Nat) : List Char := List.replicate count '0'

/-- The whole and the fractional digits of a decimal number. -/
def positional (value places : Nat) : List Char :=
  let padded := zeros (places + 1 - (digits value).length) ++ digits value
  let whole := padded.take (padded.length - places)
  match padded.drop (padded.length - places) with
  | [] => whole ++ ['.', '0']
  | fraction => whole ++ '.' :: fraction

/-- One digit before the point, and a power of ten. -/
def scientific (value : Nat) (exponent : Int) : List Char :=
  let (significant, _) := trimPlaces value (digits value).length
  let mantissa := match digits significant with
    | [] => []
    | [digit] => [digit]
    | digit :: fraction => digit :: '.' :: fraction
  let power := digits exponent.natAbs
  mantissa ++ ['e', if exponent < 0 then '-' else '+'] ++ zeros (2 - power.length) ++ power

/-- The digits of a decimal number. From 10 ^ 16 on and below 10 ^ -4 the power of ten is
written. -/
def decimalDigits (value places : Nat) : List Char :=
  let (value, places) := trimPlaces value places
  let exponent : Int := (digits value).length - 1 - (places : Int)
  if value ≠ 0 ∧ (exponent < -4 ∨ 16 ≤ exponent) then scientific value exponent
  else positional value places

/-! ## Naming a value -/

mutual

/-- How a value is named in a message. -/
def literal : Datum → String
  | null => "None"
  | truth true => "True"
  | truth false => "False"
  | integer value => toString value
  | decimal isNegative mantissa places =>
    (if isNegative then "-" else "") ++ String.ofList (decimalDigits mantissa places)
  | infinite isNegative => if isNegative then "-inf" else "inf"
  | notANumber => "nan"
  | text value => Text.quoted value
  | list items => "[" ++ String.intercalate ", " (literals items) ++ "]"
  | record fields => "\x7b" ++ String.intercalate ", " (fieldLiterals fields) ++ "\x7d"

/-- How the items of a list are named. -/
def literals : List Datum → List String
  | [] => []
  | item :: rest => literal item :: literals rest

/-- How the fields of a record are named. -/
def fieldLiterals : List (String × Datum) → List String
  | [] => []
  | (name, value) :: rest => (Text.quoted name ++ ": " ++ literal value) :: fieldLiterals rest

end

end Datum

end CommitSeal
