import CommitSeal.Text.Blank

/-!
# Integers in texts

How an integer may be written where a person writes it: white space around it, a sign, zeros in
front, single underscores between digits, and a point with nothing but zeros behind it. Each
definition takes one of these liberties away; what is left must be a plain numeral.
-/

namespace CommitSeal.Text.Integer

/-- Why a text is no integer. -/
inductive Problem where
  /-- It is not written as one. -/
  | unreadable
  /-- It has too many digits. -/
  | tooLong
  deriving DecidableEq, Repr

/-! ## Liberties -/

/-- White space that may surround an integer: the separator controls are none. -/
def isPadding (c : Char) : Bool := isBlank c && !(0x1C ≤ c.toNat && c.toNat ≤ 0x1F)

/-- A text without padding at either end. -/
def trimPadding (text : List Char) : List Char :=
  ((text.dropWhile isPadding).reverse.dropWhile isPadding).reverse

/-- A text without a plus sign in front; no other sign may follow it. -/
def dropPlus : List Char → Option (List Char)
  | '+' :: '-' :: _ => none
  | '+' :: rest => some rest
  | text => some text

/-- Whether a character starts a number that needs no zero in front. -/
def isStart (c : Char) : Bool := c = '-' || ('1' ≤ c && c ≤ '9')

/-- What follows zeros and underscores, of which `last` came last. It is kept where nothing or a
point follows it. -/
def dropZerosAfter (last : Char) : List Char → Option (List Char)
  | [] => some [last]
  | c :: rest =>
    if c = '0' ∨ c = '_' then dropZerosAfter c rest
    else if c = '.' then some (last :: c :: rest)
    else if isStart c then some (c :: rest)
    else none

/-- A number without zeros in front that add nothing. -/
def dropLeadingZeros : List Char → Option (List Char)
  | [] => none
  | c :: rest =>
    if isStart c then some (c :: rest) else if c = '0' then dropZerosAfter c rest else none

/-- Digits without a fraction of zeros. -/
def dropZeroFraction (digits : List Char) : List Char :=
  match digits.dropWhile (· != '.') with
  | '.' :: fraction =>
    if fraction.all (· == '0') then digits.takeWhile (· != '.') else digits
  | _ => digits

/-- Whether two underscores stand side by side. -/
def hasDouble : List Char → Bool
  | '_' :: '_' :: _ => true
  | _ :: rest => hasDouble rest
  | [] => false

/-- Digits without the underscores that separate them. Ones that do not separate two are kept. -/
def dropUnderscores (digits : List Char) : List Char :=
  if digits.head? = some '_' ∨ digits.getLast? = some '_' ∨ hasDouble digits then digits
  else digits.filter (· != '_')

/-! ## Numerals -/

/-- The value of decimal digits behind others with a value. -/
def digitsValue (value : Nat) : List Char → Option Nat
  | [] => some value
  | c :: rest =>
    if '0' ≤ c ∧ c ≤ '9' then digitsValue (10 * value + (c.toNat - '0'.toNat)) rest else none

/-- The value of a plain numeral: digits of which the first is no zero, unless it stands alone. -/
def natural : List Char → Option Nat
  | [] => none
  | '0' :: _ :: _ => none
  | digits => digitsValue 0 digits

/-- The value of a plain numeral, or of one behind a minus sign. -/
def signed : List Char → Option Int
  | '-' :: digits => (natural digits).map fun n => -(n : Int)
  | digits => (natural digits).map fun n => (n : Int)

/-- How many characters a numeral may have. -/
def maxLength : Nat := 4300

/-- The integer that a text denotes. -/
def ofChars (text : List Char) : Except Problem Int :=
  match (dropPlus (trimPadding text)).bind dropLeadingZeros with
  | none => .error .unreadable
  | some digits =>
    let digits := dropUnderscores (dropZeroFraction digits)
    match signed digits with
    | none => .error .unreadable
    | some n => if maxLength < digits.length then .error .tooLong else .ok n

end CommitSeal.Text.Integer
