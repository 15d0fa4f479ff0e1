import CommitSeal.SExpr.Basic

/-!
# The S-expression reader

Both written forms of S-expressions, canonical and advanced, have the same skeleton: parentheses
nest, what is inside them is atoms and lists, and one list makes up the whole input. `SExpr.read`
is that skeleton. What the two forms differ in is a `SExpr.Grammar`: what is passed over, how an
atom is written, and what may stand behind the closing parenthesis.

The reader recurses on the input, one octet at a time; `pass` counts the octets ahead that an atom
has already taken.
-/

namespace CommitSeal.SExpr

/-! ## Why a text is no S-expression -/

/-- A reason to refuse a text. Offsets count octets from the start of the text. -/
inductive ReadError where
  /-- The canonical form does not start with a parenthesis. -/
  | notAList
  /-- No length, or one of more than nine digits, where an atom starts. -/
  | badLength (offset : Nat)
  /-- A length with a superfluous zero in front. -/
  | leadingZero (offset : Nat)
  /-- A length without a colon behind it. -/
  | missingColon (offset : Nat)
  /-- A length that exceeds what is left of the text. -/
  | overrun
  /-- A closing parenthesis without an opening one. -/
  | unbalanced (offset : Nat)
  /-- Something behind the closing parenthesis. -/
  | trailing
  /-- A display hint without its closing bracket. -/
  | openHint (offset : Nat)
  /-- An atom before the opening parenthesis. -/
  | strayAtom (offset : Nat)
  /-- The text ends inside a list. -/
  | unterminated
  /-- A hexadecimal escape that is no octet. -/
  | hexEscape (offset : Nat)
  /-- An octal escape that is no octet. -/
  | octalEscape (offset : Nat)
  /-- A backslash before a character that cannot be escaped. -/
  | unknownEscape (offset : Nat)
  /-- The text ends inside a quoted string. -/
  | openQuote
  /-- A hexadecimal or base64 literal without its closing delimiter. -/
  | openLiteral (offset : Nat)
  /-- A hexadecimal or base64 literal that does not decode. -/
  | badLiteral (offset : Nat)
  /-- A character that starts no form of atom. -/
  | unexpected (octet : UInt8) (offset : Nat)
  /-- A line of a key file that is no item. -/
  | badItem
  /-- A key file without a `Key` item. -/
  | noKeyItem
  deriving DecidableEq, Repr

/-- The wording of a refusal. -/
def ReadError.message : ReadError → String
  | notAList => "canonical S-expression must start with '('"
  | badLength offset => s!"invalid length prefix at offset {offset}"
  | leadingZero offset => s!"length prefix with leading zero at offset {offset}"
  | missingColon offset => s!"expected ':' at offset {offset}"
  | overrun => "atom runs past end of input"
  | unbalanced offset => s!"unbalanced ')' at offset {offset}"
  | trailing => "trailing data after S-expression"
  | openHint offset => s!"unterminated display hint at offset {offset}"
  | strayAtom offset => s!"atom outside of list at offset {offset}"
  | unterminated => "unterminated S-expression"
  | hexEscape offset => s!"bad hex escape at offset {offset}"
  | octalEscape offset => s!"bad octal escape at offset {offset}"
  | unknownEscape offset => s!"unknown escape at offset {offset}"
  | openQuote => "unterminated quoted string"
  | openLiteral offset => s!"unterminated literal at offset {offset}"
  | badLiteral offset => s!"bad encoded literal at offset {offset}"
  | unexpected octet offset =>
    "unexpected character 0x" ++ Octets.hex [octet] ++ s!" at offset {offset}"
  | badItem => "malformed name-value line in key file"
  | noKeyItem => "extended key file has no Key item"

/-! ## Atoms behind a length -/

/-- Whether an octet is an ASCII digit. -/
def isDigit (octet : UInt8) : Bool := 0x30 ≤ octet && octet ≤ 0x39

/-- The value of a run of ASCII digits. -/
def digitsValue (digits : Octets) : Nat :=
  digits.foldl (fun value digit => 10 * value + (digit.toNat - 0x30)) 0

/-- The length prefix at the start of `text`: one to nine digits, and no superfluous zero. -/
def readLength (offset : Nat) (text : Octets) : Except ReadError Octets :=
  match text.takeWhile isDigit with
  | [] => .error (.badLength offset)
  | first :: more =>
    if 9 < (first :: more).length then .error (.badLength offset)
    else if first = 0x30 ∧ more ≠ [] then .error (.leadingZero offset)
    else .ok (first :: more)

/-- The length-prefixed atom at the start of `text`, and how many octets it takes. -/
def readVerbatim (offset : Nat) (text : Octets) : Except ReadError (Octets × Nat) :=
  match readLength offset text with
  | .error e => .error e
  | .ok digits =>
    match text.drop digits.length with
    | 0x3A :: rest =>
      let length := digitsValue digits
      let octets := rest.take length
      if octets.length = length then .ok (octets, digits.length + 1 + length) else .error .overrun
    | _ => .error (.missingColon (offset + digits.length))

/-! ## The skeleton -/

/-- What distinguishes one written form from another. The functions are given the offset of an
octet, the octet and the text behind it. -/
structure Grammar where
  /-- Recognises what is passed over; the answer is how many further octets belong to it. -/
  skip? : (offset : Nat) → (octet : UInt8) → (rest : Octets) → Except ReadError (Option Nat)
  /-- Reads an atom; the answer is its value and how many further octets belong to it. -/
  atom : (offset : Nat) → (octet : UInt8) → (rest : Octets) → Except ReadError (Octets × Nat)
  /-- Whether a text may stand behind the closing parenthesis. -/
  mayFollow : Octets → Bool

/-- Reads the items of the list that makes up a text. `stack` holds the lists being read,
innermost first, each with its last item first. -/
def read (grammar : Grammar) (offset pass : Nat) (stack : List (List SExpr)) :
    Octets → Except ReadError (List SExpr)
  | [] => .error .unterminated
  | octet :: rest =>
    match pass with
    | pass + 1 => read grammar (offset + 1) pass stack rest
    | 0 =>
      if octet = 0x28 then read grammar (offset + 1) 0 ([] :: stack) rest
      else if octet = 0x29 then
        match stack with
        | [] => .error (.unbalanced offset)
        | [items] => if grammar.mayFollow rest then .ok items.reverse else .error .trailing
        | items :: outer :: below =>
          read grammar (offset + 1) 0 ((list items.reverse :: outer) :: below) rest
      else
        match grammar.skip? offset octet rest with
        | .error e => .error e
        | .ok (some more) => read grammar (offset + 1) more stack rest
        | .ok none =>
          match stack with
          | [] => .error (.strayAtom offset)
          | items :: below =>
            match grammar.atom offset octet rest with
            | .error e => .error e
            | .ok (value, more) =>
              read grammar (offset + 1) more ((atom value :: items) :: below) rest

end CommitSeal.SExpr
