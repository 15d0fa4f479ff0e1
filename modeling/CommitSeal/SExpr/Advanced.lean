import CommitSeal.SExpr.Reader
import CommitSeal.Octets.Base64

/-!
# Reading the advanced form

The advanced form is the one for people: white space stands anywhere between items, and an atom is
written in the way that suits it.

* `3:abc`, behind its length;
* `"a\x62\143"`, quoted, with escapes and continued lines;
* `#616263#`, in hexadecimal digits, and `|YWJj|`, in base64, both with white space inside;
* `abc`, a bare token.

Escapes of quoted strings are two or three characters that the lenient integer grammar of
`Numeral` reads as an octet.
-/

namespace CommitSeal.SExpr

/-- The octets of a bare token: letters, digits and `-./_:*+=`. -/
def isToken (octet : UInt8) : Bool :=
  isDigit octet || (0x41 ≤ octet && octet ≤ 0x5A) || (0x61 ≤ octet && octet ≤ 0x7A)
    || [0x2D, 0x2E, 0x2F, 0x5F, 0x3A, 0x2A, 0x2B, 0x3D].contains octet

/-- The octet that a named escape stands for. -/
def namedEscape? (octet : UInt8) : Option UInt8 :=
  if octet = 0x62 then some 0x08
  else if octet = 0x74 then some 0x09
  else if octet = 0x76 then some 0x0B
  else if octet = 0x6E then some 0x0A
  else if octet = 0x66 then some 0x0C
  else if octet = 0x72 then some 0x0D
  else if octet = 0x22 ∨ octet = 0x27 ∨ octet = 0x5C then some octet
  else none

/-- Whether an octet is an octal digit. -/
def isOctalDigit (octet : UInt8) : Bool := 0x30 ≤ octet && octet ≤ 0x37

/-- Reads a quoted string from behind its opening quote. `offset` is where `text` starts and
`value` holds the octets so far, last first; the answer is the octets and the offset behind the
closing quote. -/
def readQuoted (offset : Nat) (value : Octets) : (text : Octets) → Except ReadError (Octets × Nat)
  | [] => .error .openQuote
  | octet :: rest =>
    if octet = 0x22 then .ok (value.reverse, offset + 1)
    else if octet ≠ 0x5C then readQuoted (offset + 1) (octet :: value) rest
    else
      match rest with
      | [] => .error .openQuote
      | escape :: rest =>
        match namedEscape? escape with
        | some named => readQuoted (offset + 2) (named :: value) rest
        | none =>
          if escape = 0x78 then
            match rest with
            | [] => .error (.hexEscape (offset + 1))
            | [first] =>
              match Numeral.octet? 16 [first] with
              | none => .error (.hexEscape (offset + 1))
              | some _ => .error .openQuote
            | first :: second :: rest =>
              match Numeral.octet? 16 [first, second] with
              | none => .error (.hexEscape (offset + 1))
              | some decoded => readQuoted (offset + 4) (decoded :: value) rest
          else if isOctalDigit escape then
            match rest with
            | [] => .error .openQuote
            | [second] =>
              match Numeral.octet? 8 [escape, second] with
              | none => .error (.octalEscape (offset + 1))
              | some _ => .error .openQuote
            | second :: third :: rest =>
              match Numeral.octet? 8 [escape, second, third] with
              | none => .error (.octalEscape (offset + 1))
              | some decoded => readQuoted (offset + 4) (decoded :: value) rest
          else if escape = 0x0A ∨ escape = 0x0D then
            match rest with
            | [] => .error .openQuote
            | next :: rest =>
              if (next = 0x0A ∨ next = 0x0D) ∧ next ≠ escape then readQuoted (offset + 3) value rest
              else readQuoted (offset + 2) value (next :: rest)
          else .error (.unknownEscape (offset + 1))

/-- Reads a hexadecimal or base64 literal from behind its opening delimiter, which `offset` is the
place of. The answer is the octets and how many octets of `rest` belong to the literal. -/
def readDelimited (offset : Nat) (delimiter : UInt8) (rest : Octets) :
    Except ReadError (Octets × Nat) :=
  let inside := rest.takeWhile (· != delimiter)
  if inside.length = rest.length then .error (.openLiteral offset)
  else
    let written := inside.filter fun octet => !Octets.isBlank octet
    match (if delimiter = 0x23 then Octets.ofHex? written else Base64.decode? written) with
    | none => .error (.badLiteral offset)
    | some value => .ok (value, inside.length + 1)

/-- Whether a text starts with one to ten digits and a colon, and so with a length prefix. -/
def startsWithLength (text : Octets) : Bool :=
  let digits := (text.take 11).takeWhile isDigit
  digits.length != 0 && digits.length ≤ 10 && (text.drop digits.length).head? == some 0x3A

/-- White space is passed over. -/
def advancedSkip? (_offset : Nat) (octet : UInt8) (_rest : Octets) :
    Except ReadError (Option Nat) :=
  .ok (if Octets.isBlank octet then some 0 else none)

/-- Reads an atom in whichever form its first octet announces. -/
def advancedAtom (offset : Nat) (octet : UInt8) (rest : Octets) :
    Except ReadError (Octets × Nat) :=
  if octet = 0x22 then
    match readQuoted (offset + 1) [] rest with
    | .error e => .error e
    | .ok (value, stop) => .ok (value, stop - (offset + 1))
  else if octet = 0x23 ∨ octet = 0x7C then readDelimited offset octet rest
  else if startsWithLength (octet :: rest) then
    match readVerbatim offset (octet :: rest) with
    | .error e => .error e
    | .ok (value, taken) => .ok (value, taken - 1)
  else if isToken octet then
    let more := rest.takeWhile isToken
    .ok (octet :: more, more.length)
  else .error (.unexpected octet offset)

/-- The advanced form; white space may stand behind the closing parenthesis. -/
def Grammar.advanced : Grammar where
  skip? := advancedSkip?
  atom := advancedAtom
  mayFollow rest := rest.all Octets.isBlank

/-- Reads an expression in the advanced form. -/
def parseAdvanced (text : Octets) : Except ReadError (List SExpr) :=
  read .advanced 0 0 [] text

end CommitSeal.SExpr
