import CommitSeal.SExpr.Reader

/-!
# Reading the canonical form

The canonical form starts with a parenthesis and has nothing between its atoms but display hints,
`[length:octets]`, which are dropped. A decrypted payload carries padding behind its expression;
`SExpr.parsePadded` allows for it, `SExpr.parseCanonical` does not.
-/

namespace CommitSeal.SExpr

/-- A display hint: an atom in brackets. -/
def canonicalSkip? (offset : Nat) (octet : UInt8) (rest : Octets) :
    Except ReadError (Option Nat) :=
  if octet = 0x5B then
    match readVerbatim (offset + 1) rest with
    | .error e => .error e
    | .ok (_, taken) =>
      if (rest.drop taken).head? = some 0x5D then .ok (some (taken + 1))
      else .error (.openHint (offset + 1 + taken))
  else .ok none

/-- Every atom is written behind its length. -/
def canonicalAtom (offset : Nat) (octet : UInt8) (rest : Octets) :
    Except ReadError (Octets × Nat) :=
  match readVerbatim offset (octet :: rest) with
  | .error e => .error e
  | .ok (value, taken) => .ok (value, taken - 1)

/-- The canonical form; `padded` allows anything behind the closing parenthesis. -/
def Grammar.canonical (padded : Bool) : Grammar where
  skip? := canonicalSkip?
  atom := canonicalAtom
  mayFollow rest := padded || rest.isEmpty

/-- Reads a canonical expression, padded or not. -/
def parseCanonicalWith (padded : Bool) (text : Octets) : Except ReadError (List SExpr) :=
  if text.head? = some 0x28 then read (.canonical padded) 0 0 [] text else .error .notAList

/-- Reads a canonical expression that makes up the whole text. -/
def parseCanonical (text : Octets) : Except ReadError (List SExpr) :=
  parseCanonicalWith false text

/-- Reads the canonical expression that a text starts with. -/
def parsePadded (text : Octets) : Except ReadError (List SExpr) :=
  parseCanonicalWith true text

end CommitSeal.SExpr
