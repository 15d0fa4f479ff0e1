import CommitSeal.SExpr.Canonical
import CommitSeal.SExpr.Advanced

/-!
# Key files

A secret key file is an S-expression, canonical or advanced, or an *extended* file: lines of
`Name: value` items, where a line that starts with a space or a tab continues the item before it,
and comments start with `#`. The expression of an extended file is the value of its first `Key`
item, in the advanced form; what stands behind that item is not looked at.
-/

namespace CommitSeal.SExpr

/-- Whether an octet is an ASCII letter. -/
def isLetter (octet : UInt8) : Bool :=
  (0x41 ≤ octet && octet ≤ 0x5A) || (0x61 ≤ octet && octet ≤ 0x7A)

/-- The octets of an item's name behind its first letter. -/
def isNameOctet (octet : UInt8) : Bool :=
  isLetter octet || isDigit octet || octet == 0x5F || octet == 0x2D

/-- The lower-case form of an ASCII letter; other octets are kept. -/
def lowerOctet (octet : UInt8) : UInt8 :=
  if 0x41 ≤ octet ∧ octet ≤ 0x5A then octet + 0x20 else octet

/-- The name of the item that carries the key. -/
def keyItemName : Octets := Octets.ofText "key"

/-- Splits an item line at its colon into name and value. -/
def item? (line : Octets) : Option (Octets × Octets) :=
  if line.head?.any isLetter then
    let name := line.takeWhile isNameOctet
    match line.drop name.length with
    | 0x3A :: value => some (name, value)
    | _ => none
  else none

/-- Whether a line continues the item before it. -/
def continuesItem (line : Octets) : Bool :=
  line.head? == some 0x20 || line.head? == some 0x09

/-- Whether a line holds nothing: it is blank, or a comment. -/
def isIdle (line : Octets) : Bool :=
  (Octets.strip line).isEmpty || line.head? == some 0x23

/-- The pieces of the `Key` item from the lines behind its first: the stripped lines that continue
it. -/
def continuations (lines : List Octets) : List Octets :=
  (lines.takeWhile continuesItem).map Octets.strip

/-- The pieces of the first `Key` item. -/
def keyPieces : (lines : List Octets) → Except ReadError (List Octets)
  | [] => .error .noKeyItem
  | line :: rest =>
    if continuesItem line || isIdle line then keyPieces rest
    else
      match item? line with
      | none => .error .badItem
      | some (name, value) =>
        if name.map lowerOctet = keyItemName then .ok (Octets.strip value :: continuations rest)
        else keyPieces rest

/-- Joins octet strings by single spaces. -/
def joinBySpace : List Octets → Octets
  | [] => []
  | [piece] => piece
  | piece :: rest => piece ++ 0x20 :: joinBySpace rest

/-- The value of the `Key` item of an extended key file. -/
def keyItem (file : Octets) : Except ReadError Octets :=
  match keyPieces (Octets.lines file) with
  | .error e => .error e
  | .ok pieces => .ok (joinBySpace pieces)

/-- Reads the expression of a key file. A file that starts with a parenthesis is canonical when a
digit follows, else advanced; any other file is extended. -/
def parseKeyFile (file : Octets) : Except ReadError (List SExpr) :=
  match file with
  | 0x28 :: rest =>
    if rest.head?.any isDigit then parseCanonical file else parseAdvanced file
  | _ =>
    match keyItem file with
    | .error e => .error e
    | .ok value => parseAdvanced value

end CommitSeal.SExpr
