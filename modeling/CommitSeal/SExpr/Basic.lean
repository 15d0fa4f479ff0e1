import CommitSeal.Octets.Numeral

/-!
# S-expressions

Secret key files hold one S-expression: atoms are octet strings, lists hold atoms and lists. This
module has the type, the canonical form (`SExpr.canonical`: every atom behind its decimal length,
every list in parentheses) and the two look-ups that key files are read with.
-/

namespace CommitSeal

/-- An S-expression: an atom of octets, or a list of S-expressions. -/
inductive SExpr where
  | atom (octets : Octets)
  | list (items : List SExpr)
  deriving Inhabited

namespace SExpr

/-! ## The canonical form

An expression may be nested to any depth. That an interpreter limits how deep a writer can call
itself, and breaks off beyond that, is left out here. -/

/-- The canonical form of one atom: decimal length, a colon, the octets. -/
def verbatim (octets : Octets) : Octets :=
  Numeral.decimal octets.length ++ 0x3A :: octets

mutual

/-- The canonical form of an expression. -/
def canonical : SExpr → Octets
  | atom octets => verbatim octets
  | list items => 0x28 :: (canonicalItems items ++ [0x29])

/-- The canonical forms of the items of a list, one behind the other. -/
def canonicalItems : List SExpr → Octets
  | [] => []
  | item :: rest => canonical item ++ canonicalItems rest

end

/-! ## Look-ups -/

/-- Whether an expression is a non-empty list headed by the given atom. -/
def headedBy (name : Octets) : SExpr → Bool
  | list (atom head :: _) => head == name
  | _ => false

/-- The first item that is a list headed by the atom `name`. -/
def findList? (name : Octets) : List SExpr → Option (List SExpr)
  | [] => none
  | list (atom head :: tail) :: rest =>
    if head = name then some (atom head :: tail) else findList? name rest
  | _ :: rest => findList? name rest

/-- The atom that follows `name` in the first item that is a list headed by `name`. -/
def value? (name : Octets) (items : List SExpr) : Option Octets :=
  match findList? name items with
  | some (_ :: atom value :: _) => some value
  | _ => none

end SExpr

end CommitSeal
