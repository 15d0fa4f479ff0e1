import CommitSeal.Octets.Basic

/-!
# Texts with surrogates

The characters of a `String` are the code points that a character has. A text from outside can also
hold surrogates, the code points from U+D800 to U+DFFF, which stand for no character by themselves:
such a text can be passed on and compared, but it has no UTF-8 form. `Octets.ofPoints?` is the
UTF-8 form of a text of this kind.
-/

namespace CommitSeal

/-- A code point. -/
inductive CodePoint where
  /-- One that is a character. -/
  | char (c : Char)
  /-- One of the surrogates, counted from U+D800. -/
  | surrogate (index : Fin 2048)
  deriving DecidableEq, Repr

/-- The code points of a text of characters. -/
def Text.points (text : String) : List CodePoint := text.toList.map CodePoint.char

/-- The UTF-8 form of a text, which one with a surrogate does not have. -/
def Octets.ofPoints? : List CodePoint → Option Octets
  | [] => some []
  | .char c :: rest => (ofPoints? rest).map fun octets => String.utf8EncodeChar c ++ octets
  | .surrogate _ :: _ => none

end CommitSeal
