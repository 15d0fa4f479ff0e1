/-!
# Texts without styles

A terminal is told how to show a text by sequences inside of it: an escape and an opening bracket,
digits and separators, and a letter. Where there is no terminal they are left out; everything else
is kept, an incomplete sequence too.
-/

namespace CommitSeal.Text

/-- The character that starts a sequence. -/
def escape : Char := '\x1b'

/-- Whether a character may stand between the bracket and the letter of a sequence. -/
def isStyleParameter (c : Char) : Bool := c == ';' || c == '?' || ('0' ≤ c && c ≤ '9')

/-- Leaves out the sequences of a text. `pending` is the start of one, last character first. -/
def plainFrom (pending : List Char) : List Char → List Char
  | [] => pending.reverse
  | c :: rest =>
    match pending with
    | [] => if c = escape then plainFrom [c] rest else c :: plainFrom [] rest
    | [start] =>
      if c = '[' then plainFrom [c, start] rest
      else if c = escape then start :: plainFrom [c] rest
      else start :: c :: plainFrom [] rest
    | pending =>
      if isStyleParameter c then plainFrom (c :: pending) rest
      else if c.isAlpha then plainFrom [] rest
      else if c = escape then pending.reverse ++ plainFrom [c] rest
      else pending.reverse ++ c :: plainFrom [] rest

/-- A text without the sequences that only a terminal understands. -/
def plain (text : String) : String := String.ofList (plainFrom [] text.toList)

end CommitSeal.Text
