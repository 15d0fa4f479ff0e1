import CommitSeal.Octets.Basic

/-!
# Signatures in commit headers

A header field goes on over several lines if each further line starts with a space. `embed` brings
a text into that form and `extract` takes it out again; both read a carriage return with a line
feed as one line end.
-/

namespace CommitSeal.CommitHeader

/-- Line ends as single line feeds. -/
def joinLineEnds : List Char → List Char
  | [] => []
  | '\r' :: '\n' :: rest => '\n' :: joinLineEnds rest
  | c :: rest => c :: joinLineEnds rest

/-- A space behind every line feed. -/
def indent : List Char → List Char
  | [] => []
  | c :: rest => if c = '\n' then '\n' :: ' ' :: indent rest else c :: indent rest

/-- One space behind a line feed is dropped. -/
def unindent : List Char → List Char
  | [] => []
  | '\n' :: ' ' :: rest => '\n' :: unindent rest
  | c :: rest => c :: unindent rest

/-- The form of a text in a commit header. -/
def embed (text : String) : String :=
  String.ofList (indent (joinLineEnds text.toList))

/-- The text that a commit header holds. -/
def extract (text : String) : String :=
  String.ofList (unindent (joinLineEnds text.toList))

/-- The text that the octets of a commit header hold, if they are ASCII. -/
def extractOctets? (octets : Octets) : Option String :=
  if Octets.isAscii octets then some (extract (Octets.asciiText octets)) else none

end CommitSeal.CommitHeader
