import CommitSeal.Text.Blank

/-!
# Variable files

A variable file assigns texts to names, one assignment a line: `NAME=value`, with an optional
`export` in front, comments behind `#`, and values in single or double quotes, which may go over
several lines. A line that is no assignment is passed over. References such as `$\x7bNAME\x7d` are
replaced when all assignments are read.
-/

namespace CommitSeal.Dotenv

/-- White space that ends no line. -/
def isInnerBlank (c : Char) : Bool := Text.isBlank c && c != '\n'

/-- Line ends as single line feeds. -/
def unixLines : List Char → List Char
  | [] => []
  | '\r' :: '\n' :: rest => '\n' :: unixLines rest
  | '\r' :: rest => '\n' :: unixLines rest
  | c :: rest => c :: unixLines rest

/-! ## Parts of an assignment -/

/-- What follows the word `export` and white space, or everything. -/
def dropExport : List Char → List Char
  | 'e' :: 'x' :: 'p' :: 'o' :: 'r' :: 't' :: c :: rest =>
    if isInnerBlank c then rest.dropWhile isInnerBlank
    else 'e' :: 'x' :: 'p' :: 'o' :: 'r' :: 't' :: c :: rest
  | text => text

/-- Whether a character may be in a name without quotes. -/
def isNameChar (c : Char) : Bool := c != '=' && c != '#' && !Text.isBlank c

/-- A part that was read or is absent, and what follows; or where reading got stuck. -/
abbrev Step (α : Type) := Except (List Char) (α × List Char)

/-- Reads a name. There is none in front of a comment. -/
def name : List Char → Step (Option String)
  | '#' :: rest => .ok (none, '#' :: rest)
  | '\'' :: rest =>
    match rest.takeWhile (· != '\''), rest.dropWhile (· != '\'') with
    | [], _ => .error ('\'' :: rest)
    | _, [] => .error ('\'' :: rest)
    | letters, _ :: after => .ok (some (String.ofList letters), after)
  | text =>
    match text.takeWhile isNameChar with
    | [] => .error text
    | letters => .ok (some (String.ofList letters), text.dropWhile isNameChar)

/-- Splits behind the quote that closes a value. A character behind a backslash never does; `seen`
is what was passed, in reverse. -/
def closeQuote (mark : Char) (seen : List Char) : List Char → Option (List Char × List Char)
  | [] => none
  | '\\' :: c :: rest => closeQuote mark (c :: '\\' :: seen) rest
  | c :: rest => if c = mark then some (seen.reverse, rest) else closeQuote mark (c :: seen) rest

/-- The character that an escape in single quotes stands for. -/
def singleEscape? (c : Char) : Option Char := if c = '\\' ∨ c = '\'' then some c else none

/-- The character that an escape in double quotes stands for. -/
def doubleEscape? (c : Char) : Option Char :=
  match c with
  | '\\' => some '\\'
  | '\'' => some '\''
  | '"' => some '"'
  | 'a' => some '\x07'
  | 'b' => some '\x08'
  | 'f' => some '\x0c'
  | 'n' => some '\n'
  | 'r' => some '\r'
  | 't' => some '\t'
  | 'v' => some '\x0b'
  | _ => none

/-- Replaces escapes; a backslash that starts none stands for itself. -/
def unescape (escape? : Char → Option Char) : List Char → List Char
  | [] => []
  | '\\' :: c :: rest =>
    match escape? c with
    | some d => d :: unescape escape? rest
    | none => '\\' :: unescape escape? (c :: rest)
  | c :: rest => c :: unescape escape? rest

/-- Reads a value in quotes. -/
def quotedValue (mark : Char) (escape? : Char → Option Char) (text : List Char) :
    Step (Option (List Char)) :=
  match closeQuote mark [] text with
  | some (content, rest) => .ok (some (unescape escape? content), rest)
  | none => .error (mark :: text)

/-- A value without the comment behind it: a `#` starts one if white space is in front of it. -/
def cutComment (blanks : List Char) : List Char → List Char
  | [] => []
  | c :: rest =>
    if Text.isBlank c then cutComment (c :: blanks) rest
    else if c = '#' ∧ blanks ≠ [] then []
    else blanks.reverse ++ c :: cutComment [] rest

/-- Reads the value behind the equals sign and white space, if there is any. -/
def value (isSpaced : Bool) (text : List Char) : Step (Option (List Char)) :=
  match text with
  | [] => .ok (some [], [])
  | '\n' :: rest => .ok (some [], '\n' :: rest)
  | '\'' :: rest => quotedValue '\'' singleEscape? rest
  | '"' :: rest => quotedValue '"' doubleEscape? rest
  | text =>
    if isSpaced ∧ text.head? = some '#' then .ok (some [], text)
    else .ok (some (cutComment [] (text.takeWhile (· != '\n'))), text.dropWhile (· != '\n'))

/-- What follows a comment, if there is one. -/
def dropComment (text : List Char) : List Char :=
  match text.dropWhile isInnerBlank with
  | '#' :: rest => rest.dropWhile (· != '\n')
  | _ => text

/-- What follows the end of a line, which is to come next. -/
def endLine (text : List Char) : Except (List Char) (List Char) :=
  match text.dropWhile isInnerBlank with
  | [] => .ok []
  | '\n' :: rest => .ok rest
  | _ => .error text

/-! ## Assignments -/

/-- A name, and the text assigned to it, if any. -/
abbrev Assignment := String × Option (List Char)

/-- Reads what may follow a name: an equals sign and a value. -/
def assigned (text : List Char) : Step (Option (List Char)) :=
  match text.dropWhile isInnerBlank with
  | '=' :: rest => value (rest.head?.any isInnerBlank) (rest.dropWhile isInnerBlank)
  | rest => .ok (none, rest)

/-- Reads one assignment up to the end of its line. -/
def assignment (text : List Char) : Step (Option Assignment) :=
  match name (dropExport text) with
  | .error stuck => .error stuck
  | .ok (name, rest) =>
    match assigned rest with
    | .error stuck => .error stuck
    | .ok (value, rest) =>
      match endLine (dropComment rest) with
      | .error stuck => .error stuck
      | .ok rest => .ok (name.map fun name => (name, value), rest)

/-- What follows the line. -/
def dropLine (text : List Char) : List Char := (text.dropWhile (· != '\n')).drop 1

/-- Reads assignments. Each takes at least one character, so that as many steps as there are
characters suffice. -/
def assignments : (fuel : Nat) → List Char → List Assignment
  | 0, _ => []
  | fuel + 1, text =>
    match text.dropWhile Text.isBlank with
    | [] => []
    | text =>
      match assignment text with
      | .ok (some found, rest) => found :: assignments fuel rest
      | .ok (none, rest) => assignments fuel rest
      | .error stuck => assignments fuel (dropLine stuck)

/-! ## References -/

/-- Variables with their values, if they have any. -/
abbrev Variables := List (String × Option (List Char))

/-- Gives a variable a value; it keeps its place if it is there already. -/
def assign (name : String) (value : Option (List Char)) : Variables → Variables
  | [] => [(name, value)]
  | (known, old) :: rest =>
    if known = name then (name, value) :: rest else (known, old) :: assign name value rest

/-- A reference: the name, the text used if there is no such variable, and what follows. -/
def reference? (text : List Char) : Option (List Char × List Char × List Char) :=
  let isNameEnd := fun c => c == '\x7d' || c == ':'
  let name := text.takeWhile fun c => !isNameEnd c
  match text.dropWhile fun c => !isNameEnd c with
  | '\x7d' :: rest => some (name, [], rest)
  | ':' :: '-' :: rest =>
    match rest.dropWhile (· != '\x7d') with
    | [] => none
    | _ :: after => some (name, rest.takeWhile (· != '\x7d'), after)
  | _ => none

/-- Replaces the references of a text. -/
def expand (bindings : Variables) : (fuel : Nat) → List Char → List Char
  | 0, text => text
  | fuel + 1, text =>
    match text with
    | [] => []
    | '$' :: '\x7b' :: rest =>
      match reference? rest with
      | some (name, default, after) =>
        (match bindings.lookup (String.ofList name) with
          | some value => value.getD []
          | none => default) ++ expand bindings fuel after
      | none => '$' :: expand bindings fuel ('\x7b' :: rest)
    | c :: rest => c :: expand bindings fuel rest

/-- The names that the references of a text mention. -/
def mentioned : List Char → List String
  | [] => []
  | '$' :: '\x7b' :: rest =>
    String.ofList (rest.takeWhile fun c => c != '\x7d' && c != ':') :: mentioned rest
  | _ :: rest => mentioned rest

/-- Carries out assignments. References are replaced by what is assigned before them, else by the
environment. -/
def assignAll (environment : Variables) : List Assignment → Variables → Variables
  | [], done => done
  | (name, value) :: rest, done =>
    let value := value.map fun text => expand (done ++ environment) text.length text
    assignAll environment rest (assign name value done)

/-- The text of a file without the mark that may stand in front of it. -/
def dropMark : List Char → List Char
  | '\uFEFF' :: rest => rest
  | text => text

/-- The variables that a file names, with the values it gives them. -/
def bindings (environment : List (String × String)) (file : String) :
    List (String × Option String) :=
  let text := unixLines (dropMark file.toList)
  let environment := environment.map fun (name, value) => (name, some value.toList)
  (assignAll environment (assignments text.length text) []).map fun (name, value) =>
    (name, value.map String.ofList)

end CommitSeal.Dotenv
