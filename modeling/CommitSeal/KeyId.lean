import CommitSeal.Datum
import CommitSeal.Octets.Basic
import CommitSeal.Text.Blank
import CommitSeal.Text.Upper

/-!
# Key identifiers

A key is asked for by the last 16 to 40 hexadecimal digits of its fingerprint. Case, spaces and a
mark in front are of no account when an identifier is read; `KeyId.Matches` is a comparison with
the end of a fingerprint.
-/

namespace CommitSeal

/-- Whether a character is a hexadecimal digit, a letter only in upper case. -/
def KeyId.isDigit (c : Char) : Bool := ('0' ≤ c && c ≤ '9') || ('A' ≤ c && c ≤ 'F')

/-- The end of a fingerprint in upper-case hexadecimal digits. -/
structure KeyId where
  digits : List Char
  length_ge : 16 ≤ digits.length
  length_le : digits.length ≤ 40
  allDigits : ∀ c ∈ digits, KeyId.isDigit c

namespace KeyId

/-- The written form of an identifier. -/
def text (id : KeyId) : String := String.ofList id.digits

/-- Why a value is no identifier. -/
inductive Error where
  /-- It is no text. -/
  | notText
  /-- It has other characters, or too few or too many. -/
  | notHex (given : String)
  deriving DecidableEq, Repr

/-- The wording of a refusal. -/
def Error.message : Error → String
  | notText => "key identifier must be a string"
  | notHex given => "key identifier must be 16 to 40 hex digits, got " ++ Text.quoted given

/-- Digits without the mark of hexadecimal numbers. -/
def dropMark : List Char → List Char
  | '0' :: 'X' :: rest => rest
  | digits => digits

/-- The digits of a text: without surrounding white space and inner spaces, in upper case, without
the mark. -/
def normalize (text : List Char) : List Char :=
  dropMark (Text.upperChars ((Text.stripChars text).filter fun c => c != ' '))

/-- The identifier with the given digits. -/
def ofDigits? (digits : List Char) : Option KeyId :=
  if h : 16 ≤ digits.length ∧ digits.length ≤ 40 ∧ digits.all KeyId.isDigit then
    some ⟨digits, h.1, h.2.1, List.all_eq_true.mp h.2.2⟩
  else none

/-- Reads an identifier. -/
def parse (text : String) : Except Error KeyId :=
  match ofDigits? (normalize text.toList) with
  | some id => .ok id
  | none => .error (.notHex text)

/-- Reads an identifier from a value of unknown type. -/
def ofDatum : Datum → Except Error KeyId
  | .text value => parse value
  | _ => .error .notText

/-- Whether digits, in either case, end with the identifier. -/
def matchesText (id : KeyId) (fingerprint : String) : Bool :=
  id.digits.isSuffixOf (Text.upperChars fingerprint.toList)

/-- Whether a fingerprint ends with the identifier. -/
def fits (id : KeyId) (fingerprint : Octets) : Bool :=
  id.digits.isSuffixOf (Octets.upperHexChars fingerprint)

end KeyId

end CommitSeal
