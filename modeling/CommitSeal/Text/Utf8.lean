import CommitSeal.Octets.Text

/-!
# Where octets stop being UTF-8

UTF-8 gives each character one to four octets: a first one that says how many, and further ones in a
narrow range. `Utf8.flaw?` finds the first place where octets are no such form, and says why.
-/

namespace CommitSeal.Utf8

/-- Why octets are no character. -/
inductive Reason where
  /-- No character starts with such an octet. -/
  | start
  /-- No character goes on with such an octet. -/
  | continuation
  /-- The octets end inside a character. -/
  | ending
  deriving DecidableEq, Repr

/-- The wording of a reason. -/
def Reason.message : Reason → String
  | start => "invalid start byte"
  | continuation => "invalid continuation byte"
  | ending => "unexpected end of data"

/-- Octets that are no character: their place, how many of them make sense together, and the first
of them. -/
structure Flaw where
  position : Nat
  length : Nat
  first : UInt8
  reason : Reason
  deriving DecidableEq, Repr

/-- The wording of a flaw. -/
def Flaw.message (flaw : Flaw) : String :=
  let place :=
    if flaw.length = 1 then s!"byte 0x{Octets.hex [flaw.first]} in position {flaw.position}"
    else s!"bytes in position {flaw.position}-{flaw.position + flaw.length - 1}"
  s!"'utf-8' codec can't decode {place}: {flaw.reason.message}"

/-- Goes on with a character of which `taken` octets are read and `count` are missing. The next one
is from `low` to `high`. The answer is the length of the character, or how many octets make sense.
-/
def goOn (low high : UInt8) : (count taken : Nat) → Octets → Except (Reason × Nat) Nat
  | 0, taken, _ => .ok taken
  | _ + 1, taken, [] => .error (.ending, taken)
  | count + 1, taken, octet :: rest =>
    if low ≤ octet ∧ octet ≤ high then goOn 0x80 0xBF count (taken + 1) rest
    else .error (.continuation, taken)

/-- The length of the character that starts with an octet. -/
def lengthOf (first : UInt8) (rest : Octets) : Except (Reason × Nat) Nat :=
  if first < 0x80 then .ok 1
  else if first < 0xC2 then .error (.start, 1)
  else if first < 0xE0 then goOn 0x80 0xBF 1 1 rest
  else if first < 0xF0 then
    goOn (if first = 0xE0 then 0xA0 else 0x80) (if first = 0xED then 0x9F else 0xBF) 2 1 rest
  else if first < 0xF5 then
    goOn (if first = 0xF0 then 0x90 else 0x80) (if first = 0xF4 then 0x8F else 0xBF) 3 1 rest
  else .error (.start, 1)

/-- The first flaw of octets behind others, of which `pass` octets belong to a character that is
read already. -/
def flawFrom (position pass : Nat) : Octets → Option Flaw
  | [] => none
  | octet :: rest =>
    match pass with
    | pass + 1 => flawFrom (position + 1) pass rest
    | 0 =>
      match lengthOf octet rest with
      | .ok length => flawFrom (position + 1) (length - 1) rest
      | .error (reason, length) => some ⟨position, length, octet, reason⟩

/-- The first flaw of octets; a text in UTF-8 has none. -/
def flaw? (octets : Octets) : Option Flaw := flawFrom 0 0 octets

end CommitSeal.Utf8
