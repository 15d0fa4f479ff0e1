import CommitSeal.Failure
import CommitSeal.Text.CodePoint

/-!
# Credential sources

A passphrase comes from a source that is prompted for it: replies prepared beforehand, one fixed
passphrase, or a terminal. A reply may be a buffer that stays with the source; `Credentials.lent`
keeps the content of every such buffer, and `Credentials.wipe` clears the one of a reply.
-/

namespace CommitSeal

/-- A question for the passphrase of a resource. -/
structure Prompt where
  /-- What the passphrase unlocks. -/
  resource : String
  /-- The text shown. -/
  message : String
  deriving DecidableEq, Repr

/-- The answer to a prompt. -/
inductive Reply where
  /-- A text. -/
  | text (passphrase : List CodePoint)
  /-- Octets that cannot be changed any more. -/
  | octets (passphrase : Octets)
  /-- Octets in a buffer that stays with the source. -/
  | buffer (passphrase : Octets)
  /-- The user does not want to answer. -/
  | declined
  /-- The source broke off. -/
  | raised (fault : Fault)
  deriving DecidableEq, Repr

/-- A terminal. -/
structure Terminal where
  /-- The lines that will be typed. -/
  lines : List String
  /-- What has been shown. -/
  shown : List String
  /-- The fault that reading meets behind the lines, if not their end. -/
  fault : Option Fault := none
  deriving DecidableEq, Repr

/-- Where passphrases come from. -/
inductive Source where
  /-- Prepared replies, one for each prompt; when they are used up, prompts are declined. -/
  | script (replies : List Reply)
  /-- The same passphrase each time; without one, prompts are declined. -/
  | fixed (passphrase : Option Octets)
  /-- A user at a terminal. -/
  | terminal (terminal : Terminal)
  deriving DecidableEq, Repr

/-- A source with its history. -/
structure Credentials where
  source : Source
  /-- The prompts issued, oldest first. -/
  prompts : List Prompt := []
  /-- The contents of the buffers handed out, oldest first. -/
  lent : List Octets := []
  deriving DecidableEq, Repr

/-- The octets of a reply that is a passphrase; a text without a UTF-8 form is none. -/
def Reply.passphrase? : Reply → Option Octets
  | text passphrase => Octets.ofPoints? passphrase
  | octets passphrase => some passphrase
  | buffer passphrase => some passphrase
  | declined => none
  | raised _ => none

/-- The fault that a request meets with a reply: that of a source which broke off, or that of a text
which has no UTF-8 form. -/
def Reply.fault? : Reply → Option Fault
  | text passphrase =>
    match Octets.ofPoints? passphrase with
    | some _ => none
    | none => some .unencodable
  | raised fault => some fault
  | _ => none

/-! ## Asking at a terminal -/

namespace Terminal

/-- What is shown in front of the place where the passphrase is typed. -/
def label : String := "Passphrase: \n"

/-- Asks until a line that is not empty is typed, or there are no more. -/
def ask (shown : List String) (fault : Option Fault) : List String → Reply × Terminal
  | [] =>
    match fault with
    | none => (.declined, ⟨[], shown ++ [label, "\n"], none⟩)
    | some fault => (.raised fault, ⟨[], shown ++ [label], some fault⟩)
  | line :: rest =>
    if line = "" then ask (shown ++ [label]) fault rest
    else (.text (Text.points line), ⟨rest, shown ++ [label], fault⟩)

end Terminal

/-! ## Asking a source -/

/-- What a source replies, and the source after that. -/
def Source.reply (message : String) : Source → Reply × Source
  | script [] => (.declined, script [])
  | script (reply :: rest) => (reply, script rest)
  | fixed none => (.declined, fixed none)
  | fixed (some passphrase) => (.buffer passphrase, fixed (some passphrase))
  | terminal t =>
    let (reply, t) := Terminal.ask (t.shown ++ [message ++ "\n"]) t.fault t.lines
    (reply, terminal t)

namespace Credentials

/-- Asks for a passphrase. -/
def ask (credentials : Credentials) (prompt : Prompt) : Reply × Credentials :=
  let (reply, source) := credentials.source.reply prompt.message
  (reply, { source, prompts := credentials.prompts ++ [prompt],
            lent := match reply with
              | .buffer passphrase => credentials.lent ++ [passphrase]
              | _ => credentials.lent })

/-- Clears the buffer of the last reply, if that was one. -/
def wipe (credentials : Credentials) : Reply → Credentials
  | .buffer passphrase =>
    { credentials with lent := credentials.lent.dropLast ++ [Octets.wiped passphrase] }
  | _ => credentials

/-- Clears the passphrase of a fixed source. -/
def close (credentials : Credentials) : Credentials :=
  match credentials.source with
  | .fixed _ => { credentials with source := .fixed none }
  | _ => credentials

end Credentials

end CommitSeal
