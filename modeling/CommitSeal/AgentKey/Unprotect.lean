import CommitSeal.AgentKey.Basic
import CommitSeal.Cipher.Chaining
import CommitSeal.Cipher.Ocb
import CommitSeal.S2k

/-!
# Unprotecting stored secret keys

The protection of a key is an element `(protected mode ((sha1 salt count) iv) ciphertext)`. There
are two modes, and both bind the clear part of the key to the encrypted one:

* with chaining, the payload is `((S) (hash sha1 code))`, where `S` is the secret parameters and the
  code is the SHA-1 digest of the canonical form of the whole key, decrypted elements in the place
  of the protection;
* with OCB, the payload is `((S))`, and the canonical form of the clear part is associated data.

A payload may be followed by padding. What does not authenticate is a wrong passphrase, whatever it
looks like; what authenticates and is still malformed is a broken key.
-/

namespace CommitSeal.AgentKey

/-! ## Modes -/

/-- The two modes of protection. -/
inductive Mode where
  | cbc
  | ocb
  deriving DecidableEq, Repr

/-- The name of a mode. -/
def Mode.name : Mode → String
  | cbc => "openpgp-s2k3-sha1-aes-cbc"
  | ocb => "openpgp-s2k3-ocb-aes"

/-- The mode of a name. -/
def Mode.ofName? (name : String) : Option Mode :=
  [cbc, ocb].find? fun mode => mode.name == name

/-- Which modes are available, and how long derived keys are. -/
structure Context where
  modes : List Mode := [.cbc, .ocb]
  keyLength : Nat := 16
  deriving DecidableEq, Repr

/-! ## Why there is no secret -/

/-- A reason why a key yields no secret parameters. -/
inductive UnprotectError where
  | unsupportedAlgorithm (algorithm : Octets)
  | smartcard
  | noProtection
  | malformedProtection
  | unsupportedMode (name : String)
  | unsupportedS2k
  /-- The key is protected, and there was no passphrase. -/
  | passphraseRequired
  /-- The string-to-key function has no value. -/
  | s2k (cause : S2k.Error)
  | malformedCbc
  | malformedOcb
  /-- The payload does not authenticate. -/
  | badPassphrase
  /-- The payload authenticates, and holds no secret parameters. -/
  | malformedPayload
  /-- Secret parameters that the family needs are missing. -/
  | missing (names : List String)
  /-- The prime factors of an RSA key do not multiply to its modulus. -/
  | modulusMismatch
  deriving DecidableEq, Repr

/-- The wording of a reason. -/
def UnprotectError.message : UnprotectError → String
  | unsupportedAlgorithm algorithm => "unsupported key algorithm " ++ Octets.asciiText algorithm
  | smartcard => "secret key is held by a smartcard"
  | noProtection => "protected key has no protection element"
  | malformedProtection => "malformed protection parameters"
  | unsupportedMode name => "unsupported key protection " ++ name
  | unsupportedS2k => "unsupported S2K parameters"
  | passphraseRequired => "a passphrase is required to unlock this key"
  | s2k .negativeExponent => "negative shift count"
  | s2k .nothingToHash => "neither salt nor passphrase"
  | malformedCbc => "malformed CBC-protected key"
  | malformedOcb => "malformed OCB-protected key"
  | badPassphrase => "bad passphrase or corrupt key"
  | malformedPayload => "authenticated key payload is malformed"
  | missing names => "secret key lacks " ++ String.intercalate ", " names
  | modulusMismatch => "RSA secret parameters do not match the modulus"

/-- Whether another passphrase may help. -/
def UnprotectError.isDecryption : UnprotectError → Bool
  | passphraseRequired => true
  | badPassphrase => true
  | _ => false

/-! ## The parameters of a protection -/

/-- What a protection element says. -/
structure Protection where
  mode : Mode
  salt : Octets
  count : Int
  iv : Octets
  ciphertext : Octets
  deriving DecidableEq, Repr

/-- The parts of the string-to-key element: hash, salt and count. A single atom of three octets
also comes apart into three, none of which is what is expected. -/
inductive S2kParts where
  | parts (hash salt : SExpr) (count : Int)
  | octets

/-- Takes the string-to-key element apart. -/
def s2kParts? : SExpr → Option S2kParts
  | .list [hash, salt, .atom count] => (Numeral.int? 10 count).map (.parts hash salt)
  | .atom [_, _, _] => some .octets
  | _ => none

/-- Reads a protection element. -/
def protection : List SExpr → Except UnprotectError Protection
  | [_, .atom mode, .list [s2k, iv], ciphertext] =>
    match s2kParts? s2k with
    | none => .error .malformedProtection
    | some parts =>
      if !Octets.isAscii mode then .error .malformedProtection
      else
        match Mode.ofName? (Octets.asciiText mode) with
        | none => .error (.unsupportedMode (Octets.asciiText mode))
        | some mode =>
          match parts with
          | .octets => .error .unsupportedS2k
          | .parts (.atom hash) (.atom salt) count =>
            if hash ≠ Octets.ofText "sha1" ∨ salt.length ≠ 8 then .error .unsupportedS2k
            else
              match iv, ciphertext with
              | .atom iv, .atom ciphertext => .ok { mode, salt, count, iv, ciphertext }
              | _, _ => .error .malformedProtection
          | .parts _ _ _ => .error .unsupportedS2k
  | _ => .error .malformedProtection

/-- Whether an element is the protection. -/
def isProtection (element : SExpr) : Bool := element.headedBy (Octets.ofText "protected")

/-- The elements before the protection, the items of the protection, the elements behind it. -/
def splitProtection : List SExpr → Option (List SExpr × List SExpr × List SExpr)
  | [] => none
  | element :: rest =>
    if isProtection element then
      match element with
      | .list items => some ([], items, rest)
      | .atom _ => none
    else (splitProtection rest).map fun (before, items, after) => (element :: before, items, after)

/-! ## The two modes -/

/-- The canonical form of a key with the given elements. -/
def canonicalKey (algorithm : Octets) (elements : List SExpr) : Octets :=
  (SExpr.list (.atom algorithm :: elements)).canonical

/-- The code that authenticates a key with the given elements. -/
def authenticationCode (algorithm : Octets) (elements : List SExpr) : Octets :=
  Digest.sha1 (canonicalKey algorithm elements)

/-- The secret elements and the code of a decrypted payload. -/
def payloadParts? : List SExpr → Option (List SExpr × Octets)
  | .list secret :: .list [.atom hash, .atom name, .atom code] :: _ =>
    if hash = Octets.ofText "hash" ∧ name = Octets.ofText "sha1" then some (secret, code) else none
  | _ => none

/-! The block cipher takes keys of 16, 24 and 32 octets and refuses others. No refusal is modelled:
what follows says something of the program for keys of these lengths only. -/

/-- Decrypts and authenticates with chaining. The payload is decrypted to the front of a buffer of
zeros, which has room for one block less an octet more. The key has 16, 24 or 32 octets. -/
def decryptCbc (algorithm key iv ciphertext : Octets) (before after : List SExpr) :
    Except UnprotectError (List SExpr) :=
  if ciphertext.isEmpty ∨ ciphertext.length % 16 ≠ 0 ∨ iv.length ≠ 16 then .error .malformedCbc
  else
    match SExpr.parsePadded (Cipher.cbcDecrypt key iv ciphertext ++ List.replicate 15 0) with
    | .error _ => .error .badPassphrase
    | .ok payload =>
      match payloadParts? payload with
      | none => .error .badPassphrase
      | some (secret, code) =>
        if authenticationCode algorithm (before ++ secret ++ after) = code then .ok secret
        else .error .badPassphrase

/-- Decrypts and authenticates with OCB. The key has 16, 24 or 32 octets. -/
def decryptOcb (algorithm key nonce ciphertext : Octets) (before after : List SExpr) :
    Except UnprotectError (List SExpr) :=
  if nonce.length ≠ 12 ∨ ciphertext.length ≤ 16 then .error .malformedOcb
  else
    match Cipher.Ocb.decrypt? key nonce ciphertext (canonicalKey algorithm (before ++ after)) with
    | none => .error .badPassphrase
    | some plain =>
      match SExpr.parsePadded plain with
      | .error _ => .error .malformedPayload
      | .ok (.list secret :: _) => .ok secret
      | .ok _ => .error .malformedPayload

/-! ## Secret parameters -/

/-- The value of the last entry with a name. -/
def lastValue? (name : String) (table : List (String × Octets)) : Option Octets :=
  table.reverse.lookup name

/-- The secret parameters of a family among elements; of several with one name the last counts. -/
def collectSecret (family : Family) (elements : List SExpr) :
    Except UnprotectError (List (String × Octets)) :=
  let table := elements.filterMap parameter?
  match family.secretFields.filter fun field => (lastValue? field.name table).isNone with
  | [] => .ok (family.secretFields.map fun field =>
      (field.name, (lastValue? field.name table).getD []))
  | absent => .error (.missing (absent.map KeyField.name))

/-- The value of a named number; a missing one counts as zero. -/
def numberOf (name : String) (table : List (String × Octets)) : Nat :=
  Octets.toNat ((table.lookup name).getD [])

/-- Whether secret parameters go with clear ones: the factors of an RSA modulus multiply to it. -/
def consistent (family : Family) (clear secret : List (String × Octets)) : Bool :=
  match family, clear.lookup "n" with
  | .rsa, some modulus => numberOf "p" secret * numberOf "q" secret == Octets.toNat modulus
  | _, _ => true

/-- Collects the secret parameters among elements and checks them against the clear ones. -/
def acceptSecret (key : AgentKey) (family : Family) (elements : List SExpr) :
    Except UnprotectError (List (String × Octets)) :=
  match collectSecret family elements with
  | .error e => .error e
  | .ok secret =>
    if consistent family key.parameters secret then .ok secret else .error .modulusMismatch

/-- Decrypts what a protection protects. -/
def decrypt (algorithm : Octets) (protection : Protection) (before after : List SExpr)
    (derived : Octets) : Except UnprotectError (List SExpr) :=
  match protection.mode with
  | .cbc => decryptCbc algorithm derived protection.iv protection.ciphertext before after
  | .ocb => decryptOcb algorithm derived protection.iv protection.ciphertext before after

/-- The elements that hold the secret parameters: those of the key if it is in the clear, else what
its protection protects. -/
def secretElements (key : AgentKey) (passphrase : Option Octets) (context : Context) :
    Except UnprotectError (List SExpr) :=
  match key.kind with
  | .plain => .ok key.elements
  | .shadowed => .error .smartcard
  | .guarded =>
    match splitProtection key.elements with
    | none => .error .noProtection
    | some (before, items, after) =>
      match protection items with
      | .error e => .error e
      | .ok protection =>
        if !context.modes.contains protection.mode then
          .error (.unsupportedMode protection.mode.name)
        else
          match passphrase with
          | none => .error .passphraseRequired
          | some passphrase =>
            match S2k.derive passphrase protection.salt protection.count context.keyLength with
            | .error e => .error (.s2k e)
            | .ok derived => decrypt key.algorithm protection before after derived

/-- The secret parameters of a key, decrypted under a passphrase where the key is protected. -/
def unprotect (key : AgentKey) (passphrase : Option Octets) (context : Context) :
    Except UnprotectError (List (String × Octets)) :=
  match key.family? with
  | none => .error (.unsupportedAlgorithm key.algorithm)
  | some family =>
    match secretElements key passphrase context with
    | .error e => .error e
    | .ok elements => acceptSecret key family elements

end CommitSeal.AgentKey
