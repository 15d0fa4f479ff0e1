import CommitSeal.Cipher.Chaining
import CommitSeal.Digest.Algorithm
import CommitSeal.S2k
import CommitSeal.Transferable.Material

/-!
# The secret part of a key packet

Secret numbers are stored in the clear, or sealed: encrypted under a key that is stretched from a
passphrase, with a check behind the numbers. A stub says that the numbers are elsewhere.

A sealed part is opened by `SecretPart.unlock`. While it is sealed its numbers count as zero.
-/

namespace CommitSeal.Transferable

/-! ## Stored forms -/

/-- How a passphrase becomes a key. -/
inductive Stretching where
  /-- By hashing it once. -/
  | plain
  /-- By hashing it once behind a salt. -/
  | salted (salt : Octets)
  /-- By hashing it behind a salt, over and over up to a coded count. -/
  | iterated (salt : Octets) (count : UInt8)
  deriving DecidableEq, Repr

/-- The count of octets that a coded count stands for. -/
def octetCount (coded : UInt8) : Nat := (16 + coded.toNat % 16) <<< (coded.toNat / 16 + 6)

/-- The octets that are hashed, and how many of them if they were repeated without end. -/
def Stretching.input (passphrase : Octets) : Stretching → Octets × Nat
  | .plain => (passphrase, 0)
  | .salted salt => (salt ++ passphrase, 0)
  | .iterated salt count => (salt ++ passphrase, octetCount count)

/-- How secret numbers are sealed. -/
structure Sealing where
  /-- The octet that says so, and which check there is. -/
  usage : UInt8
  cipher : UInt8
  digest : UInt8
  stretching : Stretching
  initial : Octets
  /-- All of this as it was written. -/
  head : Octets
  deriving DecidableEq, Repr

/-- The secret part of a key packet. -/
inductive SecretPart where
  /-- In the clear, behind the octet that says so, and a check that is not compared. -/
  | clear (usage : UInt8) (numbers : List Nat) (check : Octets)
  /-- Sealed. -/
  | locked (how : Sealing) (content : Octets)
  /-- Kept elsewhere; only octets that say so are stored. -/
  | stub (octets : Octets)
  deriving DecidableEq, Repr

/-- Whether an octet announces that secret numbers are sealed. -/
def isSealedUsage (usage : UInt8) : Bool := usage = 254 || usage = 255

/-- How many octets a block of a cipher has. -/
def blockLength? (cipher : UInt8) : Option Nat :=
  if 1 ≤ cipher ∧ cipher ≤ 4 then some 8
  else if 7 ≤ cipher ∧ cipher ≤ 13 then some 16
  else none

namespace SecretPart

/-- The octets that mark a stub. -/
def stubMark : Octets := [0x00, 0x47, 0x4E, 0x55]

/-- Reads what announces a stub, behind its specifier: a mark and a mode, and for a card its serial
number, of which no more than 16 octets count. The answer is written anew. -/
def readStub : Reader Octets
  | 0x00 :: 0x47 :: 0x4E :: 0x55 :: mode :: rest =>
    if mode = 1 then .ok (stubMark ++ [mode], rest)
    else if mode = 2 then
      match rest with
      | [] => .error (.malformed "a packet ends early")
      | size :: rest =>
        let serial := rest.take (min size.toNat 16)
        let written := if serial.isEmpty then [] else UInt8.ofNat serial.length :: serial
        .ok (stubMark ++ mode :: written, rest.drop (min size.toNat 16))
    else .error (.malformed "an unknown kind of stub")
  | _ => .error (.malformed "an unknown kind of stub")

/-- Reads how a passphrase becomes a key, behind the digest's octet. -/
def readStretching (specifier : UInt8) : Reader Stretching := fun data =>
  if specifier = 0 then .ok (.plain, data)
  else
    let salt := data.take 8
    let rest := data.drop 8
    if specifier = 3 then
      match readOctet rest with
      | .error e => .error e
      | .ok (count, rest) => .ok (.iterated salt count, rest)
    else .ok (.salted salt, rest)

/-- Reads what seals secret numbers in earnest, behind the specifier. -/
def readSealing (usage cipher specifier : UInt8) : Reader Sealing := fun data =>
  match readOctet data with
  | .error e => .error e
  | .ok (digest, rest) =>
    match readStretching specifier rest with
    | .error e => .error e
    | .ok (stretching, rest) =>
      match blockLength? cipher with
      | none => .error (.malformed "a cipher without blocks")
      | some length =>
        if isDigestNumber digest then
          let announced := usage :: cipher :: specifier :: digest ::
            (match stretching with
            | .plain => []
            | .salted salt => salt
            | .iterated salt count => salt ++ [count])
          let initial := rest.take length
          .ok ({ usage, cipher, digest, stretching, initial, head := announced ++ initial },
            rest.drop length)
        else .error (.malformed "an unknown digest")

/-- Reads a sealed part, of which `usage` is the first octet; it takes all octets. -/
def readSealed (usage : UInt8) : Octets → Except Error SecretPart
  | cipher :: specifier :: rest =>
    if !isCipherNumber cipher then .error (.malformed "an unknown cipher")
    else if specifier = 101 then
      match readStub rest with
      | .error e => .error e
      | .ok (announcement, content) =>
        .ok (stub (usage :: cipher :: specifier :: (announcement ++ content)))
    else if specifier = 0 ∨ specifier = 1 ∨ specifier = 2 ∨ specifier = 3 then
      match readSealing usage cipher specifier rest with
      | .error e => .error e
      | .ok (how, content) => .ok (locked how content)
    else .error (.malformed "an unknown way to stretch a passphrase")
  | _ => .error (.malformed "a packet ends early")

/-- Reads a secret part with a number of secret numbers; it takes all octets. -/
def read (count : Nat) : Octets → Except Error SecretPart
  | [] => .error (.malformed "a packet ends early")
  | usage :: rest =>
    if isSealedUsage usage then readSealed usage rest
    else
      match readNumbers count rest with
      | (numbers, rest) => .ok (clear usage numbers (if usage = 0 then rest.take 2 else []))

/-- Writes a secret part. -/
def encode : SecretPart → Octets
  | clear usage numbers check => usage :: (encodeNumbers numbers ++ check)
  | locked how content => how.head ++ content
  | stub octets => octets

/-- Whether a passphrase belongs to a secret part. -/
def isProtected : SecretPart → Bool
  | clear _ _ _ => false
  | locked _ _ => true
  | stub _ => true

/-- The secret numbers as far as they are known: those not in the clear count as zero. -/
def numbers (count : Nat) : SecretPart → List Nat
  | clear _ numbers _ => numbers
  | locked _ _ => List.replicate count 0
  | stub _ => List.replicate count 0

/-! ## Unlocking -/

/-- Why a secret part is not unlocked. -/
inductive UnlockError where
  /-- There is nothing to unlock. -/
  | notLocked
  /-- Only a stub is stored. -/
  | elsewhere
  /-- Neither salt nor passphrase. -/
  | nothingToHash
  /-- The digest has a number and no more. -/
  | noDigest (name : String)
  /-- The cipher has a number and no more. -/
  | noCipher
  /-- The initial block is shorter than blocks are. -/
  | shortInitial (length : Nat)
  /-- The check behind the numbers fails. -/
  | wrongPassphrase
  deriving DecidableEq, Repr

/-- The name of a digest that has a number and no more. -/
def reservedName (digest : UInt8) : String :=
  if digest = 4 then "_reserved_1"
  else if digest = 5 then "_reserved_2"
  else if digest = 6 then "_reserved_3"
  else if digest = 7 then "_reserved_4"
  else "Invalid"

/-- A key of `length` octets that a digest makes of repeated octets. -/
def stretch (algorithm : DigestAlgorithm) (data : Octets) (count length : Nat) : Octets :=
  match algorithm with
  | .md5 => S2k.expand Digest.Md5.construction 16 data count length
  | .sha1 => S2k.expand Digest.Sha1.construction 20 data count length
  | .ripemd160 => S2k.expand Digest.Ripemd160.construction 20 data count length
  | .sha224 => S2k.expand Digest.sha224Construction 28 data count length
  | .sha256 => S2k.expand Digest.sha256Construction 32 data count length
  | .sha384 => S2k.expand Digest.sha384Construction 48 data count length
  | .sha512 => S2k.expand Digest.sha512Construction 64 data count length

/-- How many octets a key of a cipher has, for the ciphers that open anything here. -/
def keyLength? (cipher : UInt8) : Option Nat :=
  if cipher = 7 then some 16 else if cipher = 8 then some 24 else if cipher = 9 then some 32
  else none

/-- The number of a cipher that has a number and no more. -/
def reservedCipher : UInt8 := 10

/-- The last octets, and what stands in front of them. -/
def splitEnd (count : Nat) (octets : Octets) : Octets × Octets :=
  (octets.take (octets.length - count), octets.drop (octets.length - count))

/-- Whether the check behind opened numbers holds: a digest, or a sum of octets. -/
def checks (usage : UInt8) (opened : Octets) : Bool :=
  if usage = 254 then
    match splitEnd 20 opened with
    | (content, check) => check == Digest.sha1 content
  else
    match splitEnd 2 opened with
    | (content, check) => Octets.toNat check == Octets.sum content % 65536

/-- Opens sealed octets under a passphrase. A cipher that opens nothing here cannot be told from a
wrong passphrase. -/
def openSealed (how : Sealing) (passphrase content : Octets) : Except UnlockError Octets :=
  match how.stretching.input passphrase, DigestAlgorithm.ofNumber? how.digest with
  | _, none => .error (.noDigest (reservedName how.digest))
  | ([], _), _ => .error .nothingToHash
  | (data, count), some algorithm =>
    if how.cipher = reservedCipher then .error .noCipher
    else if some how.initial.length ≠ blockLength? how.cipher then
      .error (.shortInitial how.initial.length)
    else
      match keyLength? how.cipher with
      | none => .error .wrongPassphrase
      | some length =>
        let opened := Cipher.cfbDecrypt (stretch algorithm data count length) how.initial content
        if checks how.usage opened then .ok opened else .error .wrongPassphrase

/-- Why a stub is not unlocked: one that names a cipher is taken for sealed, under no digest. -/
def stubError : (stub : Octets) → UnlockError
  | _ :: cipher :: _ => if cipher = 0 then .elsewhere else .noDigest (reservedName 0)
  | _ => .elsewhere

/-- A secret part with its numbers in the clear. -/
def unlock (count : Nat) (passphrase : Octets) : SecretPart → Except UnlockError SecretPart
  | clear _ _ _ => .error .notLocked
  | stub octets => .error (stubError octets)
  | locked how content =>
    match openSealed how passphrase content with
    | .error e => .error e
    | .ok opened =>
      match readNumbers count opened with
      | (numbers, rest) => .ok (clear how.usage numbers rest)

end SecretPart

end CommitSeal.Transferable
