import CommitSeal.Path

/-!
# Failures and faults

A `Failure` is a condition that the library itself reports: a key that cannot be found, a store
that is damaged, a secret that cannot be decrypted. A `Fault` is anything an operation can end
with: a failure, or one of the conditions that belong to its input, its collaborators or its
surroundings.
-/

namespace CommitSeal

/-! ## Failures -/

/-- Why a key is not found. -/
inductive Failure.Cause where
  /-- For an unspecified reason. -/
  | unspecified
  /-- There is no store at the path. -/
  | storeMissing
  /-- No public key has the identifier. -/
  | publicKeyMissing
  /-- No secret key belongs to the public key. -/
  | secretKeyMissing
  /-- No store of any layout exists. -/
  | noStore
  deriving DecidableEq, Repr

/-- A condition that the library reports. -/
inductive Failure where
  /-- Of no particular kind. -/
  | general (reason : String)
  /-- A key is not found. -/
  | unresolved (cause : Failure.Cause) (reason : String) (keyId : Option String)
      (path : Option Path)
  /-- A store is damaged. -/
  | storeCorrupt (reason : String) (path : Option Path)
  /-- The passphrase is wrong, or the secret part damaged. -/
  | undecrypted (reason : String)
  /-- No passphrase was given. -/
  | cancelled (reason : String)
  /-- A key cannot be used, whatever the passphrase. -/
  | undecodable (reason : String)
  deriving DecidableEq, Repr

namespace Failure

/-- What a resolution was about: the key asked for, and the store it was looked for in. -/
def details (keyId : Option String) (path : Option Path) : List String :=
  (keyId.map fun id => "key " ++ (if id = "" then "<unset>" else id)).toList
    ++ (path.map fun path => "in " ++ path.text).toList

/-- A reason, and details in brackets if there are any. -/
def withDetails (reason : String) : List String → String
  | [] => reason
  | details => reason ++ " (" ++ String.intercalate ", " details ++ ")"

/-- The wording of a failure. -/
def text : Failure → String
  | general reason => reason
  | unresolved _ reason keyId path => withDetails reason (details keyId path)
  | storeCorrupt reason path => withDetails reason (path.map Path.text).toList
  | undecrypted reason => reason
  | cancelled reason => reason
  | undecodable reason => reason

/-! ## Kinds -/

/-- The kinds of failures. -/
inductive Kind where
  | general
  | unresolved
  | storeMissing
  | publicKeyMissing
  | secretKeyMissing
  | noStore
  | storeCorrupt
  | undecrypted
  | cancelled
  | undecodable
  deriving DecidableEq, Repr

/-- The kind of an unresolved key. -/
def Cause.kind : Cause → Kind
  | unspecified => .unresolved
  | storeMissing => .storeMissing
  | publicKeyMissing => .publicKeyMissing
  | secretKeyMissing => .secretKeyMissing
  | noStore => .noStore

/-- The kind of a failure. -/
def kind : Failure → Kind
  | general _ => .general
  | unresolved cause _ _ _ => cause.kind
  | storeCorrupt _ _ => .storeCorrupt
  | undecrypted _ => .undecrypted
  | cancelled _ => .cancelled
  | undecodable _ => .undecodable

/-- The kinds that a kind is a case of, from the kind itself to the most general one. -/
def Kind.lineage : Kind → List Kind
  | general => [general]
  | storeMissing => [storeMissing, unresolved, general]
  | publicKeyMissing => [publicKeyMissing, unresolved, general]
  | secretKeyMissing => [secretKeyMissing, unresolved, general]
  | noStore => [noStore, unresolved, general]
  | kind => [kind, general]

/-- Whether failures of a kind say which key was asked for. -/
def Kind.hasKeyId (kind : Kind) : Bool := kind.lineage.contains .unresolved

/-- Whether failures of a kind say which store was consulted. -/
def Kind.hasPath (kind : Kind) : Bool := kind.hasKeyId || kind == .storeCorrupt

/-- The failure of a kind; what the kind has no place for is dropped. -/
def ofKind (reason : String) (keyId : Option String) (path : Option Path) : Kind → Failure
  | .general => general reason
  | .unresolved => unresolved .unspecified reason keyId path
  | .storeMissing => unresolved .storeMissing reason keyId path
  | .publicKeyMissing => unresolved .publicKeyMissing reason keyId path
  | .secretKeyMissing => unresolved .secretKeyMissing reason keyId path
  | .noStore => unresolved .noStore reason keyId path
  | .storeCorrupt => storeCorrupt reason path
  | .undecrypted => undecrypted reason
  | .cancelled => cancelled reason
  | .undecodable => undecodable reason

/-- The failure of a kind, with a key and a store if they are stated. One that the kind has no place
for must not be stated, be it as nothing. -/
def make? (kind : Kind) (reason : String) (keyId : Option (Option String))
    (path : Option (Option Path)) : Option Failure :=
  if (keyId.isSome && !kind.hasKeyId) || (path.isSome && !kind.hasPath) then none
  else some (ofKind reason keyId.join path.join kind)

/-- Whether a failure is that of a key which is not found. -/
def isResolution : Failure → Bool
  | unresolved _ _ _ _ => true
  | _ => false

/-- The key that was asked for. -/
def keyId? : Failure → Option String
  | unresolved _ _ keyId _ => keyId
  | _ => none

/-- The store that was consulted. -/
def path? : Failure → Option Path
  | unresolved _ _ _ path => path
  | storeCorrupt _ path => path
  | _ => none

end Failure

/-! ## Faults -/

/-- The kinds of data that can be malformed by themselves. -/
inductive Fault.Format where
  | expression
  | packet
  | keyFeature
  | keybox
  deriving DecidableEq, Repr

/-- The ways in which a cryptographic primitive refuses its input. -/
inductive Fault.Refusal where
  | key
  | signature
  | algorithm
  deriving DecidableEq, Repr

/-- What an operation can end with in place of a result. -/
inductive Fault where
  /-- A condition that the library reports. -/
  | failed (failure : Failure)
  /-- An input value that is not admitted. -/
  | invalid (message : String)
  /-- A field of a record that is not admitted. -/
  | badField (field message : String)
  /-- Data that does not follow its format. -/
  | malformed (format : Fault.Format) (message : String)
  /-- A primitive that refused a key, a signature or an algorithm. -/
  | refused (refusal : Fault.Refusal) (message : String)
  /-- Octets that are no text. -/
  | notText
  /-- A text that has no UTF-8 form. -/
  | unencodable
  /-- A list where an atom names a kind. -/
  | listForKind
  /-- A number that has no encoding. -/
  | numberTooLong
  /-- A home directory that cannot be found. -/
  | noHome
  /-- A path that is too long to be looked up. -/
  | pathTooLong
  /-- A credential source that broke off. -/
  | interrupted
  /-- A key without something that its use rests on, as a subkey without its primary key. -/
  | incompleteKey
  /-- A subkey without a signature that binds it. -/
  | unboundKey
  /-- A key that is not sealed among keys to be unlocked. -/
  | unsealedKey
  /-- A secret key of which only a stub is stored. -/
  | stubKey
  /-- A cipher that is known by number only. -/
  | unusableCipher
  /-- Neither salt nor passphrase to make a key of. -/
  | nothingToHash
  /-- Data that ends inside the header of a packet. -/
  | truncatedHeader
  /-- A user or a subkey in front of every primary key. -/
  | ownerlessPacket
  /-- A signature that does not state when it was made, or by which key. -/
  | unstatedSignature
  /-- A signature that does not cover what its key is meant for. -/
  | uncoveredFlags
  /-- A signature that does not cover which digests are preferred. -/
  | uncoveredPreferences
  /-- A curve that is known by name only. -/
  | unusableCurve
  /-- A key of a ring that is not among the keys of its certificate. -/
  | unlistedKey
  deriving DecidableEq, Repr

namespace Fault

/-- Whether the operation was given something that it does not admit. -/
def isInvalid : Fault → Bool
  | invalid _ => true
  | badField _ _ => true
  | malformed _ _ => true
  | notText => true
  | unencodable => true
  | _ => false

/-- Whether the operation's own failure or its input is to blame, so that it can be reported to the
user as such. -/
def isReportable : Fault → Bool
  | failed _ => true
  | fault => fault.isInvalid

/-- The wording of a fault. -/
def text : Fault → String
  | failed failure => failure.text
  | invalid message => message
  | badField field message => "1 validation error for " ++ field ++ ": " ++ message
  | malformed _ message => message
  | refused _ message => message
  | notText => "octets that are no UTF-8 text"
  | unencodable => "a text that has no UTF-8 form"
  | listForKind => "a list where an atom names a kind"
  | numberTooLong => "a number that is too long"
  | noHome => "no home directory"
  | pathTooLong => "a path that is too long"
  | interrupted => "the credential source broke off"
  | incompleteKey => "a key that lacks what its use rests on"
  | unboundKey => "a subkey that no signature binds"
  | unsealedKey => "a key that is not sealed"
  | stubKey => "a secret key of which only a stub is stored"
  | unusableCipher => "a cipher that is known by number only"
  | nothingToHash => "neither salt nor passphrase"
  | truncatedHeader => "data that ends inside the header of a packet"
  | ownerlessPacket => "a user or subkey in front of every primary key"
  | unstatedSignature => "a signature without its time or its key"
  | uncoveredFlags => "a signature that does not cover what its key is meant for"
  | uncoveredPreferences => "a signature that does not cover which digests are preferred"
  | unusableCurve => "a curve that is known by name only"
  | unlistedKey => "a key that its certificate does not list"

end Fault

/-! ## What a fault says about a passphrase -/

/-- What became of the use of a passphrase. -/
inductive Outcome where
  /-- It served. -/
  | succeeded
  /-- The key cannot be used, for the reason of a failure that says so. -/
  | unusable (failure : Failure)
  /-- The key or its store is broken. -/
  | broken (text : String)
  /-- It did not serve, for a reason that another passphrase may not have. -/
  | refused
  deriving DecidableEq, Repr

/-- What a fault says about the passphrase it was met with. -/
def Fault.outcome : Fault → Outcome
  | .failed (.undecodable reason) => .unusable (.undecodable reason)
  | .failed (.storeCorrupt reason path) => .broken (Failure.storeCorrupt reason path).text
  | .refused _ message => .broken message
  | _ => .refused

end CommitSeal
