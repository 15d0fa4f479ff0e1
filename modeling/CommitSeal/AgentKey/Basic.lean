import CommitSeal.SExpr.KeyFile
import CommitSeal.Packet.PublicKey

/-!
# Stored secret keys

The expression of a secret key file is a kind and a body: `(private-key (rsa (n …) …))`. The body
is headed by the algorithm, and its elements are parameters, `(name value)`, and the protection of
those that are secret. An `AgentKey` is such a file read; `AgentKey.Matches` of a public key is
decided by the values of the public numbers alone.
-/

namespace CommitSeal

/-- How the secret part of a stored key is kept. -/
inductive AgentKey.Kind where
  /-- In the clear. -/
  | plain
  /-- Encrypted under a passphrase. -/
  | guarded
  /-- On a smartcard. -/
  | shadowed
  deriving DecidableEq, Repr

/-- The families of stored keys. -/
inductive AgentKey.Family where
  | rsa
  | dsa
  | elgamal
  | curve
  deriving DecidableEq, Repr

/-- A stored key: its kind, the atom that names its algorithm, and the elements behind it. -/
structure AgentKey where
  kind : AgentKey.Kind
  algorithm : Octets
  elements : List SExpr

namespace AgentKey

/-! ## Kinds and families -/

/-- The atom that names a kind. -/
def Kind.atom : Kind → Octets
  | plain => Octets.ofText "private-key"
  | guarded => Octets.ofText "protected-private-key"
  | shadowed => Octets.ofText "shadowed-private-key"

/-- The kind that an atom names. -/
def Kind.ofAtom? (atom : Octets) : Option Kind :=
  [plain, guarded, shadowed].find? fun kind => kind.atom == atom

/-- The short name of a family. -/
def Family.name : Family → String
  | rsa => "rsa"
  | dsa => "dsa"
  | elgamal => "elg"
  | curve => "ecc"

/-- The atoms that name algorithms. -/
def Family.atoms : List (String × Family) :=
  [("rsa", .rsa), ("dsa", .dsa), ("elg", .elgamal), ("openpgp-elg", .elgamal), ("ecc", .curve),
    ("ecdsa", .curve), ("eddsa", .curve), ("ecdh", .curve)]

/-- The family that an algorithm atom names. -/
def Family.ofAtom? (atom : Octets) : Option Family :=
  (Family.atoms.find? fun entry => Octets.ofText entry.1 == atom).map Prod.snd

/-- The family that stores the keys of an OpenPGP family. -/
def Family.ofKeyFamily : KeyFamily → Family
  | .rsa => .rsa
  | .dsa => .dsa
  | .elgamal => .elgamal
  | .ecdh => .curve
  | .ecdsa => .curve
  | .eddsa => .curve

/-- The secret parameters of a family, in the order in which they are handed on. -/
def Family.secretFields : Family → List KeyField
  | .rsa => [.d, .p, .q, .u]
  | .dsa => [.x]
  | .elgamal => [.x]
  | .curve => [.d]

/-- The family of a key, if its algorithm is handled. -/
def family? (key : AgentKey) : Option Family := Family.ofAtom? key.algorithm

/-! ## Parameters -/

/-- The name and value of an element that is a parameter: a list of two atoms. -/
def parameter? : SExpr → Option (String × Octets)
  | .list [.atom name, .atom value] => some (Octets.asciiText name, value)
  | _ => none

/-- Adds an entry to a table unless its name is there. -/
def addFirst (table : List (String × Octets)) (entry : String × Octets) :
    List (String × Octets) :=
  if table.any (fun known => known.1 == entry.1) then table else table ++ [entry]

/-- The parameters stored in the clear, in order of first appearance; of several with one name the
first counts. -/
def parameters (key : AgentKey) : List (String × Octets) :=
  (key.elements.filterMap parameter?).foldl addFirst []

/-- Whether a public field has the same value among stored parameters. Fields that are no numbers
are not stored under their own name and count as equal. -/
def fieldMatches (stored : List (String × Octets)) (entry : KeyField × Octets) : Bool :=
  entry.1.isPrefixed ||
    match stored.lookup entry.1.name with
    | some value => Octets.toNat value == Octets.toNat entry.2
    | none => false

/-- Whether the public numbers stored with a key are those of a public key. -/
def fits (key : AgentKey) (publicKey : PublicKey) : Bool :=
  key.family? == some (Family.ofKeyFamily publicKey.family)
    && publicKey.fields.all (fieldMatches key.parameters)

/-! ## Reading a key file -/

/-- Why a file is no secret key file. -/
inductive LoadError where
  /-- It holds no S-expression. -/
  | malformed (cause : SExpr.ReadError)
  /-- Its expression is not headed by a kind of secret key. -/
  | notASecretKey
  /-- Its expression is headed by a list, which no kind can be looked up by. -/
  | listForKind
  /-- The body of its expression is not headed by an algorithm. -/
  | noAlgorithm
  deriving DecidableEq, Repr

/-- The wording of a refusal. -/
def LoadError.message : LoadError → String
  | malformed cause => cause.message
  | notASecretKey => "not a secret key expression"
  | listForKind => "list in place of a kind"
  | noAlgorithm => "secret key expression lacks an algorithm"

/-- Reads the expression of a secret key. -/
def ofItems : List SExpr → Except LoadError AgentKey
  | .atom kind :: body :: _ =>
    match Kind.ofAtom? kind with
    | none => .error .notASecretKey
    | some kind =>
      match body with
      | .list (.atom algorithm :: elements) => .ok { kind, algorithm, elements }
      | _ => .error .noAlgorithm
  | .list _ :: _ :: _ => .error .listForKind
  | _ => .error .notASecretKey

/-- Reads a secret key file. -/
def load (file : Octets) : Except LoadError AgentKey :=
  match SExpr.parseKeyFile file with
  | .error e => .error (.malformed e)
  | .ok items => ofItems items

end AgentKey

end CommitSeal
