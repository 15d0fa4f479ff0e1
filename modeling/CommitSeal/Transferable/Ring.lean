import CommitSeal.Transferable.Element

/-!
# Transferable keys

A `Ring` is a primary key with what hangs on it: signatures on the key itself, users with the
signatures on them, and subkeys with theirs. `Ring.list` assembles rings from packets, and
`Ring.encode` writes one.

Signatures are kept in the order of their making, and of two made in the same second the one read
later stands first. Users are kept with texts before attributes, main users before others, and then
by how new the primary key's signature on them is.
-/

namespace CommitSeal.Transferable

/-! ## Kept orders -/

/-- Inserts an item into a sorted list, in front of those that are not less. The place is found by
halving, and a comparison that fails ends the search; `fuel` is at least the length of the list. -/
def insertFrom {α : Type} (less : α → α → Except Error Bool) (item : α) :
    (fuel : Nat) → List α → Except Error (List α)
  | 0, items => .ok (item :: items)
  | fuel + 1, items =>
    match items.splitAt (items.length / 2) with
    | (front, []) => .ok (front ++ [item])
    | (front, middle :: back) =>
      match less middle item with
      | .error e => .error e
      | .ok true => (insertFrom less item fuel back).map fun back => front ++ middle :: back
      | .ok false => (insertFrom less item fuel front).map fun front => front ++ middle :: back

/-- Inserts an item into a sorted list, in front of those that are not less. -/
def insertSorted {α : Type} (less : α → α → Except Error Bool) (item : α) (items : List α) :
    Except Error (List α) :=
  insertFrom less item items.length items

/-- Whether a signature was made before another. -/
def Certification.precedes (left right : Certification) : Except Error Bool :=
  match left.created, right.created with
  | .ok earlier, .ok later => .ok (earlier < later)
  | .error e, _ => .error e
  | _, .error e => .error e

/-! ## Signatures on keys -/

/-- A signature on a key, and whether it came inside of another. -/
structure Attached where
  signature : Certification
  isWithin : Bool
  deriving DecidableEq, Repr

namespace Attached

/-- Attaches a signature. -/
def insert (attached : Attached) (others : List Attached) : Except Error (List Attached) :=
  insertSorted (fun left right => left.signature.precedes right.signature) attached others

/-- Attaches a signature to a key; where it binds a subkey, the signatures inside of it too. -/
def add (signature : Certification) (others : List Attached) : Except Error (List Attached) :=
  let inner := if signature.type = Certification.subkeyBinding then signature.embedded else []
  let attached : List Attached := ⟨signature, false⟩ :: inner.map fun inner => ⟨inner, true⟩
  attached.foldlM (fun others attached => attached.insert others) others

/-- Signatures attached to a key one after the other. -/
def ofList (signatures : List Certification) : Except Error (List Attached) :=
  signatures.foldlM (fun others signature => add signature others) []

/-- The signatures that came by themselves. -/
def standing (attached : List Attached) : List Certification :=
  (attached.filter fun attached => !attached.isWithin).map Attached.signature

/-- Attaches signatures anew, in their kept order. -/
def again (attached : List Attached) : Except Error (List Attached) := ofList (standing attached)

/-- Writes the signatures that came by themselves and go out. -/
def encode (attached : List Attached) : Octets :=
  ((standing attached).filter Certification.isExportable).flatMap Certification.encode

end Attached

/-! ## Parts -/

/-- A user ID or attribute, and the signatures on it. -/
structure User where
  header : Header
  content : Octets
  signatures : List Certification
  deriving DecidableEq, Repr

/-- A subkey, and the signatures on it. -/
structure Subkey where
  key : KeyPacket
  signatures : List Attached
  deriving DecidableEq, Repr

/-- A primary key with its users and subkeys. -/
structure Ring where
  key : KeyPacket
  signatures : List Attached
  users : List User
  subkeys : List Subkey
  deriving DecidableEq, Repr

/-- Whether a signature names the key with a fingerprint as its maker: by the fingerprint, or else
by the identifier at its end. -/
def Certification.isBy (owner : Octets) (signature : Certification) : Except Error Bool :=
  if signature.issuerFingerprint? = some owner then .ok true
  else signature.issuer.map fun issuer => decide (issuer = owner.drop 12)

/-- The first of some signatures that was made by the key with a fingerprint. -/
def Certification.findBy? (owner : Octets) :
    List Certification → Except Error (Option Certification)
  | [] => .ok none
  | signature :: rest =>
    match signature.isBy owner with
    | .error e => .error e
    | .ok true => .ok (some signature)
    | .ok false => findBy? owner rest

namespace User

/-- A user with signatures. -/
def make (header : Header) (content : Octets) (signatures : List Certification) :
    Except Error User :=
  (signatures.foldlM (fun others signature =>
    insertSorted Certification.precedes signature others) []).map
    fun signatures => ⟨header, content, signatures⟩

/-- Whether a user is given as a text. -/
def isText (user : User) : Bool := user.header.tag == Packet.userIdTag

/-- The newest signature on a user by the key with a fingerprint. -/
def selfSignature? (owner : Octets) (user : User) : Except Error (Option Certification) :=
  Certification.findBy? owner user.signatures.reverse

/-- Whether its owner calls a user the main one. -/
def isPrimary (owner : Octets) (user : User) : Except Error Bool :=
  (user.selfSignature? owner).map fun signature => signature.any Certification.isPrimaryUser

/-- Whether a user stands before another. -/
def precedes (owner : Octets) (left right : User) : Except Error Bool :=
  if left.isText ≠ right.isText then .ok left.isText
  else do
    let isLeftMain ← left.isPrimary owner
    let isRightMain ← right.isPrimary owner
    if isLeftMain ≠ isRightMain then return isLeftMain
    let mine ← left.selfSignature? owner
    let other ← right.selfSignature? owner
    match mine, other with
    | none, other => return other.isSome
    | some _, none => return false
    | some mine, some other => other.precedes mine

/-- A user whose text is written in UTF-8; octets that are not, count as the codes of its
characters. -/
def inUtf8 (user : User) : User :=
  if user.isText ∧ (Octets.text? user.content).isNone then
    { user with content := Octets.ofText (Octets.codeText user.content) }
  else user

/-- Writes a user with the signatures that go out. -/
def encode (user : User) : Octets :=
  user.header.encode ++ user.content
    ++ (user.signatures.filter Certification.isExportable).flatMap Certification.encode

end User

namespace Subkey

/-- Writes a subkey with the signatures that go out. -/
def encode (subkey : Subkey) : Octets := subkey.key.encode ++ Attached.encode subkey.signatures

/-- The public half of a subkey. -/
def publicHalf (subkey : Subkey) : Except Error Subkey :=
  (Attached.again subkey.signatures).map fun signatures => ⟨subkey.key.publicHalf, signatures⟩

end Subkey

namespace Ring

/-- A primary key alone. -/
def ofKey (key : KeyPacket) (signatures : List Attached) : Ring := ⟨key, signatures, [], []⟩

/-- The fingerprint of the primary key. -/
def fingerprint (ring : Ring) : Octets := ring.key.fingerprint

/-- The identifier of the primary key. -/
def keyId (ring : Ring) : Octets := ring.key.keyId

/-- Adds a user. -/
def addUser (ring : Ring) (user : User) : Except Error Ring :=
  (insertSorted (User.precedes ring.fingerprint) user ring.users).map fun users =>
    { ring with users }

/-- Puts a subkey in the place of the one with its identifier, or behind all others. -/
def putSubkey (subkey : Subkey) : List Subkey → List Subkey
  | [] => [subkey]
  | first :: rest =>
    if first.key.keyId = subkey.key.keyId then subkey :: rest else first :: putSubkey subkey rest

/-- Adds a subkey, which must be public or secret as the primary key is. -/
def addSubkey (ring : Ring) (subkey : Subkey) : Except Error Ring :=
  if subkey.key.isPublic = ring.key.isPublic then
    .ok { ring with subkeys := putSubkey subkey ring.subkeys }
  else .error (.malformed "a public and a secret key in one ring")

/-- All keys of a ring, the primary key first. -/
def keys (ring : Ring) : List KeyPacket := ring.key :: ring.subkeys.map Subkey.key

/-- Writes a ring: the key and the signatures on it, the users, the subkeys. -/
def encode (ring : Ring) : Octets :=
  ring.key.encode ++ Attached.encode ring.signatures
    ++ ring.users.flatMap User.encode ++ ring.subkeys.flatMap Subkey.encode

/-- The public half of a secret ring, put together anew: the subkeys, the users, and last the
signatures on the primary key. -/
def publicHalf (ring : Ring) : Except Error Ring := do
  let subkeys ← ring.subkeys.mapM Subkey.publicHalf
  let users ← ring.users.mapM fun user => User.make user.header user.inUtf8.content user.signatures
  let half := { ofKey ring.key.publicHalf [] with
    subkeys := subkeys.foldl (fun others subkey => putSubkey subkey others) [] }
  let half ← users.foldlM addUser half
  let signatures ← Attached.again ring.signatures
  return { half with signatures }

/-! ## Assembly -/

/-- The rings found so far. -/
structure Assembly where
  /-- The first key read, once another with its identifier has taken its place. -/
  detached : Option Ring
  /-- The rings in order of first appearance, and whether a ring is the first key read. -/
  rings : List (Bool × Ring)

namespace Assembly

/-- Nothing read yet. -/
def empty : Assembly := ⟨none, []⟩

/-- Whether two rings are told apart: by their identifier, and by being public or secret. -/
def sameRing (left right : Ring) : Bool :=
  left.keyId == right.keyId && left.key.isPublic == right.key.isPublic

/-- Puts a ring in the place of the same one, or behind all others. -/
def putRing (ring : Ring) : List (Bool × Ring) → List (Bool × Ring)
  | [] => [(false, ring)]
  | (isFirst, known) :: rest =>
    if sameRing known ring then (false, ring) :: rest else (isFirst, known) :: putRing ring rest

/-- Files a ring. -/
def file (assembly : Assembly) (ring : Ring) : Assembly :=
  match assembly.rings with
  | [] => ⟨none, [(true, ring)]⟩
  | rings =>
    let replaced := (rings.find? fun entry => entry.1 && sameRing entry.2 ring).map Prod.snd
    ⟨replaced.or assembly.detached, putRing ring rings⟩

/-- Changes the last of the rings. -/
def changeLast (change : Ring → Except Error Ring) :
    List (Bool × Ring) → Except Error (List (Bool × Ring))
  | [] => .error .ownerless
  | [(isFirst, ring)] =>
    match change ring with
    | .error e => .error e
    | .ok ring => .ok [(isFirst, ring)]
  | entry :: rest =>
    match changeLast change rest with
    | .error e => .error e
    | .ok rest => .ok (entry :: rest)

/-- Attaches something to the last of the rings. -/
def attach (assembly : Assembly) (change : Ring → Except Error Ring) : Except Error Assembly :=
  match changeLast change assembly.rings with
  | .error e => .error e
  | .ok rings => .ok { assembly with rings }

/-- Files a key with the signatures on it. -/
def fileKey (assembly : Assembly) (key : KeyPacket) (signatures : List Attached) :
    Except Error Assembly :=
  if key.isSubkey then assembly.attach fun ring => ring.addSubkey ⟨key, signatures⟩
  else .ok (assembly.file (ofKey key signatures))

/-- The rings, the first key read in front. -/
def result (assembly : Assembly) : List Ring :=
  let first := assembly.detached.or
    ((assembly.rings.find? fun entry => entry.1).map Prod.snd)
  first.toList ++ (assembly.rings.filter fun entry => !entry.1).map Prod.snd

end Assembly

/-- The signatures in front of other packets, and those packets. -/
def spanSignatures : List Element → List Certification × List Element
  | .signature packet :: rest =>
    match spanSignatures rest with
    | (signatures, rest) => (packet :: signatures, rest)
  | .foreignSignature :: rest => spanSignatures rest
  | elements => ([], elements)

/-- Files packets, each with the signatures behind it. What has no meaning in a ring is left out
together with its signatures, and a packet of a message takes the packet behind those along. The
failure that ended the packets counts once the signatures in front of it are attached, and before
what they are on is filed. -/
def assemble (failure : Option Error) : (fuel : Nat) → Assembly → List Element →
    Except Error Assembly
  | 0, assembly, _ => .ok assembly
  | _, assembly, [] =>
    match failure with
    | some e => .error e
    | none => .ok assembly
  | fuel + 1, assembly, element :: rest =>
    let (signatures, behind) := spanSignatures rest
    let ending := if behind.isEmpty then failure else none
    match element with
    | .signature _ => .error .leadingSignature
    | .foreignSignature => .error .leadingSignature
    | .foreign => assemble failure fuel assembly behind
    | .trust => assemble failure fuel assembly behind
    | .message => assemble failure fuel assembly (behind.drop 1)
    | .key packet =>
      match Attached.ofList signatures, ending with
      | .error e, _ => .error e
      | .ok _, some e => .error e
      | .ok attached, none =>
        match assembly.fileKey packet attached with
        | .error e => .error e
        | .ok assembly => assemble failure fuel assembly behind
    | .user header content =>
      match User.make header content signatures, ending with
      | .error e, _ => .error e
      | .ok _, some e => .error e
      | .ok user, none =>
        match assembly.attach fun ring => ring.addUser user with
        | .error e => .error e
        | .ok assembly => assemble failure fuel assembly behind

/-- Whether the name of an armored block is that of keys. -/
def admitsName (name : Octets) : Bool :=
  (Octets.asciiText name).splitOn "KEY" |>.length |> (1 < ·)

/-- The rings of octets or armor. -/
def list (text : Octets) : Except Error (List Ring) :=
  match unarmor admitsName text with
  | .error e => .error e
  | .ok data =>
    let elements := Element.list data
    match assemble elements.failure (elements.items.length + 1) .empty elements.items with
    | .error e => .error e
    | .ok assembly => .ok assembly.result

end Ring

end CommitSeal.Transferable
