import CommitSeal.FileTree
import CommitSeal.Keybox
import CommitSeal.KeyStore.Record
import CommitSeal.Transferable.Ring

/-!
# Reading the key stores

There are three: a keybox with certificates, a directory with a file for each secret key, and a
keyring that holds secret keys together with their certificates. Opening one fails if it is not
there; what is wrong inside ends the listing of its records, and what precedes it is good.
-/

namespace CommitSeal.KeyStore

/-! ## Files -/

/-- Whether a file is at a path. -/
def isFile (tree : FileTree) (path : Path) : Except Fault Bool :=
  (tree.isFile path).mapError fun _ => .pathTooLong

/-- The fault of a store of some sort that cannot be read. -/
def unreadable (store : String) (path : Path) : FileTree.Error → Fault
  | .missing => .failed (.unresolved .storeMissing (store ++ " does not exist") none (some path))
  | .impossible => .invalid FileTree.Error.impossible.message
  | e => .failed (.storeCorrupt (s!"cannot read {store}: " ++ e.message) (some path))

/-! ## Keyboxes -/

/-- The fault of a keybox that is malformed. -/
def malformedKeybox (path : Path) (reason : String) : Fault :=
  .failed (.storeCorrupt ("malformed keybox: " ++ reason) (some path))

/-- The record of a blob. A certificate of a kind that is not handled is passed over. -/
def certificateRecord (path : Path) (blob : Keybox.Blob) : Except Fault (Option PublicRecord) :=
  let corrupt := fun reason => Except.error (.failed (.storeCorrupt reason (some path)))
  let malformed := fun (e : PacketError) => Except.error (malformedKeybox path e.message)
  match (Packet.frame blob.keyblock).head? with
  | .error e => malformed e
  | .ok none => corrupt s!"blob at offset {blob.offset} does not hold a public key"
  | .ok (some first) =>
    if first.tag ≠ Packet.publicKeyTag then
      corrupt s!"blob at offset {blob.offset} does not hold a public key"
    else
      match PublicKey.parse first.body with
      | .error e => if e.isUnsupported then .ok none else malformed e
      | .ok (key, _) =>
        let fingerprints := blob.keys.map Keybox.KeyInfo.fingerprint
        if fingerprints.head? = some key.fingerprint then
          .ok (some { key, certificate := blob.keyblock, fingerprints, source := path })
        else corrupt s!"keyblock at offset {blob.offset} does not match its key info"

/-- The certificates of a keybox. -/
def keybox (tree : FileTree) (path : Path) : Except Fault (Listing Fault PublicRecord) :=
  match tree.read path with
  | .error e => .error (unreadable "keybox" path e)
  | .ok content =>
    .ok (((Keybox.blobs content).mapFailure fun e => malformedKeybox path e.message).filterMapM
      (certificateRecord path))

/-- The certificates of keyboxes, one keybox after the other. Each is opened when the ones before it
are read to their end. -/
def keyboxes (tree : FileTree) (paths : List Path) : Listing Fault PublicRecord :=
  paths.foldr (fun path records =>
    match keybox tree path with
    | .error fault => .fail fault
    | .ok first => first.append records) .done

/-! ## Secret key directories -/

/-- A file that was listed, if it is found to be one. -/
def listedFile? (tree : FileTree) (listed : Path × Octets) : Except Fault (Option SecretFile) :=
  (isFile tree listed.1).map fun found => if found then some ⟨listed.1, listed.2⟩ else none

/-- The files of a secret key directory, those of directories in it included. A path that is too
long ends the listing. -/
def secretDirectory (tree : FileTree) (path : Path) : Except Fault (Listing Fault SecretFile) :=
  match tree.lookup path with
  | .error _ => .error .pathTooLong
  | .ok (some (.directory entries)) =>
    let listed := FileTree.listing (FileTree.lead path) path (.directory entries)
    .ok ((Listing.ofList listed).filterMapM (listedFile? tree))
  | .ok _ =>
    .error (.failed
      (.unresolved .storeMissing "secret key directory does not exist" none (some path)))

/-! ## Keyrings -/

/-- The content of a keyring. -/
def readKeyring (tree : FileTree) (path : Path) : Except Fault Octets :=
  match tree.read path with
  | .ok content => .ok content
  | .error .isADirectory =>
    .error (.failed (.storeCorrupt "secret keyring is a directory" (some path)))
  | .error e => .error (unreadable "secret keyring" path e)

/-- The fault of octets that are no transferable keys, where malformed ones have a failure. -/
def ringFault (malformed : String → Failure) : Transferable.Error → Fault
  | .malformed reason => .failed (malformed reason)
  | .truncated => .truncatedHeader
  | .leadingSignature => .incompleteKey
  | .ownerless => .ownerlessPacket
  | .unstated => .unstatedSignature

/-- The public key with a fingerprint; of several the last counts. -/
def keyOf? (keys : List PublicKey) (fingerprint : Octets) : Option PublicKey :=
  keys.reverse.find? fun key => key.fingerprint == fingerprint

/-- The record of a key of a ring. -/
def keyringRecord (path : Path) (certificate material : Octets) (keys : List PublicKey)
    (fingerprints : List Octets) (packet : Transferable.KeyPacket) : Except Fault SecretRecord :=
  match keyOf? keys packet.fingerprint with
  | none => .error .unlistedKey
  | some key =>
    .ok { publicKey := { key, certificate, fingerprints, source := path }
          format := .keyring
          material
          source := path
          isProtected := packet.isProtected }

/-- The records of a secret ring with a certificate, one for each of its keys. A ring with a key of
a kind that is not handled is passed over. -/
def certifiedRecords (path : Path) (ring : Transferable.Ring) (certificate : Octets) :
    Listing Fault SecretRecord :=
  match (PublicKey.listing certificate).all with
  | .error e =>
    if e.isUnsupported then .done
    else .fail (.failed (.storeCorrupt ("malformed secret key: " ++ e.message) (some path)))
  | .ok keys =>
    (Listing.ofList ring.keys).filterMapM fun packet =>
      (keyringRecord path certificate ring.encode keys
        (ring.keys.map Transferable.KeyPacket.fingerprint) packet).map some

/-- The records of a ring. -/
def ringRecords (path : Path) (ring : Transferable.Ring) : Listing Fault SecretRecord :=
  if ring.key.isPublic then
    .fail (.failed (.storeCorrupt
      s!"public key {Octets.upperHex ring.keyId} found in a secret keyring" (some path)))
  else
    match ring.publicHalf with
    | .error e => .fail (ringFault (fun reason => .storeCorrupt reason (some path)) e)
    | .ok half => certifiedRecords path ring half.encode

/-- The records of rings. -/
def ringsRecords (path : Path) (rings : List Transferable.Ring) : Listing Fault SecretRecord :=
  rings.foldr (fun ring records => (ringRecords path ring).append records) .done

/-- The secret keys of a keyring. -/
def keyring (tree : FileTree) (path : Path) : Except Fault (Listing Fault SecretRecord) :=
  match readKeyring tree path with
  | .error fault => .error fault
  | .ok [] => .ok .done
  | .ok content =>
    match Transferable.Ring.list content with
    | .error e => .error (ringFault (fun reason =>
        .storeCorrupt ("malformed secret keyring: " ++ reason) (some path)) e)
    | .ok [] => .ok (.fail .incompleteKey)
    | .ok rings => .ok (ringsRecords path rings)

end CommitSeal.KeyStore
