import CommitSeal.Proofs.KeyStore.Record

/-!
# The records of a keybox

Three readers run one inside the other: blobs are read from a keybox, packets from the certificate
of a blob, and the numbers of a key from its first packet. Whatever the octets of a keybox are, what
comes of them is some records and then an end, or the one fault of a damaged store
(`KeyStore.records_of_keybox`), and the records can be relied on (`PublicRecord.IsCertified`): the
key of a record is that of the first packet, and it is found again whatever is behind that packet.

No public part of a key is met on the way that is too long for its fingerprint to be taken
(`PublicKey.length_body_lt`).
-/

namespace CommitSeal

theorem PublicKey.length_fingerprint (key : PublicKey) : key.fingerprint.length = 20 := rfl

/-! ## Records to rely on -/

/-- What can be relied on in a record of a keybox: it has the key that its certificate starts with,
whose fingerprint is the first of the fingerprints and ends with the identifier of the key; and
looking that key up in the certificate is no failure, and finds it. -/
structure PublicRecord.IsCertified (record : PublicRecord) : Prop where
  starts : KeyStore.StartsWithKey record.certificate record.key
  fingerprints : ∃ others, record.fingerprints = record.key.fingerprint :: others
  keyId : ∃ high low, record.key.fingerprint = high ++ low ∧ low.length = 8 ∧
    record.keyId = Octets.upperHex low
  findMaterial : record.findMaterial none = .ok (some record.key)

namespace KeyStore

theorem isCertified_of_certificateRecord {path : Path} {blob : Keybox.Blob} {record : PublicRecord}
    (hrecord : certificateRecord path blob = .ok (some record)) : record.IsCertified := by
  obtain ⟨hstarts, hlisted, hmade⟩ := of_certificateRecord hrecord
  constructor
  · rw [hmade]
    exact hstarts
  · rw [hmade]
    exact List.head?_eq_some_iff.mp hlisted
  · refine ⟨record.key.fingerprint.take 12, record.key.fingerprint.drop 12,
      (List.take_append_drop 12 _).symm, ?_, rfl⟩
    rw [List.length_drop, PublicKey.length_fingerprint]
  · exact findMaterial_of_certificateRecord hrecord

/-- The fault of a store that is damaged. -/
def IsDamaged (path : Path) (fault : Fault) : Prop :=
  ∃ reason, fault = .failed (.storeCorrupt reason (some path))

/-- A blob that makes no record, nor is passed over, is one of a damaged keybox: be it that its
packets cannot be framed, that no public key is in front, that the key cannot be read, or that it is
not the one that the blob lists first. -/
theorem isDamaged_of_certificateRecord {path : Path} {blob : Keybox.Blob} {fault : Fault}
    (hrecord : certificateRecord path blob = .error fault) : IsDamaged path fault := by
  unfold certificateRecord at hrecord
  simp only at hrecord
  split at hrecord
  · exact ⟨_, (Except.error.inj hrecord).symm⟩
  · exact ⟨_, (Except.error.inj hrecord).symm⟩
  · split at hrecord
    · exact ⟨_, (Except.error.inj hrecord).symm⟩
    · split at hrecord
      · split at hrecord
        · cases hrecord
        · exact ⟨_, (Except.error.inj hrecord).symm⟩
      · split at hrecord
        · cases hrecord
        · exact ⟨_, (Except.error.inj hrecord).symm⟩

/-- Whatever the octets of a keybox are, it is opened, and what comes of it is some records that can
be relied on, and then the end of the keybox or the fault of a damaged store. On the way no public
part of a key is met that is too long for its fingerprint to be taken. -/
theorem records_of_keybox {tree : FileTree} {path : Path} {content : Octets}
    (hread : tree.read path = .ok content) :
    ∃ records, keybox tree path = .ok records ∧
      (records.failure = none ∨ ∃ fault, records.failure = some fault ∧ IsDamaged path fault) ∧
      (∀ record ∈ records.items, record.IsCertified) ∧
      ∀ octets key rest, PublicKey.parse octets = .ok (key, rest) → key.body.length < 65536 := by
  unfold keybox
  rw [hread]
  refine ⟨_, rfl, ?_, ?_, fun octets key rest => PublicKey.length_body_lt⟩
  · cases hfailure : (Listing.filterMapM (certificateRecord path)
        ((Keybox.blobs content).mapFailure fun e => malformedKeybox path e.message)).failure with
    | none => exact .inl rfl
    | some fault =>
      refine .inr ⟨fault, rfl, ?_⟩
      rcases Listing.failure_collect hfailure with hcontainer | ⟨blob, -, hblob⟩
      · -- The container is malformed, which is restated as damage.
        obtain ⟨e, -, rfl⟩ := Option.map_eq_some_iff.mp hcontainer
        exact ⟨_, rfl⟩
      · exact isDamaged_of_certificateRecord hblob
  · intro record hmem
    obtain ⟨blob, -, hblob⟩ := Listing.exists_of_mem_collect hmem
    exact isCertified_of_certificateRecord hblob

/-! ## A keybox that is cut off -/

open Resolution (tinyKeybox tinyFingerprint tinyRecord tinyPath)

/-- The keybox of the tiny key, with an octet of another blob behind it. -/
def cutKeybox : Octets := tinyKeybox [tinyFingerprint] ++ [0x00]

/-- The directory that it is in. -/
def cutTree : FileTree := .directory [("pubring.kbx", .file cutKeybox)]

/-- The record in front is good, and then the keybox turns out to be damaged. -/
theorem records_of_keybox_cut :
    cutTree.read tinyPath = .ok cutKeybox ∧
    ∃ records, keybox cutTree tinyPath = .ok records ∧
      records.items = [tinyRecord [tinyFingerprint]] ∧
      (tinyRecord [tinyFingerprint]).IsCertified ∧
      records.failure = some (malformedKeybox tinyPath "truncated blob length at offset 114") := by
  have hread : cutTree.read tinyPath = .ok cutKeybox := rfl
  obtain ⟨records, hrecords, -, hcertified, -⟩ := records_of_keybox hread
  have hcontent : (keybox cutTree tinyPath).toOption.map (fun records =>
      (records.items, records.failure))
        = some ([tinyRecord [tinyFingerprint]],
            some (malformedKeybox tinyPath "truncated blob length at offset 114")) := by
    decide +kernel
  rw [hrecords] at hcontent
  obtain ⟨hitems, hfailure⟩ := Prod.mk.inj (Option.some.inj hcontent)
  refine ⟨hread, records, hrecords, hitems, ?_, hfailure⟩
  apply hcertified
  rw [hitems]
  exact List.mem_singleton_self _

end KeyStore

end CommitSeal
