import CommitSeal.Proofs.Listing
import CommitSeal.Resolution

/-!
# What a lookup in a keybox returns

An identifier is compared with the fingerprints that a blob lists for its keys, and what is returned
is the certificate of the blob. The certificate holds a key (`KeyStore.HoldsKey`) for the first
fingerprint of the list, which is compared with that of its first packet. For the others there is no
comparison: if all of them are those of keys in the certificate, the certificate returned holds the
key that was asked for (`Resolution.findInKeybox_holdsKey`), and else it may lack it
(`Resolution.findInKeybox_lacks_key`).
-/

namespace CommitSeal

/-! ## Certificates -/

namespace KeyStore

/-- A certificate holds a public key or subkey with the given fingerprint, which is computed from
the packet. -/
def HoldsKey (certificate fingerprint : Octets) : Prop :=
  ∃ packet ∈ (Packet.frame certificate).items,
    (packet.tag = Packet.publicKeyTag ∨ packet.tag = Packet.publicSubkeyTag) ∧
    ∃ key rest, PublicKey.parse packet.body = .ok (key, rest) ∧ key.fingerprint = fingerprint

/-- A certificate starts with the packet of a public key. -/
def StartsWithKey (certificate : Octets) (key : PublicKey) : Prop :=
  ∃ first others rest, (Packet.frame certificate).items = first :: others ∧
    first.tag = Packet.publicKeyTag ∧ PublicKey.parse first.body = .ok (key, rest)

theorem StartsWithKey.holdsKey {certificate : Octets} {key : PublicKey}
    (hstarts : StartsWithKey certificate key) : HoldsKey certificate key.fingerprint := by
  obtain ⟨first, others, rest, hframe, htag, hparse⟩ := hstarts
  refine ⟨first, ?_, .inl htag, key, rest, hparse, rfl⟩
  rw [hframe]
  exact List.mem_cons_self

/-- A record is made of a blob whose first fingerprint is that of the key in front. -/
theorem of_certificateRecord {path : Path} {blob : Keybox.Blob} {record : PublicRecord}
    (hrecord : certificateRecord path blob = .ok (some record)) :
    StartsWithKey blob.keyblock record.key ∧
    (blob.keys.map Keybox.KeyInfo.fingerprint).head? = some record.key.fingerprint ∧
    record = { key := record.key, certificate := blob.keyblock
               fingerprints := blob.keys.map Keybox.KeyInfo.fingerprint, source := path } := by
  unfold certificateRecord at hrecord
  simp only at hrecord
  split at hrecord
  · cases hrecord
  · cases hrecord
  · rename_i first hfirst
    by_cases htag : first.tag ≠ Packet.publicKeyTag
    · rw [if_pos htag] at hrecord
      cases hrecord
    · rw [if_neg htag] at hrecord
      split at hrecord
      · split at hrecord <;> cases hrecord
      · rename_i key rest hkey
        split at hrecord
        · rename_i hlisted
          obtain rfl := Option.some.inj (Except.ok.inj hrecord)
          obtain ⟨others, hframe⟩ := Listing.items_of_head?_eq_some hfirst
          exact ⟨⟨first, others, rest, hframe, Decidable.not_not.mp htag, hkey⟩, hlisted, rfl⟩
        · cases hrecord

theorem certificateRecord_eq_ok {path : Path} {blob : Keybox.Blob} {record : PublicRecord}
    (hrecord : certificateRecord path blob = .ok (some record)) :
    record.certificate = blob.keyblock ∧
    record.fingerprints = blob.keys.map Keybox.KeyInfo.fingerprint ∧
    record.fingerprints.head? = some record.key.fingerprint ∧
    HoldsKey record.certificate record.key.fingerprint := by
  obtain ⟨hstarts, hlisted, hmade⟩ := of_certificateRecord hrecord
  rw [hmade]
  exact ⟨rfl, rfl, hlisted, hstarts.holdsKey⟩

end KeyStore

namespace Resolution

open KeyStore (HoldsKey)

/-- What is found is the certificate of a blob of the keybox with a fingerprint that the identifier
fits; the first one listed is that of the certificate's primary key. If the others listed are those
of keys in the certificate as well, then it holds a key that the identifier fits. -/
theorem findInKeybox_holdsKey {tree : FileTree} {id : KeyId} {path : Path} {record : PublicRecord}
    (hfind : findInKeybox tree id path = .ok (some record)) :
    (∃ content, tree.read path = .ok content ∧ ∃ blob ∈ (Keybox.blobs content).items,
      record.certificate = blob.keyblock ∧
      record.fingerprints = blob.keys.map Keybox.KeyInfo.fingerprint) ∧
    (record.fingerprints.head? = some record.key.fingerprint ∧
      HoldsKey record.certificate record.key.fingerprint) ∧
    (∃ fingerprint ∈ record.fingerprints, id.fits fingerprint = true) ∧
    ((∀ fingerprint ∈ record.fingerprints.tail, HoldsKey record.certificate fingerprint) →
      ∃ fingerprint, HoldsKey record.certificate fingerprint ∧ id.fits fingerprint = true) := by
  unfold findInKeybox at hfind
  split at hfind
  · cases hfind
  · rename_i records hrecords
    obtain ⟨hmem, hanswers⟩ := Listing.of_find?_eq_some hfind
    obtain ⟨fingerprint, hlisted, hfits⟩ := List.any_eq_true.mp hanswers
    unfold KeyStore.keybox at hrecords
    split at hrecords
    · cases hrecords
    · rename_i content hcontent
      obtain rfl := Except.ok.inj hrecords
      obtain ⟨blob, hblob, hrecord⟩ := Listing.exists_of_mem_collect hmem
      obtain ⟨hcertificate, hfingerprints, hhead, hprimary⟩ :=
        KeyStore.certificateRecord_eq_ok hrecord
      refine ⟨⟨content, hcontent, blob, hblob, hcertificate, hfingerprints⟩, ⟨hhead, hprimary⟩,
        ⟨fingerprint, hlisted, hfits⟩, ?_⟩
      intro htail
      refine ⟨fingerprint, ?_, hfits⟩
      -- The fingerprint that fits is the first one, which was compared, or one of the others.
      obtain ⟨others, hlist⟩ := List.head?_eq_some_iff.mp hhead
      rw [hlist] at hlisted htail
      rcases List.mem_cons.mp hlisted with rfl | hother
      · exact hprimary
      · exact htail fingerprint hother

/-! ## One key, and what is listed for it -/

/-- A packet with a tiny RSA key. -/
def tinyCertificate : Octets :=
  [0xC6, 0x0C, 0x04, 0x5B, 0xEB, 0x32, 0x63, 0x01, 0x00, 0x04, 0x0F, 0x00, 0x02, 0x03]

/-- The fingerprint of the key. -/
def tinyFingerprint : Octets :=
  [0xF5, 0x61, 0xA3, 0x22, 0x24, 0x97, 0xB0, 0x88, 0x6E, 0x88, 0x56, 0x28, 0x18, 0xF0, 0x3A, 0xCF,
    0x8F, 0x36, 0x3F, 0x35]

/-- A short blob with a certificate that lists the given fingerprints, with a checksum of the kind
that is not verified. -/
def shortBlob (certificate : Octets) (listed : List Octets) : Octets :=
  [0x00, 0x00, 0x00, UInt8.ofNat (40 + certificate.length + 28 * listed.length), 0x02, 0x01, 0x00,
    0x00, 0x00, 0x00, 0x00, UInt8.ofNat (20 + 28 * listed.length), 0x00, 0x00, 0x00,
    UInt8.ofNat certificate.length, 0x00, UInt8.ofNat listed.length, 0x00, 0x1C]
    ++ listed.flatMap (fun fingerprint => fingerprint ++ List.replicate 8 0)
    ++ certificate ++ List.replicate 20 0

/-- A keybox with one blob. -/
def shortKeybox (certificate : Octets) (listed : List Octets) : Octets :=
  [0x00, 0x00, 0x00, 0x20, 0x01, 0x01, 0x00, 0x02] ++ Keybox.magic ++ List.replicate 20 0
    ++ shortBlob certificate listed

/-- A blob with the certificate of the key. -/
def tinyBlob (listed : List Octets) : Octets := shortBlob tinyCertificate listed

/-- A keybox with that blob only. -/
def tinyKeybox (listed : List Octets) : Octets := shortKeybox tinyCertificate listed

/-- The directory that the keybox is in. -/
def tinyTree (listed : List Octets) : FileTree :=
  .directory [("pubring.kbx", .file (tinyKeybox listed))]

/-- Where the keybox is. -/
def tinyPath : Path := ⟨.relative, ["pubring.kbx"]⟩

/-- The record that is made of the blob. -/
def tinyRecord (listed : List Octets) : PublicRecord where
  key := { created := 0x5BEB3263, algorithm := 1, family := .rsa
           fields := [(.n, [0x0F]), (.e, [0x03])]
           body := tinyCertificate.drop 2 }
  certificate := tinyCertificate
  fingerprints := listed
  source := tinyPath

/-- The identifier of the key. -/
def tinyId : KeyId where
  digits := ['1', '8', 'F', '0', '3', 'A', 'C', 'F', '8', 'F', '3', '6', '3', 'F', '3', '5']
  length_ge := by decide
  length_le := by decide
  allDigits := List.all_eq_true.mp (by decide)

/-- The fingerprint of no key at hand. -/
def strayFingerprint : Octets := List.replicate 20 0xAA

/-- The identifier that fits it. -/
def strayId : KeyId where
  digits := List.replicate 16 'A'
  length_ge := by decide
  length_le := by decide
  allDigits := List.all_eq_true.mp (by decide)

theorem eq_ok_of_toOption {α ε : Type} {answer : Except ε α} {value : α}
    (hanswer : answer.toOption = some value) : answer = .ok value := by
  cases answer with
  | error e => cases hanswer
  | ok found => rw [Option.some.inj hanswer]

theorem exists_eq_ok_of_toOption {α ε : Type} {answer : Except ε α}
    (hanswer : answer.toOption.isSome = true) : ∃ value, answer = .ok value := by
  obtain ⟨value, hvalue⟩ := Option.isSome_iff_exists.mp hanswer
  exact ⟨value, eq_ok_of_toOption hvalue⟩

/-- A packet with a subkey, made a second after the key. -/
def tinySubkey : Octets :=
  [0xCE, 0x0C, 0x04, 0x5B, 0xEB, 0x32, 0x64, 0x01, 0x00, 0x04, 0x0F, 0x00, 0x02, 0x03]

/-- The fingerprint of the subkey. -/
def tinySubkeyFingerprint : Octets :=
  [0xE8, 0x15, 0xD1, 0xDF, 0xDC, 0x9A, 0x0F, 0xE9, 0xAF, 0x29, 0xE5, 0x33, 0x7E, 0x34, 0x1C, 0xD7,
    0x8D, 0x9E, 0xD2, 0x98]

/-- The identifier of the subkey. -/
def tinySubkeyId : KeyId where
  digits := ['7', 'E', '3', '4', '1', 'C', 'D', '7', '8', 'D', '9', 'E', 'D', '2', '9', '8']
  length_ge := by decide
  length_le := by decide
  allDigits := List.all_eq_true.mp (by decide)

/-- The record of the key with the subkey. -/
def pairRecord : PublicRecord :=
  { tinyRecord [tinyFingerprint, tinySubkeyFingerprint] with
    certificate := tinyCertificate ++ tinySubkey }

/-- A directory with a keybox with both. -/
def pairTree : FileTree :=
  .directory [("pubring.kbx",
    .file (shortKeybox pairRecord.certificate pairRecord.fingerprints))]

/-- The subkey is listed behind the key, and the certificate that is found for it holds it. -/
theorem findInKeybox_holdsKey_pair :
    findInKeybox pairTree tinySubkeyId tinyPath = .ok (some pairRecord) ∧
    (∀ fingerprint ∈ pairRecord.fingerprints.tail, HoldsKey pairRecord.certificate fingerprint) ∧
    ∃ fingerprint, HoldsKey pairRecord.certificate fingerprint ∧
      tinySubkeyId.fits fingerprint = true := by
  have hfind : findInKeybox pairTree tinySubkeyId tinyPath = .ok (some pairRecord) :=
    eq_ok_of_toOption (by decide +kernel)
  have htail : ∀ fingerprint ∈ pairRecord.fingerprints.tail,
      HoldsKey pairRecord.certificate fingerprint := by
    have hframe : (Packet.frame pairRecord.certificate).items
        = [⟨Packet.publicKeyTag, tinyCertificate.drop 2, 0⟩,
          ⟨Packet.publicSubkeyTag, tinySubkey.drop 2, 14⟩] := rfl
    refine List.forall_mem_singleton.mpr ⟨⟨Packet.publicSubkeyTag, tinySubkey.drop 2, 14⟩, ?_,
      .inr rfl, { (tinyRecord []).key with created := 0x5BEB3264, body := tinySubkey.drop 2 }, [],
      rfl, by decide +kernel⟩
    rw [hframe]
    exact List.mem_cons_of_mem _ List.mem_cons_self
  obtain ⟨-, -, -, hholds⟩ := findInKeybox_holdsKey hfind
  exact ⟨hfind, htail, hholds htail⟩

/-- A second fingerprint in the list is believed: the certificate is returned for an identifier that
fits none of its keys. -/
theorem findInKeybox_lacks_key :
    ¬ ∀ tree id path record, findInKeybox tree id path = .ok (some record) →
      ∃ fingerprint, HoldsKey record.certificate fingerprint ∧ id.fits fingerprint = true := by
  intro hall
  have hfind : findInKeybox (tinyTree [tinyFingerprint, strayFingerprint]) strayId tinyPath
      = .ok (some (tinyRecord [tinyFingerprint, strayFingerprint])) :=
    eq_ok_of_toOption (by decide +kernel)
  obtain ⟨fingerprint, ⟨packet, hpacket, -, key, rest, hparse, rfl⟩, hfits⟩ := hall _ _ _ _ hfind
  -- There is one packet, and its key has another fingerprint.
  have hframe : (Packet.frame tinyCertificate).items
      = [⟨Packet.publicKeyTag, tinyCertificate.drop 2, 0⟩] := rfl
  have hkey : PublicKey.parse (tinyCertificate.drop 2) = .ok ((tinyRecord []).key, []) := rfl
  have hlacks : strayId.fits (tinyRecord []).key.fingerprint = false := by decide +kernel
  obtain rfl := List.mem_singleton.mp (hframe ▸ hpacket)
  obtain ⟨rfl, -⟩ := Prod.mk.inj (Except.ok.inj (hkey.symm.trans hparse))
  rw [hlacks] at hfits
  cases hfits

end Resolution

end CommitSeal
