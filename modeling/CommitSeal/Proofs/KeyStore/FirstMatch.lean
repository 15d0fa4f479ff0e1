import CommitSeal.Proofs.Keybox.Prefix
import CommitSeal.Proofs.KeyStore.Lookup

/-!
# The first certificate that fits

A keybox is searched from the front. What is found is the first of its records that lists a
fingerprint with the identifier at its end (`PublicRecord.Lists`), and nothing behind the blob of
that record is looked at: whatever stands there, be it damage or another key with the same end, the
search comes to the same. If there is no such record, then the search comes to nothing only if the
whole keybox can be read (`Resolution.findInKeybox_first`).
-/

namespace CommitSeal

/-- One of the fingerprints listed in a record ends with an identifier. -/
def PublicRecord.Lists (record : PublicRecord) (id : KeyId) : Prop :=
  ∃ fingerprint ∈ record.fingerprints, id.digits <:+ Octets.upperHexChars fingerprint

theorem PublicRecord.answersTo_iff {record : PublicRecord} {id : KeyId} :
    record.answersTo id = true ↔ record.Lists id := by
  simp [answersTo, Lists, KeyId.fits]

/-! ## The records of a keybox -/

namespace KeyStore

/-- The records that the octets of a keybox make. -/
def recordsOf (path : Path) (content : Octets) : Listing Fault PublicRecord :=
  ((Keybox.blobs content).mapFailure fun e => malformedKeybox path e.message).filterMapM
    (certificateRecord path)

theorem keybox_of_read {tree : FileTree} {path : Path} {content : Octets}
    (hread : tree.read path = .ok content) : keybox tree path = .ok (recordsOf path content) := by
  rw [keybox, hread, recordsOf]

/-- The blobs up to that of a record settle the records up to that one. -/
theorem exists_taken_of_recordsOf {path : Path} {content : Octets}
    {front behind : List PublicRecord} {record : PublicRecord}
    (hitems : (recordsOf path content).items = front ++ record :: behind) :
    ∃ before tile rest blob, content = before ++ (tile ++ rest) ∧ Keybox.IsBlob tile ∧
      Keybox.readCertificate before.length tile = .ok blob ∧
      certificateRecord path blob = .ok (some record) ∧
      ∀ more, ∃ others, (recordsOf path (before ++ (tile ++ more))).items
        = front ++ record :: others := by
  obtain ⟨passed, blob, after, hblobs, hrecord, hcollect⟩ := Listing.exists_item_of_collect hitems
  obtain ⟨before, tile, rest, rfl, htaken⟩ := Keybox.exists_taken hblobs
  have hlast := htaken.last
  rw [Nat.zero_add] at hlast
  refine ⟨before, tile, rest, blob, rfl, htaken.complete, hlast, hrecord, ?_⟩
  intro more
  obtain ⟨others, hothers⟩ := htaken.items more
  have hread : (Keybox.blobs (before ++ (tile ++ more))).items = passed ++ blob :: others := by
    rw [Keybox.blobs, ← hothers, List.append_assoc, List.singleton_append]
  -- The records in front are made of the blobs in front, and this one of the next.
  have hmade := Listing.collect_append_of_collect hcollect (blob :: others)
    ((Keybox.blobs (before ++ (tile ++ more))).failure.map fun e => malformedKeybox path e.message)
  rw [Listing.collect, hrecord, ← hread] at hmade
  exact ⟨_, congrArg Listing.items hmade⟩

/-- A keybox whose records end with no fault is nothing but complete blobs, and each of them that
holds a certificate makes a record or is passed over. -/
theorem whole_of_failure_eq_none {path : Path} {content : Octets}
    (hfailure : (recordsOf path content).failure = none) :
    (Keybox.blobs content).failure = none ∧
    (∀ blob ∈ (Keybox.blobs content).items, ∃ answer, certificateRecord path blob = .ok answer) ∧
    ∃ tiles : List Octets, content = tiles.flatten ∧ ∀ tile ∈ tiles, Keybox.IsBlob tile := by
  obtain ⟨hend, hblobs⟩ := Listing.of_failure_collect_eq_none hfailure
  have hblobsEnd : (Keybox.blobs content).failure = none := Option.map_eq_none_iff.mp hend
  refine ⟨hblobsEnd, hblobs, ?_⟩
  -- An empty file has no blob at all, which is a fault already.
  have hcontent : content ≠ [] := by
    rintro rfl
    cases hblobsEnd
  obtain ⟨tiles, rest, htiled⟩ := Keybox.exists_tiled_blobs hcontent
  obtain rfl := htiled.ends.mp hblobsEnd
  exact ⟨tiles, by rw [htiled.split, List.append_nil], htiled.complete⟩

end KeyStore

/-! ## Searching a keybox -/

namespace Resolution

variable {tree : FileTree} {path : Path} {content : Octets} {id : KeyId} {record : PublicRecord}

theorem findInKeybox_eq_some_iff (hread : tree.read path = .ok content) :
    findInKeybox tree id path = .ok (some record) ↔
      ∃ front behind, (KeyStore.recordsOf path content).items = front ++ record :: behind ∧
        record.Lists id ∧ ∀ earlier ∈ front, ¬ earlier.Lists id := by
  rw [findInKeybox, KeyStore.keybox_of_read hread]
  simp only [findIn, Listing.find?_eq_some_iff, PublicRecord.answersTo_iff]

theorem findInKeybox_eq_none_iff (hread : tree.read path = .ok content) :
    findInKeybox tree id path = .ok none ↔
      (KeyStore.recordsOf path content).failure = none ∧
        ∀ record ∈ (KeyStore.recordsOf path content).items, ¬ record.Lists id := by
  rw [findInKeybox, KeyStore.keybox_of_read hread]
  simp only [findIn, Listing.find?_eq_none_iff, PublicRecord.answersTo_iff]

/-- In a keybox that can be read the first record that lists the identifier is found. Nothing behind
its blob is looked at: with anything else there the same record is found, and so it is with anything
put behind the keybox. And nothing is found if and only if no record lists the identifier and no
fault ends the records, that is, the keybox is read to its end, blob by blob. -/
theorem findInKeybox_first (hread : tree.read path = .ok content) (id : KeyId) :
    ∃ records, KeyStore.keybox tree path = .ok records ∧
      (∀ record, findInKeybox tree id path = .ok (some record) ↔
        ∃ front behind, records.items = front ++ record :: behind ∧ record.Lists id ∧
          ∀ earlier ∈ front, ¬ earlier.Lists id) ∧
      (∀ record, findInKeybox tree id path = .ok (some record) →
        (∃ before tile rest blob, content = before ++ (tile ++ rest) ∧ Keybox.IsBlob tile ∧
          Keybox.readCertificate before.length tile = .ok blob ∧
          KeyStore.certificateRecord path blob = .ok (some record) ∧
          ∀ (other : FileTree) (more : Octets), other.read path = .ok (before ++ (tile ++ more)) →
            findInKeybox other id path = .ok (some record)) ∧
        ∀ (other : FileTree) (more : Octets), other.read path = .ok (content ++ more) →
          findInKeybox other id path = .ok (some record)) ∧
      (findInKeybox tree id path = .ok none ↔
        records.failure = none ∧ ∀ record ∈ records.items, ¬ record.Lists id) ∧
      (records.failure = none →
        (Keybox.blobs content).failure = none ∧
        (∀ blob ∈ (Keybox.blobs content).items,
          ∃ answer, KeyStore.certificateRecord path blob = .ok answer) ∧
        ∃ tiles : List Octets, content = tiles.flatten ∧ ∀ tile ∈ tiles, Keybox.IsBlob tile) := by
  refine ⟨_, KeyStore.keybox_of_read hread, fun record => findInKeybox_eq_some_iff hread, ?_,
    findInKeybox_eq_none_iff hread, KeyStore.whole_of_failure_eq_none⟩
  intro record hfind
  obtain ⟨front, behind, hitems, hlists, hfront⟩ := (findInKeybox_eq_some_iff hread).mp hfind
  obtain ⟨before, tile, rest, blob, rfl, htile, hblob, hrecord, hsettled⟩ :=
    KeyStore.exists_taken_of_recordsOf hitems
  have hagain : ∀ (other : FileTree) (more : Octets),
      other.read path = .ok (before ++ (tile ++ more)) →
      findInKeybox other id path = .ok (some record) := by
    intro other more hother
    obtain ⟨others, hothers⟩ := hsettled more
    exact (findInKeybox_eq_some_iff hother).mpr ⟨front, others, hothers, hlists, hfront⟩
  refine ⟨⟨before, tile, rest, blob, rfl, htile, hblob, hrecord, hagain⟩, ?_⟩
  intro other more hother
  apply hagain other (rest ++ more)
  rw [hother, List.append_assoc, List.append_assoc]

/-- The directory with the keybox of the tiny key, with another blob for the same key behind it and
then an octet of a third. -/
def continuedTree : FileTree :=
  .directory [("pubring.kbx", .file (tinyKeybox [tinyFingerprint]
    ++ (tinyBlob [tinyFingerprint, strayFingerprint] ++ [0x00])))]

/-- The record of the key is found as if nothing were behind it; and the keybox is read to its end
when a key is asked for that is not in it. -/
theorem findInKeybox_first_tiny :
    (tinyTree [tinyFingerprint]).read tinyPath = .ok (tinyKeybox [tinyFingerprint]) ∧
    findInKeybox (tinyTree [tinyFingerprint]) tinyId tinyPath
      = .ok (some (tinyRecord [tinyFingerprint])) ∧
    findInKeybox continuedTree tinyId tinyPath = .ok (some (tinyRecord [tinyFingerprint])) ∧
    findInKeybox (tinyTree [tinyFingerprint]) strayId tinyPath = .ok none ∧
    (Keybox.blobs (tinyKeybox [tinyFingerprint])).failure = none := by
  have hread : (tinyTree [tinyFingerprint]).read tinyPath = .ok (tinyKeybox [tinyFingerprint]) :=
    rfl
  have hfind : findInKeybox (tinyTree [tinyFingerprint]) tinyId tinyPath
      = .ok (some (tinyRecord [tinyFingerprint])) := eq_ok_of_toOption (by decide +kernel)
  have hmissed : findInKeybox (tinyTree [tinyFingerprint]) strayId tinyPath = .ok none :=
    eq_ok_of_toOption (by decide +kernel)
  obtain ⟨-, -, -, hfound, -⟩ := findInKeybox_first hread tinyId
  obtain ⟨records, -, -, -, hnone, hwhole⟩ := findInKeybox_first hread strayId
  refine ⟨hread, hfind, ?_, hmissed, ?_⟩
  · exact (hfound _ hfind).2 continuedTree _ rfl
  · exact (hwhole (hnone.mp hmissed).1).1

end Resolution

end CommitSeal
