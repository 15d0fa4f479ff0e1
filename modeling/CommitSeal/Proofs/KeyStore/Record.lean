import CommitSeal.Proofs.KeyStore.Lookup
import CommitSeal.Proofs.Packet.PublicPart
import CommitSeal.Proofs.Text.Upper

/-!
# The key of a located certificate

A record that is located in a keybox was made of a certificate with a public key in front. Looking
up the key of the record in its certificate, by the identifier that the record has for it, gives
that key again, whatever follows it (`Resolution.findMaterial_of_located`).
-/

namespace CommitSeal

/-- Hexadecimal digits in upper case stay as they are. -/
theorem PublicKey.upper_keyId (key : PublicKey) : Text.upper key.keyId = key.keyId := by
  simp only [keyId, Octets.upperHex, Text.upper, String.toList_ofList,
    Octets.upperChars_upperHexChars]

/-! ## The key in front -/

namespace KeyStore

/-- A certificate with a public key in front lists that key first. -/
theorem StartsWithKey.listing {certificate : Octets} {key : PublicKey}
    (hstarts : StartsWithKey certificate key) :
    ∃ others, PublicKey.listing certificate = .cons key others := by
  obtain ⟨first, packets, rest, hframe, htag, hparse⟩ := hstarts
  have hkeyTag : Packet.isKeyTag first.tag = true := by
    rw [htag]
    rfl
  exact PublicKey.listing_of_items hframe hkeyTag hparse

/-- The key that a certificate starts with is found by its identifier. -/
theorem StartsWithKey.findMaterial {record : PublicRecord}
    (hstarts : StartsWithKey record.certificate record.key) :
    record.findMaterial none = .ok (some record.key) := by
  obtain ⟨others, hlisting⟩ := hstarts.listing
  simp only [PublicRecord.findMaterial, PublicRecord.keyId, hlisting, Listing.find?, Listing.cons,
    PublicKey.upper_keyId]
  rw [List.find?_cons_of_pos (by simp)]

/-- A record of a keybox was made of one of its blobs. -/
theorem exists_blob_of_mem {tree : FileTree} {path : Path} {records : Listing Fault PublicRecord}
    (hrecords : keybox tree path = .ok records) {record : PublicRecord}
    (hmem : record ∈ records.items) :
    ∃ content, tree.read path = .ok content ∧ ∃ blob ∈ (Keybox.blobs content).items,
      certificateRecord path blob = .ok (some record) := by
  unfold keybox at hrecords
  split at hrecords
  · cases hrecords
  · rename_i content hcontent
    obtain rfl := Except.ok.inj hrecords
    obtain ⟨blob, hblob, hrecord⟩ := Listing.exists_of_mem_collect hmem
    exact ⟨content, hcontent, blob, hblob, hrecord⟩

/-- The key of a record that was made of a blob is found again in its certificate. -/
theorem findMaterial_of_certificateRecord {path : Path} {blob : Keybox.Blob}
    {record : PublicRecord} (hrecord : certificateRecord path blob = .ok (some record)) :
    record.findMaterial none = .ok (some record.key) := by
  obtain ⟨hstarts, -, hmade⟩ := of_certificateRecord hrecord
  apply StartsWithKey.findMaterial
  rw [hmade]
  exact hstarts

end KeyStore

namespace Resolution

/-- What is found in a keybox was made of one of its blobs. -/
theorem exists_blob_of_findInKeybox {tree : FileTree} {id : KeyId} {path : Path}
    {record : PublicRecord} (hfind : findInKeybox tree id path = .ok (some record)) :
    ∃ content, tree.read path = .ok content ∧ ∃ blob ∈ (Keybox.blobs content).items,
      KeyStore.certificateRecord path blob = .ok (some record) := by
  unfold findInKeybox at hfind
  split at hfind
  · cases hfind
  · rename_i records hrecords
    exact KeyStore.exists_blob_of_mem hrecords (Listing.of_find?_eq_some hfind).1

/-- The key of a located record is found again in its certificate. -/
theorem findMaterial_of_located {tree : FileTree} {id : KeyId} {path : Path}
    {record : PublicRecord} (hlocated : selectCertificate tree id path = .ok record) :
    record.findMaterial none = .ok (some record.key) := by
  unfold selectCertificate at hlocated
  split at hlocated
  · cases hlocated
  · cases hlocated
  · rename_i found hfound
    obtain rfl : found = record := Except.ok.inj hlocated
    obtain ⟨-, -, blob, -, hrecord⟩ := exists_blob_of_findInKeybox hfound
    exact KeyStore.findMaterial_of_certificateRecord hrecord

end Resolution

end CommitSeal
