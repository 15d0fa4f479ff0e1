import CommitSeal.Proofs.Keybox.Container
import Mathlib.Data.List.Forall2

/-!
# What a keybox yields lies inside its blobs

Whatever the octets of a keybox are, blobs stand one behind the other from the start on, each as
long as it declares, and the certificates that are read are those of these blobs
(`Keybox.blobs_tile`). Nothing of a certificate is read from outside its blob: the index, the
certificate itself and the checksum are three parts that do not overlap, and every field is read
from inside its part (`Keybox.Blob.LiesIn`).

A keybox is read to its end if the blobs are all there is. Otherwise reading fails at the offset
behind the last of them.
-/

namespace CommitSeal.Keybox

/-- Where a keybox is found to be malformed. -/
def Error.offset : Error → Nat
  | empty => 0
  | truncatedLength offset => offset
  | badLength _ offset => offset
  | truncatedBlob offset => offset
  | noHeader => 0
  | secondHeader offset => offset
  | shortCertificate offset => offset
  | checksum offset => offset
  | noKeys offset => offset
  | smallKeyInfo _ offset => offset
  | keyInfosOverrun offset => offset
  | keyblockOverrun offset => offset
  | keyblockOverlap offset => offset

/-! ## One certificate -/

/-- Where the index of a certificate blob ends. -/
def keyInfosEnd (tile : Octets) : Nat := fixedLength + number tile 16 2 * number tile 18 2

/-- An index entry is read from inside the index, with its fingerprint whole. -/
structure KeyInfo.LiesIn (info : KeyInfo) (tile : Octets) (index : Nat) : Prop where
  inside : fixedLength + index * number tile 18 2 + minKeyInfoSize ≤ keyInfosEnd tile
  fingerprint : info.fingerprint = slice tile (fixedLength + index * number tile 18 2) 20
  fingerprint_length : info.fingerprint.length = 20
  flags : info.flags = number tile (fixedLength + index * number tile 18 2 + 24) 2

/-- A certificate is read from inside a blob: from its index, from the octets behind the index that
are declared for it, and with the checksum behind those. -/
structure Blob.LiesIn (certificate : Blob) (tile : Octets) : Prop where
  type : tile[4]? = some certificateType
  length : 40 ≤ tile.length ∧ tile.length ≤ 16 * 1024 * 1024
  keys_ne_nil : certificate.keys ≠ []
  keys_length : certificate.keys.length = number tile 16 2
  key : ∀ (index : Nat) (info : KeyInfo), certificate.keys[index]? = some info →
    info.LiesIn tile index
  keyblock : certificate.keyblock = slice tile (number tile 8 4) (number tile 12 4)
  keyblock_length : certificate.keyblock.length = number tile 12 4
  apart : keyInfosEnd tile ≤ number tile 8 4 ∧
    number tile 8 4 + number tile 12 4 + checksumLength ≤ tile.length
  trailer : tile.drop (tile.length - checksumLength)
      = Digest.sha1 (tile.take (tile.length - checksumLength)) ∨
    (tile.drop (tile.length - checksumLength)).take 4 = [0, 0, 0, 0]

/-- A slice that does not reach beyond the data is as long as it is asked for. -/
theorem length_slice {data : Octets} {start length : Nat} (hinside : start + length ≤ data.length) :
    (slice data start length).length = length := by
  rw [slice, List.length_take, List.length_drop]
  omega

theorem keyInfo_liesIn {tile : Octets} {index : Nat} (hindex : index < number tile 16 2)
    (hsize : minKeyInfoSize ≤ number tile 18 2) (hinside : keyInfosEnd tile ≤ tile.length) :
    (keyInfo tile (number tile 18 2) index).LiesIn tile index := by
  have hentry : (index + 1) * number tile 18 2 ≤ number tile 16 2 * number tile 18 2 :=
    Nat.mul_le_mul_right _ hindex
  have hend : keyInfosEnd tile = fixedLength + number tile 16 2 * number tile 18 2 := rfl
  rw [Nat.succ_mul] at hentry
  refine ⟨by omega, rfl, ?_, rfl⟩
  apply length_slice
  unfold minKeyInfoSize at hsize
  omega

theorem trailer_of_checksumHolds {tile : Octets} (hchecksum : checksumHolds tile = true) :
    tile.drop (tile.length - checksumLength)
        = Digest.sha1 (tile.take (tile.length - checksumLength)) ∨
      (tile.drop (tile.length - checksumLength)).take 4 = [0, 0, 0, 0] := by
  unfold checksumHolds at hchecksum
  simp only [Bool.or_eq_true, beq_iff_eq] at hchecksum
  exact hchecksum.symm

/-- A check that did not fail. -/
theorem of_check_eq_ok {α : Type} {check : Prop} [Decidable check] {e : Error}
    {more : Except Error α} {value : α} (hread : (if check then .error e else more) = .ok value) :
    ¬ check ∧ more = .ok value := by
  split at hread
  · cases hread
  · exact ⟨by assumption, hread⟩

/-- What is read from a blob lies in it. -/
theorem liesIn_of_readCertificate {offset : Nat} {tile : Octets} {certificate : Blob}
    (htile : IsBlob tile) (htype : tile.getD 4 0 = certificateType)
    (hread : readCertificate offset tile = .ok certificate) :
    certificate.offset = offset ∧ certificate.LiesIn tile := by
  simp only [readCertificate] at hread
  obtain ⟨hlength, hread⟩ := of_check_eq_ok hread
  obtain ⟨hchecksum, hread⟩ := of_check_eq_ok hread
  obtain ⟨hcount, hread⟩ := of_check_eq_ok hread
  obtain ⟨hsize, hread⟩ := of_check_eq_ok hread
  obtain ⟨hinfos, hread⟩ := of_check_eq_ok hread
  obtain ⟨hkeyblock, hread⟩ := of_check_eq_ok hread
  obtain ⟨hoverlap, hread⟩ := of_check_eq_ok hread
  obtain rfl := Except.ok.inj hread
  have hforty : 40 ≤ tile.length := Nat.not_lt.mp hlength
  have hindex : keyInfosEnd tile ≤ number tile 8 4 := Nat.not_lt.mp hoverlap
  have hcovered : number tile 8 4 + number tile 12 4 + checksumLength ≤ tile.length := by
    unfold checksumLength at hkeyblock ⊢
    omega
  refine ⟨rfl, ?_⟩
  constructor
  case type =>
    have hfifth : 4 < tile.length := by omega
    rw [List.getD_eq_getElem?_getD, List.getElem?_eq_getElem hfifth, Option.getD_some] at htype
    rw [List.getElem?_eq_getElem hfifth, htype]
  case length => exact ⟨hforty, htile.length.2⟩
  case keys_ne_nil => simpa [List.map_eq_nil_iff] using hcount
  case keys_length => rw [List.length_map, List.length_range]
  case key =>
    intro index info hinfo
    rw [List.getElem?_map, Option.map_eq_some_iff] at hinfo
    obtain ⟨place, hplace, rfl⟩ := hinfo
    obtain ⟨hbound, rfl⟩ := List.getElem?_eq_some_iff.mp hplace
    rw [List.getElem_range]
    rw [List.length_range] at hbound
    exact keyInfo_liesIn hbound (Nat.not_lt.mp hsize) (by omega)
  case keyblock => rfl
  case keyblock_length => exact length_slice (by omega)
  case apart => exact ⟨hindex, hcovered⟩
  case trailer => exact trailer_of_checksumHolds (by simpa using hchecksum)

/-! ## Blobs one behind the other -/

/-- Blobs that stand one behind the other from an offset on, with their offsets. -/
def placedFrom (offset : Nat) : List Octets → List (Nat × Octets)
  | [] => []
  | tile :: tiles => (offset, tile) :: placedFrom (offset + tile.length) tiles

/-- A blob is found at its offset. -/
theorem slice_of_mem_placedFrom {front : Octets} {offset : Nat} (hfront : front.length = offset)
    {tiles : List Octets} {placed : Nat × Octets} (hplaced : placed ∈ placedFrom offset tiles)
    (rest : Octets) :
    slice (front ++ (tiles.flatten ++ rest)) placed.1 placed.2.length = placed.2 := by
  induction tiles generalizing front offset with
  | nil => cases hplaced
  | cons tile tiles ih =>
    rw [List.flatten_cons, List.append_assoc]
    rcases List.mem_cons.mp hplaced with rfl | hlater
    · exact slice_append hfront tile (tiles.flatten ++ rest)
    · have hbehind : (front ++ tile).length = offset + tile.length := by
        rw [List.length_append, hfront]
      rw [← List.append_assoc front]
      exact ih hbehind hlater

/-- Of blobs with their offsets those that hold a certificate. -/
def certificatesOf (placed : List (Nat × Octets)) : List (Nat × Octets) :=
  placed.filter fun tile => tile.2.getD 4 0 = certificateType

/-- A certificate is that of a blob at an offset. -/
def Blob.ReadFrom (placed : Nat × Octets) (certificate : Blob) : Prop :=
  certificate.offset = placed.1 ∧ certificate.LiesIn placed.2

/-- What is read behind the header: `tiles` are the blobs that are read, and `rest` is what cannot
be read as a blob. -/
structure Tiled (offset : Nat) (data : Octets) (tiles : List Octets) (rest : Octets)
    (listing : Listing Error Blob) : Prop where
  split : data = tiles.flatten ++ rest
  complete : ∀ tile ∈ tiles, IsBlob tile
  certificates : List.Forall₂ Blob.ReadFrom (certificatesOf (placedFrom offset tiles)) listing.items
  ends : listing.failure = none ↔ rest = []
  failure : ∀ e, listing.failure = some e → e.offset = offset + tiles.flatten.length

/-- Where reading fails at once, no blob is read. -/
theorem tiled_fail {offset : Nat} {data : Octets} (hdata : data ≠ []) {e : Error}
    (hoffset : e.offset = offset) : Tiled offset data [] data (.fail e) := by
  refine ⟨rfl, nofun, .nil, ⟨nofun, fun hnil => absurd hnil hdata⟩, ?_⟩
  intro e' he'
  obtain rfl : e = e' := Option.some.inj he'
  simpa using hoffset

/-- A blob in front of others that are read. -/
theorem Tiled.cons {offset : Nat} {tile data rest : Octets} {tiles : List Octets}
    {listing listing' : Listing Error Blob}
    (htiled : Tiled (offset + tile.length) data tiles rest listing) (htile : IsBlob tile)
    (hfailure : listing'.failure = listing.failure)
    (hcertificates : List.Forall₂ Blob.ReadFrom
      (certificatesOf ((offset, tile) :: placedFrom (offset + tile.length) tiles)) listing'.items) :
    Tiled offset (tile ++ data) (tile :: tiles) rest listing' := by
  refine ⟨?_, List.forall_mem_cons.mpr ⟨htile, htiled.complete⟩, hcertificates, ?_, ?_⟩
  · rw [List.flatten_cons, List.append_assoc, ← htiled.split]
  · rw [hfailure]
    exact htiled.ends
  · intro e he
    rw [hfailure] at he
    rw [htiled.failure e he, List.flatten_cons, List.length_append, Nat.add_assoc]

/-- A blob that holds no certificate adds nothing to those that are read. -/
theorem Tiled.skip {offset : Nat} {tile data rest : Octets} {tiles : List Octets}
    {listing : Listing Error Blob} (htiled : Tiled (offset + tile.length) data tiles rest listing)
    (htile : IsBlob tile) (htype : tile.getD 4 0 ≠ certificateType) :
    Tiled offset (tile ++ data) (tile :: tiles) rest listing := by
  refine htiled.cons htile rfl ?_
  rw [certificatesOf, List.filter_cons_of_neg (by simpa using htype)]
  exact htiled.certificates

/-! ## Keyboxes -/

/-- There is a complete blob in front, or reading fails there. -/
theorem exists_blob_or_fail (first : Bool) (offset : Nat) {data : Octets} (hdata : data ≠ []) :
    (∃ tile rest, data = tile ++ rest ∧ IsBlob tile) ∨
      ∃ e, e.offset = offset ∧ blobsFrom first offset 0 data = .fail e := by
  cases data with
  | nil => exact absurd rfl hdata
  | cons octet more =>
    by_cases hfour : ((octet :: more).take 4).length < 4
    · exact .inr ⟨.truncatedLength offset, rfl, by simp only [blobsFrom, if_pos hfour]⟩
    by_cases hrange : number (octet :: more) 0 4 < 6 ∨ maxBlobLength < number (octet :: more) 0 4
    · refine .inr ⟨.badLength (number (octet :: more) 0 4) offset, rfl, ?_⟩
      simp only [blobsFrom, if_neg hfour, if_pos hrange]
    by_cases hcut : ((octet :: more).take (number (octet :: more) 0 4)).length
        < number (octet :: more) 0 4
    · refine .inr ⟨.truncatedBlob offset, rfl, ?_⟩
      simp only [blobsFrom, if_neg hfour, if_neg hrange, if_pos hcut]
    obtain ⟨length, hlength⟩ : ∃ length, length = number (octet :: more) 0 4 := ⟨_, rfl⟩
    rw [← hlength] at hrange hcut
    have hwhole : ((octet :: more).take length).length = length := by
      rw [List.length_take] at hcut ⊢
      omega
    refine .inl ⟨(octet :: more).take length, (octet :: more).drop length,
      (List.take_append_drop ..).symm, ?_, ?_⟩
    · rw [hwhole]
      exact ⟨by omega, by omega⟩
    · rw [hwhole, hlength, number, slice, List.drop_zero, List.take_take,
        Nat.min_eq_left (by omega)]
      rfl

theorem offset_of_readCertificate {offset : Nat} {tile : Octets} {e : Error}
    (hread : readCertificate offset tile = .error e) : e.offset = offset := by
  simp only [readCertificate] at hread
  repeat' split at hread
  all_goals cases hread <;> rfl

/-- Behind the header, whatever there is, blobs are read as far as they are complete and well
formed. -/
theorem exists_tiled (offset : Nat) (data : Octets) :
    ∃ tiles rest, Tiled offset data tiles rest (blobsFrom false offset 0 data) := by
  -- Each blob is taken from the front, so that there are fewer octets behind it.
  induction hlength : data.length using Nat.strong_induction_on generalizing offset data with
  | _ length ih =>
    by_cases hdata : data = []
    · rw [hdata]
      exact ⟨[], [], rfl, nofun, .nil, by simp [blobsFrom, Listing.done], nofun⟩
    obtain ⟨tile, more, rfl, htile⟩ | ⟨e, hoffset, hfail⟩ := exists_blob_or_fail false offset hdata
    · have hmin := htile.length.1
      have hshorter : more.length < length := by
        rw [← hlength, List.length_append]
        omega
      obtain ⟨tiles, rest, htiled⟩ := ih more.length hshorter (offset + tile.length) more rfl
      rw [blobsFrom_blob false offset htile more]
      simp only [Bool.false_eq_true, if_false]
      by_cases htype : tile.getD 4 0 = certificateType
      · rw [if_pos htype]
        cases hread : readCertificate offset tile with
        | error e =>
          exact ⟨[], tile ++ more, tiled_fail hdata (offset_of_readCertificate hread)⟩
        | ok certificate =>
          refine ⟨tile :: tiles, rest, htiled.cons htile rfl ?_⟩
          rw [certificatesOf, List.filter_cons_of_pos (by simpa using htype)]
          exact .cons (liesIn_of_readCertificate htile htype hread) htiled.certificates
      · rw [if_neg htype]
        by_cases hheader : tile.getD 4 0 = headerType
        · rw [if_pos hheader]
          exact ⟨[], tile ++ more, tiled_fail hdata rfl⟩
        · rw [if_neg hheader]
          exact ⟨tile :: tiles, rest, htiled.skip htile htype⟩
    · rw [hfail]
      exact ⟨[], data, tiled_fail hdata hoffset⟩

/-- The header is a blob like others, only that it must be there. -/
theorem exists_tiled_blobs {data : Octets} (hdata : data ≠ []) :
    ∃ tiles rest, Tiled 0 data tiles rest (blobs data) := by
  obtain ⟨tile, more, rfl, htile⟩ | ⟨e, hoffset, hfail⟩ := exists_blob_or_fail true 0 hdata
  · rw [blobs, blobsFrom_blob true 0 htile more]
    simp only [if_true]
    by_cases hheader : tile.getD 4 0 = headerType ∧ slice tile 8 4 = magic
    · rw [if_pos hheader]
      obtain ⟨tiles, rest, htiled⟩ := exists_tiled (0 + tile.length) more
      have htype : tile.getD 4 0 ≠ certificateType := by
        rw [hheader.1]
        decide
      exact ⟨tile :: tiles, rest, htiled.skip htile htype⟩
    · rw [if_neg hheader]
      exact ⟨[], tile ++ more, tiled_fail hdata rfl⟩
  · rw [blobs, hfail]
    exact ⟨[], data, tiled_fail hdata hoffset⟩

/-- A certificate that is read is no longer than a blob can be. -/
theorem length_keyblock_le {data : Octets} {certificate : Blob}
    (hmem : certificate ∈ (blobs data).items) : certificate.keyblock.length ≤ maxBlobLength := by
  by_cases hdata : data = []
  · rw [hdata] at hmem
    cases hmem
  · obtain ⟨tiles, rest, htiled⟩ := exists_tiled_blobs hdata
    obtain ⟨index, rfl⟩ := List.mem_iff_get.mp hmem
    have hindex : index.1 < (certificatesOf (placedFrom 0 tiles)).length := by
      rw [htiled.certificates.length_eq]
      exact index.2
    obtain ⟨-, hlies⟩ := htiled.certificates.get hindex index.2
    have hapart := hlies.apart.2
    have hlength := hlies.length.2
    rw [hlies.keyblock_length, maxBlobLength]
    omega

/-- Whatever its octets are, a keybox is split into complete blobs, which stand one behind the other
from the start on, and a rest. The certificates that are read are those of the blobs of their type,
one for each, with the offset of the blob and with everything read from inside it. The end is
reached if there are blobs and no rest, and otherwise what is malformed starts where the blobs
end. -/
theorem blobs_tile (data : Octets) :
    ∃ tiles rest,
      (data = tiles.flatten ++ rest ∧ (∀ tile ∈ tiles, IsBlob tile) ∧
        ∀ placed ∈ placedFrom 0 tiles, slice data placed.1 placed.2.length = placed.2) ∧
      List.Forall₂ Blob.ReadFrom (certificatesOf (placedFrom 0 tiles)) (blobs data).items ∧
      ((blobs data).failure = none ↔ rest = [] ∧ tiles ≠ []) ∧
      ∀ e, (blobs data).failure = some e → e.offset = tiles.flatten.length := by
  by_cases hdata : data = []
  · rw [hdata]
    refine ⟨[], [], ⟨rfl, nofun, nofun⟩, .nil, ⟨nofun, fun hends => absurd rfl hends.2⟩, ?_⟩
    intro e he
    obtain rfl : Error.empty = e := Option.some.inj he
    rfl
  · obtain ⟨tiles, rest, htiled⟩ := exists_tiled_blobs hdata
    refine ⟨tiles, rest, ⟨htiled.split, htiled.complete, ?_⟩, htiled.certificates, ?_, ?_⟩
    · intro placed hplaced
      rw [htiled.split]
      exact slice_of_mem_placedFrom (show ([] : Octets).length = 0 from rfl) hplaced rest
    · rw [htiled.ends]
      refine ⟨fun hrest => ⟨hrest, ?_⟩, And.left⟩
      rintro rfl
      exact hdata (by rw [htiled.split, hrest]; rfl)
    · intro e he
      rw [htiled.failure e he, Nat.zero_add]

end CommitSeal.Keybox
