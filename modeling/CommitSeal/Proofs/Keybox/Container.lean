import CommitSeal.Keybox
import CommitSeal.Proofs.Octets.BigEndian

/-!
# Writing keyboxes

How a keybox is laid out: a header and then blobs, each behind its length (`Keybox.blobText`), those
with a certificate with an index of keys in front of it, room around it and a checksum behind it
(`Keybox.Layout.text`). What is laid out so is read back, each certificate at the place where its
blob starts, and blobs of other types add nothing but their length (`Keybox.blobs_text`).

`Keybox.blobsFrom_blob` says what the reader does with one blob, and
`Keybox.readCertificate_text` that a certificate blob is read to what was laid out.
-/

namespace CommitSeal.Keybox

/-! ## Fields at their places -/

/-- A field is read from its place. -/
theorem slice_append {front : Octets} {start : Nat} (hfront : front.length = start)
    (field rest : Octets) : slice (front ++ (field ++ rest)) start field.length = field := by
  rw [slice, ← hfront, List.drop_left, List.take_left]

/-- A number is read from its place. -/
theorem number_append {front : Octets} {start : Nat} (hfront : front.length = start)
    {width value : Nat} (hvalue : value < 256 ^ width) (rest : Octets) :
    number (front ++ (Octets.ofNat width value ++ rest)) start width = value := by
  have hslice := slice_append hfront (Octets.ofNat width value) rest
  rw [Octets.length_ofNat] at hslice
  rw [number, hslice, Octets.toNat_ofNat_of_lt hvalue]

/-! ## One blob -/

/-- A blob of a type, behind its length. -/
def blobText (type : UInt8) (content : Octets) : Octets :=
  Octets.ofNat 4 (5 + content.length) ++ type :: content

theorem length_blobText (type : UInt8) (content : Octets) :
    (blobText type content).length = 5 + content.length := by
  rw [blobText, List.length_append, Octets.length_ofNat, List.length_cons]
  omega

/-- A length that is admitted for a blob. -/
def BlobLength (length : Nat) : Prop := 6 ≤ length ∧ length ≤ maxBlobLength

/-- A complete blob: its length is admitted, and is what its first four octets say. -/
structure IsBlob (blob : Octets) : Prop where
  length : BlobLength blob.length
  declared : number blob 0 4 = blob.length

theorem isBlob_blobText {type : UInt8} {content : Octets}
    (hlength : BlobLength (blobText type content).length) : IsBlob (blobText type content) := by
  refine ⟨hlength, ?_⟩
  have hfits : 5 + content.length < 256 ^ 4 := by
    have hmax := hlength.2
    rw [length_blobText] at hmax
    exact Nat.lt_of_le_of_lt hmax (by decide)
  rw [length_blobText, blobText]
  exact number_append (show ([] : Octets).length = 0 from rfl) hfits (type :: content)

/-- The octets of a blob that was read are passed over. -/
theorem blobsFrom_pass (first : Bool) (offset : Nat) (taken rest : Octets) :
    blobsFrom first offset taken.length (taken ++ rest)
      = blobsFrom first (offset + taken.length) 0 rest := by
  induction taken generalizing offset with
  | nil => rfl
  | cons octet taken ih =>
    rw [List.cons_append, List.length_cons, blobsFrom, ih (offset + 1)]
    rw [show offset + 1 + taken.length = offset + (taken.length + 1) by omega]

/-- What the reader does with a blob: the first one must be a header, of the others those with a
certificate are read, and no other header may come. -/
theorem blobsFrom_blob (first : Bool) (offset : Nat) {blob : Octets} (hblob : IsBlob blob)
    (rest : Octets) :
    blobsFrom first offset 0 (blob ++ rest)
      = (let behind := blobsFrom false (offset + blob.length) 0 rest
        let type := blob.getD 4 0
        if first then
          if type = headerType ∧ slice blob 8 4 = magic then behind else .fail .noHeader
        else if type = certificateType then
          match readCertificate offset blob with
          | .error e => .fail e
          | .ok certificate => .cons certificate behind
        else if type = headerType then .fail (.secondHeader offset)
        else behind) := by
  obtain ⟨⟨hmin, hmax⟩, hdeclared⟩ := hblob
  -- The reader takes the first octet, and passes over the others.
  cases blob with
  | nil => exact absurd hmin (by decide)
  | cons octet more =>
    have hfront : ((octet :: more) ++ rest).take 4 = (octet :: more).take 4 :=
      List.take_append_of_le_length (by omega)
    have hfour : ¬ ((octet :: more).take 4).length < 4 := by
      rw [List.length_take]
      omega
    have hnumber : number ((octet :: more) ++ rest) 0 4 = (octet :: more).length := by
      rw [← hdeclared, number, number, slice, slice, List.drop_zero, List.drop_zero, hfront]
    have hrange : ¬ ((octet :: more).length < 6 ∨ maxBlobLength < (octet :: more).length) := by
      omega
    have htake : ((octet :: more) ++ rest).take (octet :: more).length = octet :: more :=
      List.take_left
    have hpass := blobsFrom_pass false (offset + 1) more rest
    have hbehind : offset + 1 + more.length = offset + (octet :: more).length := by
      rw [List.length_cons]
      omega
    have hmore : (octet :: more).length - 1 = more.length := rfl
    rw [List.cons_append] at hfront hnumber htake ⊢
    rw [blobsFrom]
    cases hcertificate : readCertificate offset (octet :: more) <;>
      simp only [hfront, hnumber, htake, hmore, hpass, hbehind, if_neg hfour, if_neg hrange,
        Nat.lt_irrefl, if_false, hcertificate]

/-! ## The index of a certificate blob -/

/-- An index entry as it is laid out, with room between fingerprint and flags and behind them. -/
structure Entry where
  fingerprint : Octets
  gap : Octets
  flags : Nat
  more : Octets

namespace Entry

/-- The octets of an entry. -/
def text (entry : Entry) : Octets :=
  entry.fingerprint ++ entry.gap ++ Octets.ofNat 2 entry.flags ++ entry.more

/-- What an entry says. -/
def info (entry : Entry) : KeyInfo := ⟨entry.fingerprint, entry.flags⟩

/-- An entry of a size, with its fingerprint in front and its flags at octet 24. -/
structure Sound (size : Nat) (entry : Entry) : Prop where
  fingerprint : entry.fingerprint.length = 20
  gap : entry.gap.length = 4
  flags : entry.flags < 2 ^ 16
  size : entry.text.length = size

end Entry

/-- An entry is read from its place. -/
theorem keyInfo_text {entry : Entry} {size index : Nat} (hsound : entry.Sound size)
    {front : Octets} (hfront : front.length = fixedLength + index * size) (rest : Octets) :
    keyInfo (front ++ (entry.text ++ rest)) size index = entry.info := by
  have hfingerprint := slice_append hfront entry.fingerprint
    (entry.gap ++ (Octets.ofNat 2 entry.flags ++ (entry.more ++ rest)))
  have hplace : (front ++ (entry.fingerprint ++ entry.gap)).length
      = fixedLength + index * size + 24 := by
    rw [List.length_append, List.length_append, hfront, hsound.fingerprint, hsound.gap]
  have hsmall : entry.flags < 256 ^ 2 := hsound.flags
  have hflags := number_append hplace hsmall (entry.more ++ rest)
  rw [hsound.fingerprint] at hfingerprint
  simp only [List.append_assoc] at hflags
  simp only [keyInfo, Entry.text, Entry.info, List.append_assoc, hfingerprint, hflags]

/-- The entries are read one after the other. -/
theorem keyInfos_texts {entries : List Entry} {size : Nat}
    (hentries : ∀ entry ∈ entries, entry.Sound size) (rest : Octets) :
    ∀ {front : Octets} {index : Nat}, front.length = fixedLength + index * size →
      (List.range' index entries.length).map
          (keyInfo (front ++ (entries.flatMap Entry.text ++ rest)) size)
        = entries.map Entry.info := by
  induction entries with
  | nil => intros; rfl
  | cons entry entries ih =>
    intro front index hfront
    obtain ⟨hentry, hothers⟩ := List.forall_mem_cons.mp hentries
    have hnext : (front ++ entry.text).length = fixedLength + (index + 1) * size := by
      rw [List.length_append, hfront, hentry.size, Nat.succ_mul, Nat.add_assoc]
    have hrest := ih hothers hnext
    rw [List.append_assoc] at hrest
    rw [List.flatMap_cons, List.append_assoc, List.length_cons, List.range'_succ, List.map_cons,
      List.map_cons, keyInfo_text hentry hfront, hrest]

/-! ## Certificate blobs -/

/-- What closes a certificate blob. -/
inductive Closing where
  /-- The SHA-1 digest of the octets in front. -/
  | digest
  /-- Four zero octets and whatever else, which nothing is compared with. -/
  | unverified (octets : Octets)

/-- A certificate blob as it is laid out. -/
structure Layout where
  version : UInt8
  flags : Nat
  keyInfoSize : Nat
  entries : List Entry
  /-- The room between the index and the certificate. -/
  gap : Octets
  keyblock : Octets
  /-- The room between the certificate and the checksum. -/
  more : Octets
  closing : Closing

namespace Layout

variable (layout : Layout)

/-- Where the certificate starts. -/
def start : Nat := fixedLength + layout.entries.length * layout.keyInfoSize + layout.gap.length

/-- The octets of the whole blob. -/
def length : Nat :=
  layout.start + layout.keyblock.length + layout.more.length + checksumLength

/-- The octets in front of the index. -/
def fixedPart : Octets :=
  Octets.ofNat 4 layout.length ++ [certificateType, layout.version] ++ Octets.ofNat 2 layout.flags
    ++ Octets.ofNat 4 layout.start ++ Octets.ofNat 4 layout.keyblock.length
    ++ Octets.ofNat 2 layout.entries.length ++ Octets.ofNat 2 layout.keyInfoSize

/-- The octets that the checksum covers. -/
def covered : Octets :=
  layout.fixedPart ++ layout.entries.flatMap Entry.text ++ layout.gap ++ layout.keyblock
    ++ layout.more

/-- The checksum. -/
def checksum : Octets :=
  match layout.closing with
  | .digest => Digest.sha1 layout.covered
  | .unverified octets => [0, 0, 0, 0] ++ octets

/-- The octets of the blob. -/
def text : Octets := layout.covered ++ layout.checksum

/-- The blob that is laid out, at an offset. -/
def blob (offset : Nat) : Blob where
  offset
  flags := layout.flags
  keys := layout.entries.map Entry.info
  keyblock := layout.keyblock

/-- A layout is sound if its numbers fit into their fields, its entries have the size that they
are said to have, and it is not too long for a blob. -/
structure Sound : Prop where
  flags : layout.flags < 2 ^ 16
  entries_ne_nil : layout.entries ≠ []
  entries_length : layout.entries.length < 2 ^ 16
  le_keyInfoSize : minKeyInfoSize ≤ layout.keyInfoSize
  keyInfoSize : layout.keyInfoSize < 2 ^ 16
  entries : ∀ entry ∈ layout.entries, entry.Sound layout.keyInfoSize
  closing : ∀ octets, layout.closing = .unverified octets → octets.length = 16
  length : layout.length ≤ maxBlobLength

end Layout

theorem length_sha1 (message : Octets) : (Digest.sha1 message).length = checksumLength := rfl

variable {layout : Layout}

theorem length_entries {entries : List Entry} {size : Nat}
    (hentries : ∀ entry ∈ entries, entry.Sound size) :
    (entries.flatMap Entry.text).length = entries.length * size := by
  induction entries with
  | nil => rw [List.length_nil, Nat.zero_mul]; rfl
  | cons entry entries ih =>
    obtain ⟨hentry, hothers⟩ := List.forall_mem_cons.mp hentries
    rw [List.flatMap_cons, List.length_append, hentry.size, ih hothers, List.length_cons,
      Nat.succ_mul, Nat.add_comm]

theorem length_fixedPart (layout : Layout) : layout.fixedPart.length = fixedLength := by
  simp [Layout.fixedPart, fixedLength]

theorem length_covered (hsound : layout.Sound) :
    layout.covered.length + checksumLength = layout.length := by
  simp only [Layout.covered, List.length_append, length_fixedPart,
    length_entries hsound.entries,
    Layout.length, Layout.start]

theorem length_checksum (hsound : layout.Sound) : layout.checksum.length = checksumLength := by
  unfold Layout.checksum
  cases hclosing : layout.closing with
  | digest => exact length_sha1 _
  | unverified octets =>
    simp only [List.length_append, hsound.closing octets hclosing]
    rfl

theorem length_text (hsound : layout.Sound) : layout.text.length = layout.length := by
  rw [Layout.text, List.length_append, length_checksum hsound, length_covered hsound]

/-- The checksum holds. -/
theorem checksumHolds_text (hsound : layout.Sound) : checksumHolds layout.text = true := by
  have hcovered : layout.text.length - checksumLength = layout.covered.length := by
    rw [length_text hsound, ← length_covered hsound, Nat.add_sub_cancel]
  have htake : layout.text.take layout.covered.length = layout.covered := List.take_left
  have hdrop : layout.text.drop layout.covered.length = layout.checksum := List.drop_left
  unfold checksumHolds
  simp only [hcovered, htake, hdrop, Layout.checksum]
  cases layout.closing with
  | digest => simp
  | unverified octets => rfl

/-- A number that is written behind others is read from behind them. -/
theorem number_of_prefix {data front : Octets} {start width value : Nat}
    (hdata : front ++ Octets.ofNat width value <+: data) (hfront : front.length = start)
    (hvalue : value < 256 ^ width) : number data start width = value := by
  obtain ⟨rest, rfl⟩ := hdata
  rw [List.append_assoc]
  exact number_append hfront hvalue rest

/-- The numbers in front of the index are read from their places. -/
theorem numbers_text (hsound : layout.Sound) :
    number layout.text 6 2 = layout.flags ∧ number layout.text 8 4 = layout.start ∧
      number layout.text 12 4 = layout.keyblock.length ∧
      number layout.text 16 2 = layout.entries.length ∧
      number layout.text 18 2 = layout.keyInfoSize := by
  have hlength := hsound.length
  have hmax : maxBlobLength < 256 ^ 4 := by decide
  have hparts : layout.length
    = layout.start + layout.keyblock.length + layout.more.length + checksumLength := rfl
  have hfixed : ∀ field : Octets, field <+: layout.fixedPart → field <+: layout.text := by
    intro field hfield
    refine hfield.trans ?_
    simp [Layout.text, Layout.covered]
  refine ⟨?_, ?_, ?_, ?_, ?_⟩
  · refine number_of_prefix (hfixed (Octets.ofNat 4 layout.length ++
      [certificateType, layout.version] ++ _) ?_) (by simp) hsound.flags
    simp [Layout.fixedPart]
  · refine number_of_prefix (hfixed (Octets.ofNat 4 layout.length ++
      [certificateType, layout.version] ++ Octets.ofNat 2 layout.flags ++ _) ?_) (by simp)
      (by omega)
    simp [Layout.fixedPart]
  · refine number_of_prefix (hfixed (Octets.ofNat 4 layout.length ++
      [certificateType, layout.version] ++ Octets.ofNat 2 layout.flags ++
      Octets.ofNat 4 layout.start ++ _) ?_) (by simp) (by omega)
    simp [Layout.fixedPart]
  · refine number_of_prefix (hfixed (Octets.ofNat 4 layout.length ++
      [certificateType, layout.version] ++ Octets.ofNat 2 layout.flags ++
      Octets.ofNat 4 layout.start ++ Octets.ofNat 4 layout.keyblock.length ++ _) ?_) (by simp)
      hsound.entries_length
    simp [Layout.fixedPart]
  · refine number_of_prefix (hfixed layout.fixedPart (List.prefix_refl _)) (by simp)
      hsound.keyInfoSize

/-- A certificate blob is read to what was laid out. -/
theorem readCertificate_text (hsound : layout.Sound) (offset : Nat) :
    readCertificate offset layout.text = .ok (layout.blob offset) := by
  obtain ⟨hflags, hstart, hkeyblock, hcount, hsize⟩ := numbers_text hsound
  have hlength := length_text hsound
  have hparts : layout.length
    = layout.start + layout.keyblock.length + layout.more.length + checksumLength := rfl
  have hplace : layout.start = fixedLength + layout.entries.length * layout.keyInfoSize
    + layout.gap.length := rfl
  have hentries : layout.entries.length ≠ 0 := by
    rw [Ne, List.length_eq_zero_iff]
    exact hsound.entries_ne_nil
  have hkeys := keyInfos_texts hsound.entries
    (layout.gap ++ (layout.keyblock ++ (layout.more ++ layout.checksum)))
    (show layout.fixedPart.length = fixedLength + 0 * layout.keyInfoSize by
      rw [length_fixedPart, Nat.zero_mul, Nat.add_zero])
  have hbody := slice_append
    (show (layout.fixedPart ++ layout.entries.flatMap Entry.text ++ layout.gap).length
        = layout.start by
      rw [List.length_append, List.length_append, length_fixedPart, length_entries hsound.entries,
        hplace])
    layout.keyblock (layout.more ++ layout.checksum)
  have htext : layout.text = layout.fixedPart ++ (layout.entries.flatMap Entry.text ++
      (layout.gap ++ (layout.keyblock ++ (layout.more ++ layout.checksum)))) := by
    simp only [Layout.text, Layout.covered, List.append_assoc]
  rw [← htext, ← List.range_eq_range'] at hkeys
  simp only [List.append_assoc] at hbody
  rw [← htext] at hbody
  unfold readCertificate
  simp only [hflags, hstart, hkeyblock, hcount, hsize, hlength, checksumHolds_text hsound]
  rw [if_neg (by omega), if_neg (by simp), if_neg hentries,
    if_neg (Nat.not_lt.mpr hsound.le_keyInfoSize), if_neg (by omega), if_neg (by omega),
    if_neg (by omega), hkeys, hbody]
  rfl

/-! ## The container -/

/-- A header blob: its type, three octets, the mark of keyboxes, and whatever else. -/
structure Header where
  front : Octets
  more : Octets

namespace Header

/-- The octets of a header. -/
def text (header : Header) : Octets :=
  blobText headerType (header.front ++ magic ++ header.more)

/-- A header with the mark at octet 8, and not too long for a blob. -/
structure Sound (header : Header) : Prop where
  front : header.front.length = 3
  length : header.text.length ≤ maxBlobLength

end Header

/-- A blob behind the header. -/
inductive Piece where
  /-- A certificate. -/
  | certificate (layout : Layout)
  /-- A blob of another type. -/
  | other (type : UInt8) (content : Octets)

namespace Piece

/-- The octets of a blob. -/
def text : Piece → Octets
  | certificate layout => layout.text
  | other type content => blobText type content

/-- A certificate that is laid out well, or any blob of another type than those of headers and
certificates. -/
def Sound : Piece → Prop
  | certificate layout => layout.Sound
  | other type content =>
    type ≠ headerType ∧ type ≠ certificateType ∧ BlobLength (blobText type content).length

end Piece

/-- The certificates among blobs that stand one behind the other from an offset on. -/
def certificatesFrom (offset : Nat) : List Piece → List Blob
  | [] => []
  | .certificate layout :: rest =>
    layout.blob offset :: certificatesFrom (offset + layout.text.length) rest
  | .other type content :: rest => certificatesFrom (offset + (blobText type content).length) rest

/-- What is laid out for a certificate is a blob. -/
theorem text_eq_blobText (hsound : layout.Sound) :
    ∃ content, layout.text = blobText certificateType content := by
  refine ⟨layout.text.drop 5, ?_⟩
  have hlength : 5 + (layout.text.drop 5).length = layout.length := by
    have hparts : layout.length
      = layout.start + layout.keyblock.length + layout.more.length + checksumLength := rfl
    rw [List.length_drop, length_text hsound]
    unfold checksumLength at hparts
    omega
  have hfront : layout.text.take 5 = Octets.ofNat 4 layout.length ++ [certificateType] := rfl
  rw [blobText, hlength, List.append_cons, ← hfront, List.take_append_drop]

theorem blobLength_text (hsound : layout.Sound) : BlobLength layout.text.length := by
  have hparts : layout.length
    = layout.start + layout.keyblock.length + layout.more.length + checksumLength := rfl
  have hlength := hsound.length
  rw [length_text hsound]
  unfold checksumLength at hparts
  exact ⟨by omega, hlength⟩

/-- A header is read in front, and reading goes on behind it. -/
theorem blobsFrom_header {header : Header} (hheader : header.Sound) (rest : Octets) :
    blobs (header.text ++ rest) = blobsFrom false header.text.length 0 rest := by
  have hmagic : slice header.text 8 4 = magic := by
    have hplace : (Octets.ofNat 4 (5 + (header.front ++ magic ++ header.more).length)
        ++ headerType :: header.front).length = 8 := by
      rw [List.length_append, Octets.length_ofNat, List.length_cons, hheader.front]
    have hslice := slice_append hplace magic header.more
    rw [Header.text, blobText]
    simpa [show magic.length = 4 from rfl] using hslice
  have hlength : BlobLength header.text.length := by
    refine ⟨?_, hheader.length⟩
    have hmark : magic.length = 4 := rfl
    rw [Header.text, length_blobText, List.length_append, List.length_append, hheader.front, hmark]
    omega
  have hblob : IsBlob header.text := isBlob_blobText hlength
  have hread := blobsFrom_blob true 0 hblob rest
  have htype : header.text.getD 4 0 = headerType := rfl
  simpa only [blobs, htype, hmagic, and_self, if_true, Nat.zero_add] using hread

/-- A certificate is read, and reading goes on behind it. -/
theorem blobsFrom_certificate (hsound : layout.Sound) (offset : Nat) (rest : Octets) :
    blobsFrom false offset 0 (layout.text ++ rest)
      = .cons (layout.blob offset) (blobsFrom false (offset + layout.text.length) 0 rest) := by
  obtain ⟨content, htext⟩ := text_eq_blobText hsound
  have hlength := blobLength_text hsound
  have hcertificate := readCertificate_text hsound offset
  rw [htext] at hlength hcertificate ⊢
  have hread := blobsFrom_blob false offset (isBlob_blobText hlength) rest
  have htype : (blobText certificateType content).getD 4 0 = certificateType := rfl
  simpa only [htype, hcertificate, Bool.false_eq_true, if_false, if_true] using hread

/-- A blob of another type is passed over. -/
theorem blobsFrom_other {type : UInt8} {content : Octets}
    (hsound : (Piece.other type content).Sound) (offset : Nat) (rest : Octets) :
    blobsFrom false offset 0 (blobText type content ++ rest)
      = blobsFrom false (offset + (blobText type content).length) 0 rest := by
  obtain ⟨hheader, hcertificate, hlength⟩ := hsound
  have hread := blobsFrom_blob false offset (isBlob_blobText hlength) rest
  have htype : (blobText type content).getD 4 0 = type := rfl
  simpa only [htype, hheader, hcertificate, Bool.false_eq_true, if_false] using hread

/-- Blobs behind the header are read one after the other. -/
theorem blobsFrom_texts {pieces : List Piece} (hpieces : ∀ piece ∈ pieces, piece.Sound)
    (offset : Nat) :
    blobsFrom false offset 0 (pieces.flatMap Piece.text)
      = ⟨certificatesFrom offset pieces, none⟩ := by
  induction pieces generalizing offset with
  | nil => rfl
  | cons piece rest ih =>
    obtain ⟨hpiece, hrest⟩ := List.forall_mem_cons.mp hpieces
    rw [List.flatMap_cons]
    cases piece with
    | certificate layout =>
      rw [Piece.text, blobsFrom_certificate hpiece, ih hrest]
      rfl
    | other type content =>
      rw [Piece.text, blobsFrom_other hpiece, ih hrest]
      rfl

/-- A keybox is read to its certificates, in order, each with what was laid out for it and with the
offset at which its blob stands, and the end is reached. Blobs of other types, whatever is in them,
move the blobs behind them by their length and do nothing else. -/
theorem blobs_text {header : Header} (hheader : header.Sound) {pieces : List Piece}
    (hpieces : ∀ piece ∈ pieces, piece.Sound) :
    blobs (header.text ++ pieces.flatMap Piece.text)
      = ⟨certificatesFrom header.text.length pieces, none⟩ := by
  rw [blobsFrom_header hheader, blobsFrom_texts hpieces]

/-! ## Two certificates -/

/-- A header as it is usually written. -/
def usualHeader : Header := ⟨[0x01, 0x00, 0x02], List.replicate 20 0x00⟩

/-- A certificate of three octets with two keys, room around it, and entries larger than need be. -/
def roomyLayout (closing : Closing) : Layout where
  version := 0x01
  flags := 0x0102
  keyInfoSize := 29
  entries := [⟨List.replicate 20 0xA1, [0x00, 0x00, 0x00, 0x20], 0x0003, [0x00, 0x00, 0x00]⟩,
    ⟨List.replicate 20 0xB2, [0x00, 0x00, 0x00, 0x00], 0xFFFF, [0x00, 0x00, 0x07]⟩]
  gap := [0x09]
  keyblock := [0xC6, 0x01, 0x04]
  more := [0x08, 0x08]
  closing := closing

/-- Two certificates between blobs of other types. -/
def usualPieces : List Piece :=
  [.other 0x00 [0x00], .certificate (roomyLayout .digest), .other 0x4D [0x01, 0x02],
    .certificate (roomyLayout (.unverified (List.replicate 16 0x0F)))]

/-- The certificates are read with the offsets of their blobs. -/
theorem blobs_text_usual :
    (usualHeader.Sound ∧ ∀ piece ∈ usualPieces, piece.Sound) ∧
    blobs (usualHeader.text ++ usualPieces.flatMap Piece.text)
      = ⟨[(roomyLayout .digest).blob 38,
          (roomyLayout (.unverified (List.replicate 16 0x0F))).blob 149], none⟩ := by
  have hlayout : ∀ closing : Closing,
      (∀ octets, closing = .unverified octets → octets.length = 16) →
      (roomyLayout closing).Sound := by
    intro closing hclosing
    have hentries : ∀ entry ∈ (roomyLayout closing).entries, entry.Sound 29 := by
      simp only [roomyLayout, List.forall_mem_cons, List.not_mem_nil, false_imp_iff, implies_true,
        and_true]
      exact ⟨⟨rfl, rfl, by decide, rfl⟩, rfl, rfl, by decide, rfl⟩
    have hlength : (roomyLayout closing).length = 104 := rfl
    refine ⟨?_, nofun, ?_, ?_, ?_, hentries, hclosing, ?_⟩
    · simp [roomyLayout]
    · simp [roomyLayout]
    · simp [roomyLayout, minKeyInfoSize]
    · simp [roomyLayout]
    · rw [hlength]
      decide
  have hheader : usualHeader.Sound := ⟨rfl, by decide⟩
  have hpieces : ∀ piece ∈ usualPieces, piece.Sound := by
    simp only [usualPieces, List.forall_mem_cons, List.not_mem_nil, false_imp_iff, implies_true,
      and_true]
    refine ⟨⟨by decide, by decide, by decide, by decide⟩, hlayout _ nofun,
      ⟨by decide, by decide, by decide, by decide⟩, hlayout _ ?_⟩
    intro octets hoctets
    obtain rfl := Closing.unverified.inj hoctets
    rfl
  exact ⟨⟨hheader, hpieces⟩, blobs_text hheader hpieces⟩

end CommitSeal.Keybox
