import CommitSeal.Packet.Basic
import CommitSeal.Proofs.Octets.BigEndian

/-!
# Every way to frame packets

A packet may be written with a header of several forms (`Packet.HeaderForm`), which differ in the
tags and lengths that they have room for. Packets that are written one behind the other, each with
any form that has room for it, are read back with the offsets at which they stand
(`Packet.frame_text`). The form without a length takes all that is left, so it is for the last
packet only.

One packet is read by `Packet.frameFrom_text`, which rests on a lemma for each of the two formats,
`Packet.newLength_text` and `Packet.oldLength_text`. Of octets that nobody need have written,
packets are read up to a defect of a header or length (`Packet.isFraming_of_failure`).
-/

namespace CommitSeal.Packet

/-! ## Lengths -/

/-- The lengths of the new format, by how many octets they take. -/
inductive NewForm where
  | one
  | two
  | five
  deriving DecidableEq

namespace NewForm

/-- Whether a length can be written in a form. -/
def Holds : NewForm → Nat → Prop
  | one, length => length < 192
  | two, length => 192 ≤ length ∧ length < 8384
  | five, length => length < 2 ^ 32

/-- A length as a form writes it. -/
def text : NewForm → Nat → Octets
  | one, length => [UInt8.ofNat length]
  | two, length => [UInt8.ofNat ((length - 192) / 256 + 192), UInt8.ofNat ((length - 192) % 256)]
  | five, length => 0xFF :: Octets.ofNat 4 length

/-- The shortest form for a length. -/
def shortest (length : Nat) : NewForm :=
  if length < 192 then one else if length < 8384 then two else five

theorem holds_shortest {length : Nat} (hlength : length < 2 ^ 32) :
    (shortest length).Holds length := by
  unfold shortest
  split
  · assumption
  · split
    · exact ⟨by omega, by assumption⟩
    · exact hlength

end NewForm

/-- The lengths of the old format, by how many octets they take. -/
inductive OldForm where
  | one
  | two
  | four
  /-- No length at all: the packet takes all that is left. -/
  | absent
  deriving DecidableEq

namespace OldForm

/-- The two bits of a header that announce a form. -/
def code : OldForm → UInt8
  | one => 0
  | two => 1
  | four => 2
  | absent => 3

/-- How many octets a form takes. -/
def width : OldForm → Nat
  | one => 1
  | two => 2
  | four => 4
  | absent => 0

/-- Whether a length can be written in a form. -/
def Holds (form : OldForm) (length : Nat) : Prop := form ≠ absent → length < 256 ^ form.width

end OldForm

/-- A length of the new format is read back. -/
theorem newLength_text {form : NewForm} {length : Nat} (hlength : form.Holds length)
    (rest : Octets) :
    newLength (form.text length ++ rest) = .ok ((form.text length).length, length) := by
  cases form with
  | one =>
    have hsmall : length < 192 := hlength
    have hvalue : (UInt8.ofNat length).toNat = length := by
      rw [UInt8.toNat_ofNat']
      omega
    have hfirst : UInt8.ofNat length < 192 := by
      rw [UInt8.lt_iff_toNat_lt, hvalue]
      exact hsmall
    simp [NewForm.text, newLength, hfirst, hvalue]
  | two =>
    obtain ⟨hlow, hhigh⟩ : 192 ≤ length ∧ length < 8384 := hlength
    have hvalue : (UInt8.ofNat ((length - 192) / 256 + 192)).toNat
        = (length - 192) / 256 + 192 := by
      rw [UInt8.toNat_ofNat']
      omega
    have hsecond : (UInt8.ofNat ((length - 192) % 256)).toNat = (length - 192) % 256 := by
      rw [UInt8.toNat_ofNat']
      omega
    have hnotOne : ¬ UInt8.ofNat ((length - 192) / 256 + 192) < 192 := by
      rw [UInt8.lt_iff_toNat_lt, hvalue]
      show ¬ (length - 192) / 256 + 192 < 192
      omega
    have htwo : UInt8.ofNat ((length - 192) / 256 + 192) < 224 := by
      rw [UInt8.lt_iff_toNat_lt, hvalue]
      show (length - 192) / 256 + 192 < 224
      omega
    have hsum : ((length - 192) / 256 + 192 - 192) * 256 + (length - 192) % 256 + 192 = length := by
      omega
    simp only [NewForm.text, List.cons_append, List.nil_append, newLength, if_neg hnotOne,
      if_pos htwo, hvalue, hsecond, hsum, List.length_cons, List.length_nil]
  | five =>
    have hwidth : ((Octets.ofNat 4 length ++ rest).take 4) = Octets.ofNat 4 length :=
      List.take_left' (Octets.length_ofNat 4 length)
    simp only [NewForm.text, List.cons_append, newLength, hwidth, Octets.length_ofNat,
      Octets.toNat_ofNat_of_lt (show length < 256 ^ 4 from hlength), List.length_cons]
    rfl

/-- A length of the old format is read back; where there is none, it is that of what is left. -/
theorem oldLength_text {form : OldForm} {length : Nat} (hlength : form.Holds length)
    (offset : Nat) {rest : Octets} (habsent : form = .absent → rest.length = length) :
    oldLength offset form.code (Octets.ofNat form.width length ++ rest)
      = .ok (form.width, length) := by
  have htake : (Octets.ofNat form.width length ++ rest).take form.width
      = Octets.ofNat form.width length := List.take_left' (Octets.length_ofNat _ length)
  cases form with
  | absent =>
    rw [← habsent rfl]
    rfl
  | _ =>
    have hvalue := Octets.toNat_ofNat_of_lt (hlength (by decide))
    simp only [OldForm.width] at htake hvalue ⊢
    simp [oldLength, OldForm.code, htake, hvalue]

/-! ## Headers -/

/-- The forms of a packet's header. -/
inductive HeaderForm where
  | new (form : NewForm)
  | old (form : OldForm)
  deriving DecidableEq

namespace HeaderForm

/-- Whether a form has room for a tag and a length. -/
def Carries : HeaderForm → UInt8 → Nat → Prop
  | new form, tag, length => tag < 64 ∧ form.Holds length
  | old form, tag, length => tag < 16 ∧ form.Holds length

/-- The first octet of a header. -/
def firstOctet : HeaderForm → UInt8 → UInt8
  | new _, tag => (0xC0 : UInt8) ||| tag
  | old form, tag => (0x80 : UInt8) ||| tag <<< 2 ||| form.code

/-- The octets of a header behind the first. -/
def lengthText : HeaderForm → Nat → Octets
  | new form, length => form.text length
  | old form, length => Octets.ofNat form.width length

end HeaderForm

/-- The first octet of a new header says that it is one, and has the tag in its low bits. -/
theorem firstOctet_new {tag : UInt8} (htag : tag < 64) (form : NewForm) :
    (HeaderForm.new form).firstOctet tag &&& 0x80 ≠ 0 ∧
      (HeaderForm.new form).firstOctet tag &&& 0x40 ≠ 0 ∧
      (HeaderForm.new form).firstOctet tag &&& 0x3F = tag := by
  apply Octets.forall_octet_lt _ tag (UInt8.lt_iff_toNat_lt.mp htag)
  cases form <;> decide

/-- The first octet of an old header has the tag in the middle, and its form in the lowest bits. -/
theorem firstOctet_old {tag : UInt8} (htag : tag < 16) (form : OldForm) :
    (HeaderForm.old form).firstOctet tag &&& 0x80 ≠ 0 ∧
      (HeaderForm.old form).firstOctet tag &&& 0x40 = 0 ∧
      (HeaderForm.old form).firstOctet tag >>> 2 &&& 0x0F = tag ∧
      (HeaderForm.old form).firstOctet tag &&& 0x03 = form.code := by
  apply Octets.forall_octet_lt _ tag (UInt8.lt_iff_toNat_lt.mp htag)
  cases form <;> decide

/-- A header is read back, in front of the body and whatever else. -/
theorem header_text {form : HeaderForm} {tag : UInt8} {length : Nat}
    (hcarries : form.Carries tag length) (offset : Nat) {rest : Octets}
    (habsent : form = .old .absent → rest.length = length) :
    header offset (form.firstOctet tag) (form.lengthText length ++ rest)
      = .ok ⟨tag, (form.lengthText length).length, length⟩ := by
  cases form with
  | new form =>
    obtain ⟨htag, hlength⟩ := hcarries
    obtain ⟨hpacket, hnew, hread⟩ := firstOctet_new htag form
    simp only [HeaderForm.lengthText, header, if_neg hpacket, if_neg hnew,
      newLength_text hlength rest, hread]
  | old form =>
    obtain ⟨htag, hlength⟩ := hcarries
    obtain ⟨hpacket, hold, hread, hcode⟩ := firstOctet_old htag form
    have hform : form = .absent → rest.length = length := fun h => habsent (by rw [h])
    simp only [HeaderForm.lengthText, header, if_neg hpacket, if_pos hold, hcode,
      oldLength_text hlength offset hform, hread, Octets.length_ofNat]

/-- A header has no more than six bits for a tag. -/
theorem tag_lt_of_header {offset : Nat} {octet : UInt8} {rest : Octets} {head : Header}
    (hheader : header offset octet rest = .ok head) : head.tag < 64 := by
  have hbits : ∀ (value : UInt8) {mask : UInt8}, mask ≤ 0x3F → value &&& mask < 64 := by
    intro value mask hmask
    rw [UInt8.lt_iff_toNat_lt, UInt8.toNat_and]
    exact Nat.lt_of_le_of_lt (Nat.le_trans Nat.and_le_right hmask) (by decide)
  unfold header at hheader
  split at hheader
  · cases hheader
  · split at hheader
    · split at hheader
      · cases hheader
      · cases hheader
        exact hbits _ (by decide)
    · split at hheader
      · cases hheader
      · cases hheader
        exact hbits _ (by decide)

/-! ## Defects -/

/-- What can be wrong with the headers and lengths of packets. -/
inductive IsFraming : PacketError → Prop where
  | badHeader (octet : UInt8) (offset : Nat) : IsFraming (.badHeader octet offset)
  | truncatedNewLength : IsFraming .truncatedNewLength
  | truncatedOldLength (offset : Nat) : IsFraming (.truncatedOldLength offset)
  | partialLength : IsFraming .partialLength
  | overrun (offset : Nat) : IsFraming (.overrun offset)

theorem isFraming_of_newLength {rest : Octets} {e : PacketError}
    (hlength : newLength rest = .error e) : IsFraming e := by
  unfold newLength at hlength
  repeat' split at hlength
  all_goals cases hlength <;> constructor

theorem isFraming_of_oldLength {offset : Nat} {lengthType : UInt8} {rest : Octets} {e : PacketError}
    (hlength : oldLength offset lengthType rest = .error e) : IsFraming e := by
  simp only [oldLength] at hlength
  repeat' split at hlength
  all_goals cases hlength <;> constructor

theorem isFraming_of_header {offset : Nat} {octet : UInt8} {rest : Octets} {e : PacketError}
    (hheader : header offset octet rest = .error e) : IsFraming e := by
  unfold header at hheader
  split at hheader
  · cases hheader
    constructor
  · split at hheader
    · split at hheader
      · rename_i hlength
        cases hheader
        exact isFraming_of_oldLength hlength
      · cases hheader
    · split at hheader
      · rename_i hlength
        cases hheader
        exact isFraming_of_newLength hlength
      · cases hheader

/-! ## Packets -/

/-- A packet, and the form of the header that it is written with. -/
structure Written where
  form : HeaderForm
  tag : UInt8
  body : Octets

namespace Written

/-- A packet as it is written. -/
def text (written : Written) : Octets :=
  written.form.firstOctet written.tag
    :: (written.form.lengthText written.body.length ++ written.body)

/-- The header has room for the packet. -/
def Fits (written : Written) : Prop := written.form.Carries written.tag written.body.length

/-- The packet takes all that is left. -/
def IsOpen (written : Written) : Prop := written.form = .old .absent

/-- A packet with the shortest header of the new format. -/
def shortest (tag : UInt8) (body : Octets) : Written :=
  ⟨.new (.shortest body.length), tag, body⟩

/-- That is how a packet is encoded. -/
theorem text_shortest (tag : UInt8) (body : Octets) :
    (shortest tag body).text = encodeBody tag body := by
  have hlength : (NewForm.shortest body.length).text body.length
      = if body.length < 192 then [UInt8.ofNat body.length]
        else if body.length < 8384 then
          [UInt8.ofNat ((body.length - 192) / 256 + 192), UInt8.ofNat ((body.length - 192) % 256)]
        else 0xFF :: Octets.ofNat 4 body.length := by
    unfold NewForm.shortest
    split
    · rfl
    · split <;> rfl
  simp only [text, shortest, HeaderForm.firstOctet, HeaderForm.lengthText, hlength, encodeBody,
    encodeHeader, List.cons_append]

theorem fits_shortest {tag : UInt8} {body : Octets} (htag : tag < 64)
    (hbody : body.length < 2 ^ 32) : (shortest tag body).Fits :=
  ⟨htag, NewForm.holds_shortest hbody⟩

end Written

/-- Packets at the offsets at which they stand when they are written one behind the other, from an
offset on. -/
def placedFrom (offset : Nat) : List Written → List Packet
  | [] => []
  | written :: rest =>
    ⟨written.tag, written.body, offset⟩ :: placedFrom (offset + written.text.length) rest

/-- Written packets are placed with their tags and bodies. -/
theorem map_placedFrom (offset : Nat) (written : List Written) :
    (placedFrom offset written).map (fun packet => (packet.tag, packet.body))
      = written.map fun packet => (packet.tag, packet.body) := by
  induction written generalizing offset with
  | nil => rfl
  | cons packet rest ih => rw [placedFrom, List.map_cons, List.map_cons, ih]

/-- The octets of a packet that was read are passed over. -/
theorem frameFrom_pass (offset : Nat) (taken rest : Octets) :
    frameFrom offset taken.length (taken ++ rest) = frameFrom (offset + taken.length) 0 rest := by
  induction taken generalizing offset with
  | nil => rfl
  | cons octet taken ih =>
    rw [List.cons_append, List.length_cons, frameFrom, ih (offset + 1)]
    rw [show offset + 1 + taken.length = offset + (taken.length + 1) by omega]

/-- A packet is read, and reading goes on behind it. -/
theorem frameFrom_text {written : Written} (hfits : written.Fits) (offset : Nat) {rest : Octets}
    (hopen : written.IsOpen → rest = []) :
    frameFrom offset 0 (written.text ++ rest)
      = .cons ⟨written.tag, written.body, offset⟩
          (frameFrom (offset + written.text.length) 0 rest) := by
  obtain ⟨form, tag, body⟩ := written
  have habsent : form = .old .absent → (body ++ rest).length = body.length := by
    intro h
    rw [hopen h, List.append_nil]
  have hheader := header_text hfits offset habsent
  have hbody : ((form.lengthText body.length ++ (body ++ rest)).drop
      (form.lengthText body.length).length).take body.length = body := by
    rw [List.drop_left, List.take_left]
  have hpass := frameFrom_pass (offset + 1) (form.lengthText body.length ++ body) rest
  rw [List.length_append, List.append_assoc] at hpass
  simp only [Written.text, List.cons_append, List.append_assoc, frameFrom, hheader, hbody, if_true,
    hpass, List.length_cons, List.length_append]
  rw [show offset + 1 + ((form.lengthText body.length).length + body.length)
    = offset + ((form.lengthText body.length).length + body.length + 1) by omega]

/-- Packets written one behind the other are read one after the other. -/
theorem frameFrom_texts {written : List Written} (hfits : ∀ packet ∈ written, packet.Fits)
    (hopen : ∀ packet ∈ written.dropLast, ¬ packet.IsOpen) (offset : Nat) :
    frameFrom offset 0 (written.flatMap Written.text) = ⟨placedFrom offset written, none⟩ := by
  induction written generalizing offset with
  | nil => rfl
  | cons packet rest ih =>
    obtain ⟨hpacket, hrest⟩ := List.forall_mem_cons.mp hfits
    have hlast : packet.IsOpen → rest.flatMap Written.text = [] := by
      intro h
      cases rest with
      | nil => rfl
      | cons next rest => exact absurd h (hopen packet List.mem_cons_self)
    have hclosed : ∀ later ∈ rest.dropLast, ¬ later.IsOpen := by
      intro later hlater
      cases rest with
      | nil => cases hlater
      | cons next rest => exact hopen later (List.mem_cons_of_mem _ hlater)
    rw [List.flatMap_cons, frameFrom_text hpacket offset hlast, ih hrest hclosed]
    rfl

/-- A framed packet has a header somewhere in the data, and its body is behind it. -/
theorem exists_header_of_mem_frameFrom {offset pass : Nat} {data : Octets} {packet : Packet}
    (hpacket : packet ∈ (frameFrom offset pass data).items) :
    ∃ octet rest head, octet :: rest <:+ data ∧
      header packet.offset octet rest = .ok head ∧ packet.tag = head.tag ∧
      packet.body = (rest.drop head.lengthOctets).take head.bodyLength := by
  induction data generalizing offset pass with
  | nil => cases hpacket
  | cons octet rest ih =>
    cases pass with
    | succ pass =>
      obtain ⟨found, behind, head, hsuffix, hpart⟩ := ih hpacket
      exact ⟨found, behind, head, hsuffix.trans (List.suffix_cons octet rest), hpart⟩
    | zero =>
      rw [frameFrom] at hpacket
      cases hheader : header offset octet rest with
      | error e =>
        rw [hheader] at hpacket
        cases hpacket
      | ok head =>
        simp only [hheader] at hpacket
        split at hpacket
        · rcases List.mem_cons.mp hpacket with rfl | hlater
          · exact ⟨octet, rest, head, List.suffix_refl _, hheader, rfl, rfl⟩
          · obtain ⟨found, behind, head, hsuffix, hpart⟩ := ih hlater
            exact ⟨found, behind, head, hsuffix.trans (List.suffix_cons octet rest), hpart⟩
        · cases hpacket

theorem tag_lt_of_mem_frameFrom {offset pass : Nat} {data : Octets} {packet : Packet}
    (hpacket : packet ∈ (frameFrom offset pass data).items) : packet.tag < 64 := by
  obtain ⟨octet, rest, head, -, hheader, htag, -⟩ := exists_header_of_mem_frameFrom hpacket
  rw [htag]
  exact tag_lt_of_header hheader

theorem length_body_le_of_mem_frameFrom {offset pass : Nat} {data : Octets} {packet : Packet}
    (hpacket : packet ∈ (frameFrom offset pass data).items) :
    packet.body.length ≤ data.length := by
  obtain ⟨octet, rest, head, hsuffix, -, -, hbody⟩ := exists_header_of_mem_frameFrom hpacket
  have hlength := hsuffix.length_le
  rw [List.length_cons] at hlength
  rw [hbody, List.length_take, List.length_drop]
  omega

/-- Packets break off for no other reasons. -/
theorem isFraming_of_failure {offset pass : Nat} {data : Octets} {e : PacketError}
    (hfailure : (frameFrom offset pass data).failure = some e) : IsFraming e := by
  induction data generalizing offset pass with
  | nil => cases hfailure
  | cons octet rest ih =>
    cases pass with
    | succ pass => exact ih hfailure
    | zero =>
      rw [frameFrom] at hfailure
      cases hheader : header offset octet rest with
      | error e' =>
        rw [hheader] at hfailure
        obtain rfl : e' = e := Option.some.inj hfailure
        exact isFraming_of_header hheader
      | ok head =>
        simp only [hheader] at hfailure
        split at hfailure
        · exact ih hfailure
        · obtain rfl := Option.some.inj hfailure
          exact .overrun offset

/-- Packets encoded with the shortest headers of the new format are read one after the other. -/
theorem frame_encodeBody {packets : List (UInt8 × Octets)}
    (hpackets : ∀ packet ∈ packets, packet.1 < 64 ∧ packet.2.length < 2 ^ 32) :
    frame (packets.flatMap fun packet => encodeBody packet.1 packet.2)
      = ⟨placedFrom 0 (packets.map fun packet => .shortest packet.1 packet.2), none⟩ := by
  have htext : (packets.flatMap fun packet => encodeBody packet.1 packet.2)
      = (packets.map fun packet => Written.shortest packet.1 packet.2).flatMap Written.text := by
    simp only [List.flatMap_map, Written.text_shortest]
  rw [htext]
  refine frameFrom_texts ?_ ?_ 0
  · intro written hwritten
    obtain ⟨packet, hpacket, rfl⟩ := List.mem_map.mp hwritten
    exact Written.fits_shortest (hpackets packet hpacket).1 (hpackets packet hpacket).2
  · intro written hwritten
    obtain ⟨packet, -, rfl⟩ := List.mem_map.mp ((List.dropLast_sublist _).subset hwritten)
    exact nofun

/-- Packets are read from any text in which they are written one behind the other, each with a
header that has room for it, and only the last one with a header that says no length. They have the
tags and bodies that were written and the offsets at which they stand, and the end of the text is
reached. That is so for packets encoded with the shortest headers of the new format. -/
theorem frame_text :
    (∀ written : List Written, (∀ packet ∈ written, packet.Fits) →
      (∀ packet ∈ written.dropLast, ¬ packet.IsOpen) →
      frame (written.flatMap Written.text) = ⟨placedFrom 0 written, none⟩) ∧
    (∀ packets : List (UInt8 × Octets),
      (∀ packet ∈ packets, packet.1 < 64 ∧ packet.2.length < 2 ^ 32) →
      frame (packets.flatMap fun packet => encodeBody packet.1 packet.2)
        = ⟨placedFrom 0 (packets.map fun packet => .shortest packet.1 packet.2), none⟩) := by
  exact ⟨fun written hfits hopen => frameFrom_texts hfits hopen 0,
    fun packets hpackets => frame_encodeBody hpackets⟩

/-! ## Four packets -/

/-- Packets of either format, the last one without a length. -/
def mixedPackets : List Written :=
  [⟨.new .five, 63, [0x01, 0x02]⟩, ⟨.old .two, 15, [0x03]⟩, ⟨.new .one, 12, []⟩,
    ⟨.old .absent, 2, [0x09, 0x09]⟩]

/-- They are read from the text that they make, and so is an encoded packet. -/
theorem frame_text_mixed :
    ((∀ packet ∈ mixedPackets, packet.Fits) ∧ (∀ packet ∈ mixedPackets.dropLast, ¬ packet.IsOpen) ∧
      frame [0xFF, 0xFF, 0x00, 0x00, 0x00, 0x02, 0x01, 0x02, 0xBD, 0x00, 0x01, 0x03, 0xCC, 0x00,
          0x8B, 0x09, 0x09]
        = ⟨[⟨63, [0x01, 0x02], 0⟩, ⟨15, [0x03], 8⟩, ⟨12, [], 12⟩, ⟨2, [0x09, 0x09], 14⟩], none⟩) ∧
    ((∀ packet ∈ [((63 : UInt8), ([0x01] : Octets))], packet.1 < 64 ∧ packet.2.length < 2 ^ 32) ∧
      frame [0xFF, 0x01, 0x01] = ⟨[⟨63, [0x01], 0⟩], none⟩) := by
  have hfits : ∀ packet ∈ mixedPackets, packet.Fits := by
    simp [mixedPackets, Written.Fits, HeaderForm.Carries, NewForm.Holds, OldForm.Holds,
      OldForm.width]
  have hopen : ∀ packet ∈ mixedPackets.dropLast, ¬ packet.IsOpen := by
    simp [mixedPackets, Written.IsOpen]
  have hshort : ∀ packet ∈ [((63 : UInt8), ([0x01] : Octets))],
      packet.1 < 64 ∧ packet.2.length < 2 ^ 32 := by
    simp
  exact ⟨⟨hfits, hopen, frame_text.1 mixedPackets hfits hopen⟩, hshort, frame_text.2 _ hshort⟩

end CommitSeal.Packet
