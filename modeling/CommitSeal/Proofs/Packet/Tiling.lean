import CommitSeal.Proofs.Packet.Framing
import Mathlib.Data.List.Basic

/-!
# Whatever is framed was written

Framing is the inverse of writing packets: a header that is read is one that some form writes
(`Packet.exists_form_of_header`). So, whatever the octets are, the packets that are framed stand in
them as they would be written, one behind the other from the start on (`Packet.frame_tiles`). No
octet between two of them is lost, and none belongs to both. Where framing fails, the packets that
it yielded are those of the octets that they cover.

The octets are not determined by the packets, since there are several forms of a header for most.
The packets are still the same when they are encoded and framed anew. There is one exception: a
packet that was read without a length may be too long for any header that says one.
-/

namespace CommitSeal.Packet

/-! ## Lengths -/

/-- A length of the new format is read from octets that one of its forms writes. -/
theorem exists_form_of_newLength {rest : Octets} {size length : Nat}
    (hread : newLength rest = .ok (size, length)) :
    ∃ form : NewForm, form.Holds length ∧ (form.text length).length = size ∧
      ∃ behind, rest = form.text length ++ behind := by
  cases rest with
  | nil => cases hread
  | cons first rest =>
    simp only [newLength] at hread
    split at hread
    case isTrue hone =>
      cases hread
      refine ⟨.one, UInt8.lt_iff_toNat_lt.mp hone, rfl, rest, ?_⟩
      rw [NewForm.text, UInt8.ofNat_toNat]
      rfl
    case isFalse hone =>
      have hlow : 192 ≤ first.toNat := Nat.not_lt.mp fun h => hone (UInt8.lt_iff_toNat_lt.mpr h)
      split at hread
      case isTrue htwo =>
        have hhigh : first.toNat < 224 := UInt8.lt_iff_toNat_lt.mp htwo
        cases rest with
        | nil => cases hread
        | cons second behind =>
          have hsecond := second.toNat_lt
          cases hread
          refine ⟨.two, ⟨by omega, by omega⟩, rfl, behind, ?_⟩
          have hquotient : ((first.toNat - 192) * 256 + second.toNat + 192 - 192) / 256 + 192
              = first.toNat := by omega
          have hremainder : ((first.toNat - 192) * 256 + second.toNat + 192 - 192) % 256
              = second.toNat := by omega
          rw [NewForm.text, hquotient, hremainder, UInt8.ofNat_toNat, UInt8.ofNat_toNat]
          rfl
      case isFalse =>
        split at hread
        case isTrue hfive =>
          split at hread
          case isTrue hfour =>
            cases hread
            have hvalue := Octets.toNat_lt (rest.take 4)
            rw [hfour] at hvalue
            refine ⟨.five, hvalue, rfl, rest.drop 4, ?_⟩
            rw [NewForm.text, Octets.ofNat_toNat hfour, hfive, List.cons_append,
              List.take_append_drop]
          case isFalse => cases hread
        case isFalse => cases hread

/-- A length of the old format is read from as many octets as its form takes. -/
theorem oldLength_code {form : OldForm} (hform : form ≠ .absent) (offset : Nat) (rest : Octets) :
    oldLength offset form.code rest
      = if (rest.take form.width).length = form.width
        then .ok (form.width, Octets.toNat (rest.take form.width))
        else .error (.truncatedOldLength offset) := by
  cases form with
  | absent => exact absurd rfl hform
  | _ => rfl

/-- A length of the old format is read from octets that its form writes; where the form writes none,
the length is that of what is left. -/
theorem behind_of_oldLength {offset : Nat} {form : OldForm} {rest : Octets} {size length : Nat}
    (hread : oldLength offset form.code rest = .ok (size, length)) :
    form.width = size ∧ form.Holds length ∧
      ∃ behind, rest = Octets.ofNat form.width length ++ behind ∧
        (form = .absent → behind.length = length) := by
  by_cases hform : form = .absent
  · subst hform
    cases hread
    exact ⟨rfl, fun h => absurd rfl h, rest, rfl, fun _ => rfl⟩
  · rw [oldLength_code hform] at hread
    split at hread
    case isTrue hwidth =>
      cases hread
      have hvalue := Octets.toNat_lt (rest.take form.width)
      rw [hwidth] at hvalue
      refine ⟨rfl, fun _ => hvalue, rest.drop form.width, ?_, fun h => absurd h hform⟩
      rw [Octets.ofNat_toNat hwidth, List.take_append_drop]
    case isFalse => cases hread

/-- No length of the new format is more than four octets can say. -/
theorem NewForm.Holds.lt {form : NewForm} {length : Nat} (hholds : form.Holds length) :
    length < 2 ^ 32 := by
  cases form with
  | one => exact Nat.lt_trans hholds (by decide)
  | two => exact Nat.lt_trans hholds.2 (by decide)
  | five => exact hholds

/-- No length of the old format is more than four octets can say. -/
theorem OldForm.Holds.lt {form : OldForm} {length : Nat} (hholds : form.Holds length)
    (hform : form ≠ .absent) : length < 2 ^ 32 := by
  have hwidth : form.width ≤ 4 := by cases form <;> decide
  calc length < 256 ^ form.width := hholds hform
    _ ≤ 256 ^ 4 := Nat.pow_le_pow_right (by decide) hwidth
    _ = 2 ^ 32 := rfl

/-! ## Headers -/

/-- An octet that starts a header of the new format is that of its tag. -/
theorem firstOctet_of_new (form : NewForm) (octet : UInt8) :
    octet &&& 0x80 ≠ 0 → octet &&& 0x40 ≠ 0 →
      (HeaderForm.new form).firstOctet (octet &&& 0x3F) = octet ∧ octet &&& 0x3F < 64 := by
  apply Octets.forall_octet_lt _ octet octet.toNat_lt
  cases form <;> decide +kernel

/-- An octet that starts a header of the old format is that of its tag and of the form of its
length. -/
theorem firstOctet_of_old (octet : UInt8) :
    octet &&& 0x80 ≠ 0 → octet &&& 0x40 = 0 →
      ∃ form ∈ [OldForm.one, .two, .four, .absent], form.code = octet &&& 0x03 ∧
        (HeaderForm.old form).firstOctet (octet >>> 2 &&& 0x0F) = octet ∧
        octet >>> 2 &&& 0x0F < 16 := by
  apply Octets.forall_octet_lt _ octet octet.toNat_lt
  decide +kernel

/-- A header is read from octets that one of its forms writes, in front of whatever else; where the
form writes no length, that is the body. -/
theorem exists_form_of_header {offset : Nat} {octet : UInt8} {rest : Octets} {head : Header}
    (hheader : header offset octet rest = .ok head) :
    ∃ form : HeaderForm, form.Carries head.tag head.bodyLength ∧
      form.firstOctet head.tag = octet ∧
      (form.lengthText head.bodyLength).length = head.lengthOctets ∧
      ∃ behind, rest = form.lengthText head.bodyLength ++ behind ∧
        (form = .old .absent → behind.length = head.bodyLength) := by
  unfold header at hheader
  split at hheader
  · cases hheader
  rename_i hpacket
  split at hheader
  case isTrue hold =>
    obtain ⟨form, -, hcode, hoctet, htag⟩ := firstOctet_of_old octet hpacket hold
    rw [← hcode] at hheader
    split at hheader
    · cases hheader
    · rename_i size length hread
      cases hheader
      obtain ⟨hsize, hholds, behind, hrest, habsent⟩ := behind_of_oldLength hread
      refine ⟨.old form, ⟨htag, hholds⟩, hoctet, ?_, behind, hrest, ?_⟩
      · exact (Octets.length_ofNat ..).trans hsize
      · exact fun h => habsent (HeaderForm.old.inj h)
  case isFalse hnew =>
    split at hheader
    · cases hheader
    · rename_i size length hread
      cases hheader
      obtain ⟨form, hholds, hsize, behind, hrest⟩ := exists_form_of_newLength hread
      obtain ⟨hoctet, htag⟩ := firstOctet_of_new form octet hpacket hnew
      refine ⟨.new form, ⟨htag, hholds⟩, hoctet, hsize, behind, hrest, ?_⟩
      intro habsent
      cases habsent

/-! ## Packets one behind the other -/

namespace Written

/-- The header that a packet is written with. -/
def header (written : Written) : Octets :=
  written.form.firstOctet written.tag :: written.form.lengthText written.body.length

theorem text_eq (written : Written) : written.text = written.header ++ written.body := rfl

theorem text_ne_nil (written : Written) : written.text ≠ [] := List.cons_ne_nil _ _

theorem length_header (written : Written) : written.header.length ∈ [1, 2, 3, 5, 6] := by
  obtain ⟨form, tag, body⟩ := written
  rw [header, List.length_cons]
  cases form with
  | new form => cases form <;> simp [HeaderForm.lengthText, NewForm.text]
  | old form => cases form <;> simp [HeaderForm.lengthText, OldForm.width]

theorem tag_lt {written : Written} (hfits : written.Fits) : written.tag < 64 := by
  obtain ⟨form, tag, body⟩ := written
  cases form with
  | new form => exact hfits.1
  | old form => exact UInt8.lt_trans hfits.1 (by decide)

/-- A body that is too long for every length is that of a packet without one. -/
theorem isOpen_of_long {written : Written} (hfits : written.Fits)
    (hlong : 2 ^ 32 ≤ written.body.length) : written.IsOpen := by
  obtain ⟨form, tag, body⟩ := written
  cases form with
  | new form => exact absurd hfits.2.lt (Nat.not_lt.mpr hlong)
  | old form =>
    by_contra hclosed
    have hform : form ≠ .absent := fun h => hclosed (congrArg HeaderForm.old h)
    exact absurd (hfits.2.lt hform) (Nat.not_lt.mpr hlong)

end Written

/-- There is a packet in front that was written, or framing fails there. -/
theorem exists_written_or_fail (offset : Nat) {data : Octets} (hdata : data ≠ []) :
    (∃ (written : Written) (more : Octets), data = written.text ++ more ∧ written.Fits ∧
        (written.IsOpen → more = [])) ∨
      ∃ e, frameFrom offset 0 data = .fail e := by
  cases data with
  | nil => exact absurd rfl hdata
  | cons octet rest =>
    cases hheader : header offset octet rest with
    | error e => exact .inr ⟨e, by simp only [frameFrom, hheader]⟩
    | ok head =>
      obtain ⟨form, hcarries, hoctet, hsize, behind, rfl, habsent⟩ := exists_form_of_header hheader
      by_cases hbody : (behind.take head.bodyLength).length = head.bodyLength
      · refine .inl ⟨⟨form, head.tag, behind.take head.bodyLength⟩, behind.drop head.bodyLength,
          ?_, ?_, ?_⟩
        · rw [Written.text, hbody, hoctet, List.cons_append, List.append_assoc,
            List.take_append_drop]
        · rw [Written.Fits, hbody]
          exact hcarries
        · intro hopen
          rw [← habsent hopen, List.drop_length]
      · refine .inr ⟨.overrun offset, ?_⟩
        simp only [frameFrom, hheader, ← hsize, List.drop_left, if_neg hbody]

/-- What is framed from an offset on: `written` are the packets, and `rest` is what cannot be
read. -/
structure Tiled (offset : Nat) (data : Octets) (written : List Written) (rest : Octets)
    (listing : Listing PacketError Packet) : Prop where
  split : data = written.flatMap Written.text ++ rest
  fits : ∀ packet ∈ written, packet.Fits
  closed : ∀ packet ∈ written.dropLast, ¬ packet.IsOpen
  items : listing.items = placedFrom offset written
  ends : listing.failure = none ↔ rest = []

/-- A packet in front of others that are framed. -/
theorem Tiled.cons {offset : Nat} {packet : Written} {data rest : Octets} {written : List Written}
    {listing : Listing PacketError Packet}
    (htiled : Tiled (offset + packet.text.length) data written rest listing) (hfits : packet.Fits)
    (hopen : packet.IsOpen → data = []) :
    Tiled offset (packet.text ++ data) (packet :: written) rest
      (.cons ⟨packet.tag, packet.body, offset⟩ listing) := by
  refine ⟨?_, List.forall_mem_cons.mpr ⟨hfits, htiled.fits⟩, ?_, ?_, htiled.ends⟩
  · rw [List.flatMap_cons, List.append_assoc, ← htiled.split]
  · cases written with
    | nil => exact List.forall_mem_nil _
    | cons next written =>
      have hclosed : ¬ packet.IsOpen := by
        intro h
        have hnil := htiled.split
        rw [hopen h, List.flatMap_cons, List.append_assoc] at hnil
        exact next.text_ne_nil (List.append_eq_nil_iff.mp hnil.symm).1
      rw [List.dropLast_cons_cons]
      exact List.forall_mem_cons.mpr ⟨hclosed, htiled.closed⟩
  · rw [Listing.cons, htiled.items, placedFrom]

/-- Only the last packet can be one that takes all that is left. -/
theorem Tiled.getLast?_of_isOpen {offset : Nat} {data rest : Octets} {written : List Written}
    {listing : Listing PacketError Packet} (htiled : Tiled offset data written rest listing)
    {packet : Written} (hpacket : packet ∈ written) (hopen : packet.IsOpen) :
    written.getLast? = some packet := by
  by_contra hlast
  exact htiled.closed packet (List.mem_dropLast_of_mem_of_ne_getLast? hpacket (Ne.symm hlast)) hopen

/-- If a body is too long for every length, it is that of the last packet, which takes all that is
left. -/
theorem Tiled.exists_open_of_long {offset : Nat} {data rest : Octets} {written : List Written}
    {listing : Listing PacketError Packet} (htiled : Tiled offset data written rest listing)
    {packet : Packet} (hpacket : packet ∈ listing.items) (hlong : 2 ^ 32 ≤ packet.body.length) :
    ∃ last, written.getLast? = some last ∧ last.IsOpen ∧ 2 ^ 32 ≤ last.body.length := by
  have hcontents : (packet.tag, packet.body)
      ∈ listing.items.map fun packet => (packet.tag, packet.body) := List.mem_map_of_mem hpacket
  rw [htiled.items, map_placedFrom] at hcontents
  obtain ⟨last, hlast, hsame⟩ := List.mem_map.mp hcontents
  obtain ⟨-, hbody⟩ := Prod.mk.inj hsame
  rw [← hbody] at hlong
  have hopen := Written.isOpen_of_long (htiled.fits last hlast) hlong
  exact ⟨last, htiled.getLast?_of_isOpen hlast hopen, hopen, hlong⟩

/-- Whatever there is, packets are framed as far as they were written. -/
theorem exists_tiled (offset : Nat) (data : Octets) :
    ∃ written rest, Tiled offset data written rest (frameFrom offset 0 data) := by
  -- Each packet is taken from the front, so that there are fewer octets behind it.
  induction hlength : data.length using Nat.strong_induction_on generalizing offset data with
  | _ length ih =>
    by_cases hdata : data = []
    · rw [hdata]
      exact ⟨[], [], rfl, List.forall_mem_nil _, List.forall_mem_nil _, rfl,
        by simp [frameFrom, Listing.done]⟩
    obtain ⟨packet, more, rfl, hfits, hopen⟩ | ⟨e, hfail⟩ := exists_written_or_fail offset hdata
    · have hshorter : more.length < length := by
        rw [← hlength, List.length_append]
        exact Nat.lt_add_of_pos_left (List.length_pos_iff.mpr packet.text_ne_nil)
      obtain ⟨written, rest, htiled⟩ :=
        ih more.length hshorter (offset + packet.text.length) more rfl
      rw [frameFrom_text hfits offset hopen]
      exact ⟨packet :: written, rest, htiled.cons hfits hopen⟩
    · rw [hfail]
      exact ⟨[], data, rfl, List.forall_mem_nil _, List.forall_mem_nil _, rfl,
        by simp [Listing.fail, hdata]⟩

/-! ## Encoding anew -/

/-- The tags and bodies of packets, wherever they stand. -/
def contents (packets : List Packet) : List (UInt8 × Octets) :=
  packets.map fun packet => (packet.tag, packet.body)

theorem encode?_eq (packet : Packet) :
    packet.encode? = if packet.body.length < 2 ^ 32 then some packet.encode else none := by
  simp [encode?, isWritable]

/-- Packets are all encoded unless the body of one is too long. -/
theorem mapM_encode? (packets : List Packet) :
    packets.mapM encode? = if ∀ packet ∈ packets, packet.body.length < 2 ^ 32
      then some (packets.map encode) else none := by
  induction packets with
  | nil => rfl
  | cons packet packets ih =>
    have hboth : (∀ each ∈ packet :: packets, each.body.length < 2 ^ 32) ↔
        packet.body.length < 2 ^ 32 ∧ ∀ later ∈ packets, later.body.length < 2 ^ 32 :=
      List.forall_mem_cons
    rw [List.mapM_cons, ih, encode?_eq]
    by_cases hpacket : packet.body.length < 2 ^ 32
    · by_cases hpackets : ∀ later ∈ packets, later.body.length < 2 ^ 32
      · rw [if_pos hpacket, if_pos hpackets, if_pos (hboth.mpr ⟨hpacket, hpackets⟩)]
        rfl
      · rw [if_pos hpacket, if_neg hpackets, if_neg fun h => hpackets (hboth.mp h).2]
        rfl
    · rw [if_neg hpacket, if_neg fun h => hpacket (hboth.mp h).1]
      rfl

/-- Encoded packets are framed with their tags and bodies. -/
theorem frame_encoded {packets : List Packet}
    (hpackets : ∀ packet ∈ packets, packet.tag < 64 ∧ packet.body.length < 2 ^ 32) :
    (frame (packets.map encode).flatten).failure = none ∧
      contents (frame (packets.map encode).flatten).items = contents packets := by
  have htext : (packets.map encode).flatten
      = (contents packets).flatMap fun packet => encodeBody packet.1 packet.2 := by
    rw [contents, List.flatMap_map]
    rfl
  have hcontents : ∀ packet ∈ contents packets, packet.1 < 64 ∧ packet.2.length < 2 ^ 32 := by
    intro content hcontent
    obtain ⟨packet, hpacket, rfl⟩ := List.mem_map.mp hcontent
    exact hpackets packet hpacket
  rw [htext, frame_encodeBody hcontents]
  refine ⟨rfl, ?_⟩
  rw [contents, map_placedFrom, List.map_map]
  exact List.map_id _

/-- Whatever the octets are, they are split into packets as they are written, one behind the other
from the start on, and a rest. These are the packets that are framed, each with a header of no more
than six octets in front of its body. The end is reached if there is no rest. The packets are also
those of the octets that they cover alone, where the end is reached in any case. If they can be
encoded anew, they are framed with the same tags and bodies again; otherwise the last one was read
without a length and is too long for any. -/
theorem frame_tiles (data : Octets) :
    ∃ written rest,
      (data = written.flatMap Written.text ++ rest ∧
        (frame data).items = placedFrom 0 written ∧
        ∀ packet ∈ written, packet.Fits ∧ packet.text = packet.header ++ packet.body ∧
          packet.header.length ∈ [1, 2, 3, 5, 6] ∧ packet.tag < 64) ∧
      ((frame data).failure = none ↔ rest = []) ∧
      frame (written.flatMap Written.text) = ⟨(frame data).items, none⟩ ∧
      ((∃ texts, (frame data).items.mapM encode? = some texts ∧
          (frame texts.flatten).failure = none ∧
          contents (frame texts.flatten).items = contents (frame data).items) ∨
        (frame data).items.mapM encode? = none ∧
          ∃ packet, written.getLast? = some packet ∧ packet.IsOpen ∧
            2 ^ 32 ≤ packet.body.length) := by
  obtain ⟨written, rest, htiled⟩ := exists_tiled 0 data
  refine ⟨written, rest, ⟨htiled.split, htiled.items, ?_⟩, htiled.ends, ?_, ?_⟩
  · intro packet hpacket
    have hfits := htiled.fits packet hpacket
    exact ⟨hfits, packet.text_eq, packet.length_header, Written.tag_lt hfits⟩
  · rw [frame, frameFrom_texts htiled.fits htiled.closed, frame, htiled.items]
  · by_cases hshort : ∀ packet ∈ (frame data).items, packet.body.length < 2 ^ 32
    · refine .inl ⟨_, by rw [mapM_encode?, if_pos hshort], frame_encoded ?_⟩
      exact fun packet hpacket => ⟨tag_lt_of_mem_frameFrom hpacket, hshort packet hpacket⟩
    · refine .inr ⟨by rw [mapM_encode?, if_neg hshort], ?_⟩
      simp only [not_forall, Nat.not_lt] at hshort
      obtain ⟨packet, hpacket, hlong⟩ := hshort
      exact htiled.exists_open_of_long hpacket hlong

/-- A packet that says no length is framed whatever the length of its body is. -/
theorem frame_open (body : Octets) : frame (0x83 :: body) = ⟨[⟨0, body, 0⟩], none⟩ := by
  have hfits : ∀ packet ∈ [(⟨.old .absent, 0, body⟩ : Written)], packet.Fits := by
    simp [Written.Fits, HeaderForm.Carries, OldForm.Holds]
  have htext : [(⟨.old .absent, 0, body⟩ : Written)].flatMap Written.text = 0x83 :: body := by
    simp only [List.flatMap_cons, List.flatMap_nil, List.append_nil, Written.text]
    rfl
  rw [← htext, frame, frameFrom_texts hfits (List.forall_mem_nil _)]
  rfl

/-- Not all that is framed to its end can be encoded anew: a body of 2 ^ 32 octets has no header
that says its length. -/
theorem not_forall_encoded :
    ¬ ∀ data : Octets, (frame data).failure = none →
      ∃ texts, (frame data).items.mapM encode? = some texts ∧
        (frame texts.flatten).failure = none ∧
        contents (frame texts.flatten).items = contents (frame data).items := by
  intro hencoded
  obtain ⟨body, hlength⟩ : ∃ body : Octets, body.length = 2 ^ 32 :=
    ⟨List.replicate (2 ^ 32) 0, List.length_replicate⟩
  obtain ⟨texts, htexts, -⟩ := hencoded (0x83 :: body) (by rw [frame_open])
  have hlong : ¬ ∀ packet ∈ [(⟨0, body, 0⟩ : Packet)], packet.body.length < 2 ^ 32 := by
    simp [hlength]
  rw [frame_open, mapM_encode?, if_neg hlong] at htexts
  cases htexts

/-- Two packets of either format are framed in front of an octet that starts none. -/
example : frame [0xCC, 0x01, 0x07, 0xBD, 0x00, 0x01, 0x03, 0x11]
    = ⟨[⟨12, [0x07], 0⟩, ⟨15, [0x03], 3⟩], some (.badHeader 0x11 7)⟩ := rfl

end CommitSeal.Packet
