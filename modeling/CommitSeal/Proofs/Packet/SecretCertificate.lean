import CommitSeal.Proofs.Listing
import CommitSeal.Proofs.Packet.Framing
import CommitSeal.Proofs.Packet.SecretBody

/-!
# Certificates with their primary key replaced

A certificate is converted by putting a secret body in the place of its primary key. What is kept
are the packets up to the next primary key or subkey, less the trust packets, and what is behind
those may be anything, since the certificate is read no further (`secretCertificate_replaces`).
There are no more than three reasons for a conversion to fail (`Packet.Refuses`): the packets cannot
be framed as far as they are needed, something else is in front of the primary key, or there is
none.
-/

namespace CommitSeal

namespace Packet

/-! ## How a certificate is divided -/

/-- A packet with which the packets to keep end: a further primary key, or a subkey. -/
def Stops (packet : Packet) : Prop := packet.tag = publicKeyTag ∨ packet.tag = publicSubkeyTag

instance : DecidablePred Stops := fun packet =>
  inferInstanceAs (Decidable (packet.tag = publicKeyTag ∨ packet.tag = publicSubkeyTag))

/-- The packets that are not of trust. -/
def untrusted (packets : List Packet) : List Packet :=
  packets.filter fun packet => packet.tag ≠ trustTag

/-- Packets that are read behind those to keep: none if the end of the data is reached, or else one
that stops and whatever else. -/
def Closes (failure : Option PacketError) : List Packet → Prop
  | [] => failure = none
  | packet :: _ => packet.Stops

/-- The packets to keep are those behind the primary key, in front of which there are but trust
packets. -/
structure Keeps (packets : Listing PacketError Packet) (primary : Packet) (kept : List Packet) :
    Prop where
  items : ∃ trusts behind, packets.items = trusts ++ primary :: (kept ++ behind) ∧
    (∀ packet ∈ trusts, packet.tag = trustTag) ∧ Closes packets.failure behind
  primary : primary.tag = publicKeyTag
  kept : ∀ packet ∈ kept, ¬ packet.Stops

/-- Why a certificate is not converted. -/
inductive Refuses (packets : Listing PacketError Packet) : PacketError → Prop where
  /-- The packets break off in front of the primary key. -/
  | brokenBefore {e : PacketError} (htrusts : ∀ packet ∈ packets.items, packet.tag = trustTag)
      (hfailure : packets.failure = some e) : Refuses packets e
  /-- The packets break off behind the primary key, in front of one that stops. -/
  | brokenBehind {e : PacketError} {trusts kept : List Packet} {primary : Packet}
      (hitems : packets.items = trusts ++ primary :: kept)
      (htrusts : ∀ packet ∈ trusts, packet.tag = trustTag)
      (hprimary : primary.tag = publicKeyTag) (hkept : ∀ packet ∈ kept, ¬ packet.Stops)
      (hfailure : packets.failure = some e) : Refuses packets e
  /-- The first packet that is not of trust is no primary key. -/
  | notFirst {trusts behind : List Packet} {first : Packet}
      (hitems : packets.items = trusts ++ first :: behind)
      (htrusts : ∀ packet ∈ trusts, packet.tag = trustTag) (htrust : first.tag ≠ trustTag)
      (hfirst : first.tag ≠ publicKeyTag) : Refuses packets .primaryNotFirst
  /-- There are but trust packets. -/
  | none (htrusts : ∀ packet ∈ packets.items, packet.tag = trustTag)
      (hfailure : packets.failure = .none) : Refuses packets .noPrimary

end Packet

open Packet

/-! ## What becomes of the packets -/

variable {secretBody : Octets} {failure : Option PacketError}

/-- Trust packets are passed over. -/
theorem replacePrimary_trusts {trusts : List Packet}
    (htrusts : ∀ packet ∈ trusts, packet.tag = trustTag) (seenPrimary : Bool)
    (rest : List Packet) :
    replacePrimary secretBody seenPrimary failure (trusts ++ rest)
      = replacePrimary secretBody seenPrimary failure rest := by
  induction trusts with
  | nil => rfl
  | cons packet trusts ih =>
    obtain ⟨hpacket, hothers⟩ := List.forall_mem_cons.mp htrusts
    rw [List.cons_append, replacePrimary, if_pos hpacket, ih hothers]

/-- The secret body takes the place of the primary key. -/
theorem replacePrimary_primary {primary : Packet} (hprimary : primary.tag = publicKeyTag)
    (rest : List Packet) :
    replacePrimary secretBody false failure (primary :: rest)
      = (replacePrimary secretBody true failure rest).map
          (encodeBody secretKeyTag secretBody ++ ·) := by
  have htrust : primary.tag ≠ trustTag := by
    rw [hprimary]
    decide
  rw [replacePrimary, if_neg htrust, if_pos hprimary]
  cases replacePrimary secretBody true failure rest <;> rfl

/-- Packets behind the primary key that do not stop are encoded anew, those of trust left out. -/
theorem replacePrimary_kept {kept : List Packet} (hkept : ∀ packet ∈ kept, ¬ packet.Stops)
    (rest : List Packet) :
    replacePrimary secretBody true failure (kept ++ rest)
      = (replacePrimary secretBody true failure rest).map
          ((untrusted kept).flatMap encode ++ ·) := by
  induction kept with
  | nil =>
    cases hrest : replacePrimary secretBody true failure rest <;>
      simp [hrest, untrusted, Except.map]
  | cons packet kept ih =>
    obtain ⟨hpacket, hothers⟩ := List.forall_mem_cons.mp hkept
    obtain ⟨hprimary, hsubkey⟩ := not_or.mp hpacket
    rw [List.cons_append, replacePrimary, ih hothers]
    by_cases htrust : packet.tag = trustTag
    · simp [untrusted, htrust]
    · rw [if_neg htrust, if_neg hprimary, if_neg (by decide), if_neg hsubkey]
      cases replacePrimary secretBody true failure rest with
      | error e => rfl
      | ok text => simp [untrusted, htrust, Except.map]

/-- Nothing is made of the packets behind those to keep. -/
theorem replacePrimary_closes {behind : List Packet} (hbehind : Closes failure behind) :
    replacePrimary secretBody true failure behind = .ok [] := by
  cases behind with
  | nil =>
    obtain rfl : failure = none := hbehind
    rfl
  | cons packet behind =>
    obtain hprimary | hsubkey : packet.Stops := hbehind
    · rw [replacePrimary, if_neg (by rw [hprimary]; decide), if_pos hprimary]
      rfl
    · rw [replacePrimary, if_neg (by rw [hsubkey]; decide), if_neg (by rw [hsubkey]; decide),
        if_neg (by decide), if_pos hsubkey]

/-! ## Certificates -/

/-- The certificate that is made of a secret body and the packets to keep. -/
def converted (secretBody : Octets) (kept : List Packet) : Octets :=
  encodeBody secretKeyTag secretBody ++ (untrusted kept).flatMap encode

theorem secretCertificate_of_keeps {certificate : Octets} {primary : Packet} {kept : List Packet}
    (hkeeps : Keeps (frame certificate) primary kept) :
    secretCertificate certificate secretBody = .ok (converted secretBody kept) := by
  obtain ⟨trusts, behind, hitems, htrusts, hbehind⟩ := hkeeps.items
  rw [secretCertificate, hitems, replacePrimary_trusts htrusts,
    replacePrimary_primary hkeeps.primary, replacePrimary_kept hkeeps.kept,
    replacePrimary_closes hbehind]
  simp [converted, Except.map]

theorem secretCertificate_of_refuses {certificate : Octets} {e : PacketError}
    (hrefuses : Refuses (frame certificate) e) :
    secretCertificate certificate secretBody = .error e := by
  show replacePrimary secretBody false (frame certificate).failure (frame certificate).items = _
  cases hrefuses with
  | brokenBefore htrusts hfailure =>
    rw [hfailure, ← List.append_nil (frame certificate).items, replacePrimary_trusts htrusts]
    rfl
  | @brokenBehind _ _ kept _ hitems htrusts hprimary hkept hfailure =>
    rw [hitems, hfailure, replacePrimary_trusts htrusts, replacePrimary_primary hprimary,
      ← List.append_nil kept, replacePrimary_kept hkept]
    rfl
  | notFirst hitems htrusts htrust hfirst =>
    rw [hitems, replacePrimary_trusts htrusts, replacePrimary, if_neg htrust, if_neg hfirst]
    rfl
  | none htrusts hfailure =>
    rw [hfailure, ← List.append_nil (frame certificate).items, replacePrimary_trusts htrusts]
    rfl

/-- Any packets are divided, or there is a reason not to. -/
theorem keeps_or_refuses (packets : Listing PacketError Packet) :
    (∃ primary kept, Keeps packets primary kept) ∨ ∃ e, Refuses packets e := by
  cases hfirst : packets.items.find? fun packet => packet.tag ≠ trustTag with
  | none =>
    have htrusts : ∀ packet ∈ packets.items, packet.tag = trustTag := by
      simpa using List.find?_eq_none.mp hfirst
    cases hfailure : packets.failure with
    | none => exact .inr ⟨_, .none htrusts hfailure⟩
    | some e => exact .inr ⟨e, .brokenBefore htrusts hfailure⟩
  | some first =>
    obtain ⟨htrust, trusts, behind, hitems, hfront⟩ := List.find?_eq_some_iff_append.mp hfirst
    have htrusts : ∀ packet ∈ trusts, packet.tag = trustTag := by simpa using hfront
    by_cases hprimary : first.tag = publicKeyTag
    · cases hstop : behind.find? fun packet => packet.Stops with
      | none =>
        have hkept : ∀ packet ∈ behind, ¬ packet.Stops := by
          simpa using List.find?_eq_none.mp hstop
        cases hfailure : packets.failure with
        | none =>
          refine .inl ⟨first, behind, ⟨trusts, [], ?_, htrusts, hfailure⟩, hprimary, hkept⟩
          rw [List.append_nil, hitems]
        | some e => exact .inr ⟨e, .brokenBehind hitems htrusts hprimary hkept hfailure⟩
      | some stop =>
        obtain ⟨htest, kept, more, rfl, hfront⟩ := List.find?_eq_some_iff_append.mp hstop
        have hstops : stop.Stops := of_decide_eq_true htest
        have hkept : ∀ packet ∈ kept, ¬ packet.Stops := by simpa using hfront
        exact .inl ⟨first, kept, ⟨trusts, stop :: more, hitems, htrusts, hstops⟩, hprimary, hkept⟩
    · exact .inr ⟨_, .notFirst hitems htrusts (by simpa using htrust) hprimary⟩

/-- A conversion is refused for what is wrong with the frames of packets or with their order. -/
theorem isFraming_of_refuses {certificate : Octets} {e : PacketError}
    (hrefuses : Refuses (frame certificate) e) :
    IsFraming e ∨ e = .primaryNotFirst ∨ e = .noPrimary := by
  cases hrefuses with
  | brokenBefore _ hfailure => exact .inl (isFraming_of_failure hfailure)
  | brokenBehind _ _ _ _ hfailure => exact .inl (isFraming_of_failure hfailure)
  | notFirst => exact .inr (.inl rfl)
  | none => exact .inr (.inr rfl)

/-- The packets of the certificate that is made. -/
theorem frame_converted {kept : List Packet} (hsecret : secretBody.length < 2 ^ 32)
    (htags : ∀ packet ∈ kept, packet.tag < 64)
    (hbodies : ∀ packet ∈ kept, packet.body.length < 2 ^ 32) :
    frame (converted secretBody kept)
      = ⟨placedFrom 0 (.shortest secretKeyTag secretBody ::
          (untrusted kept).map fun packet => .shortest packet.tag packet.body), none⟩ := by
  have htext : converted secretBody kept
      = (Written.shortest secretKeyTag secretBody ::
          (untrusted kept).map fun packet => .shortest packet.tag packet.body).flatMap
        Written.text := by
    simp only [converted, List.flatMap_cons, List.flatMap_map, Written.text_shortest]
    rfl
  rw [htext]
  refine frameFrom_texts ?_ ?_ 0
  · intro written hwritten
    rcases List.mem_cons.mp hwritten with rfl | hkept
    · exact Written.fits_shortest (by decide) hsecret
    · obtain ⟨packet, hpacket, rfl⟩ := List.mem_map.mp hkept
      have hmem : packet ∈ kept := (List.mem_filter.mp hpacket).1
      exact Written.fits_shortest (htags packet hmem) (hbodies packet hmem)
  · intro written hwritten
    rcases List.mem_cons.mp ((List.dropLast_sublist _).subset hwritten) with rfl | hkept
    · exact nofun
    · obtain ⟨packet, -, rfl⟩ := List.mem_map.mp hkept
      exact nofun

/-- A certificate is converted if its packets can be framed up to the first one behind the primary
key that stops, or up to the end if none does, and if there are but trust packets in front of the
primary key. The result has the secret body, and then the packets to keep, less those of trust, with
the tags and bodies that they had; it does not depend on what is behind the packet that stops, which
need not even be framed. If the secret body was made for the key that is replaced, then that key is
the first one to be read from the result.

In all other cases there is a reason for the conversion to fail, and it fails for that reason. -/
theorem secretCertificate_replaces (certificate secretBody : Octets) :
    (∀ primary kept, Keeps (frame certificate) primary kept →
      secretBody.length < 2 ^ 32 → (∀ packet ∈ kept, packet.body.length < 2 ^ 32) →
      secretCertificate certificate secretBody = .ok (converted secretBody kept) ∧
      (frame (converted secretBody kept)).failure = none ∧
      (frame (converted secretBody kept)).items.map (fun packet => (packet.tag, packet.body))
        = (secretKeyTag, secretBody)
          :: (untrusted kept).map (fun packet => (packet.tag, packet.body)) ∧
      ∀ key rest secret, PublicKey.parse primary.body = .ok (key, rest) →
        key.unprotectedSecretBody secret = .ok secretBody →
        (PublicKey.listing (converted secretBody kept)).head? = .ok (some key)) ∧
    (∀ e, Refuses (frame certificate) e → secretCertificate certificate secretBody = .error e) ∧
    ((∃ primary kept, Keeps (frame certificate) primary kept) ∨
      ∃ e, Refuses (frame certificate) e) := by
  refine ⟨?_, fun e => secretCertificate_of_refuses, keeps_or_refuses _⟩
  intro primary kept hkeeps hsecret hbodies
  have htags : ∀ packet ∈ kept, packet.tag < 64 := by
    intro packet hpacket
    obtain ⟨trusts, behind, hitems, -⟩ := hkeeps.items
    have hmem : packet ∈ (frame certificate).items := by
      rw [hitems]
      simp [hpacket]
    exact tag_lt_of_mem_frameFrom hmem
  have hframe := frame_converted hsecret htags hbodies
  refine ⟨secretCertificate_of_keeps hkeeps, by rw [hframe], ?_, ?_⟩
  · rw [hframe, map_placedFrom, List.map_cons, List.map_map]
    rfl
  · intro key rest secret hparse hsecretBody
    obtain ⟨part, rfl⟩ := PublicKey.exists_secretPart hsecretBody
    obtain ⟨packets, hitems⟩ : ∃ packets, (frame (converted (key.body ++ part) kept)).items
        = ⟨secretKeyTag, key.body ++ part, 0⟩ :: packets := ⟨_, by rw [hframe]; rfl⟩
    obtain ⟨others, hlisting⟩ :=
      PublicKey.listing_of_items hitems rfl ((PublicKey.takes_body hparse).2.1 part)
    rw [hlisting]
    exact Listing.head?_of_cons rfl

/-! ## A certificate with something of everything -/

/-- A trust packet, a key, a user ID, another trust packet, a signature, a subkey, and an octet that
starts no packet. -/
def mixedCertificate : Octets :=
  [0xB0, 0x01, 0x00, 0x98, 0x0C] ++ PublicKey.fourNumbersPublic
    ++ [0xB4, 0x01, 0x41, 0xB0, 0x01, 0x06, 0xC2, 0x01, 0x09, 0xCE, 0x01, 0x00, 0x00]

/-- The key packet. -/
def mixedPrimary : Packet := ⟨publicKeyTag, PublicKey.fourNumbersPublic, 3⟩

/-- The packets to keep. -/
def mixedKept : List Packet :=
  [⟨userIdTag, [0x41], 17⟩, ⟨trustTag, [0x06], 20⟩, ⟨signatureTag, [0x09], 23⟩]

/-- A secret body of the key. -/
def mixedSecretBody : Octets :=
  PublicKey.fourNumbersPublic
    ++ [0x00, 0x00, 0x02, 0x03, 0x00, 0x02, 0x03, 0x00, 0x03, 0x05, 0x00, 0x00, 0x00, 0x12]

/-- The user ID and the signature are kept with the secret key, and the key is found again. The last
octet alone is refused. -/
theorem secretCertificate_replaces_mixed :
    (Keeps (frame mixedCertificate) mixedPrimary mixedKept ∧
      ∃ key, PublicKey.parse mixedPrimary.body = .ok (key, []) ∧
      key.unprotectedSecretBody PublicKey.fourNumbers = .ok mixedSecretBody ∧
      ∃ result, secretCertificate mixedCertificate mixedSecretBody = .ok result ∧
        (frame result).items.map (fun packet => (packet.tag, packet.body))
          = [(secretKeyTag, mixedSecretBody), (userIdTag, [0x41]), (signatureTag, [0x09])] ∧
        (PublicKey.listing result).head? = .ok (some key)) ∧
    (Refuses (frame [0x00]) (.badHeader 0x00 0) ∧
      secretCertificate [0x00] mixedSecretBody = .error (.badHeader 0x00 0)) := by
  have hkeeps : Keeps (frame mixedCertificate) mixedPrimary mixedKept := by
    refine ⟨⟨[⟨trustTag, [0x00], 0⟩], [⟨publicSubkeyTag, [0x00], 26⟩], rfl, ?_, .inr rfl⟩, rfl, ?_⟩
    · simp
    · simp only [mixedKept, List.forall_mem_cons, List.not_mem_nil, false_imp_iff, implies_true,
        and_true]
      decide
  have hsecret : mixedSecretBody.length < 2 ^ 32 := by decide
  have hbodies : ∀ packet ∈ mixedKept, packet.body.length < 2 ^ 32 := by simp [mixedKept]
  obtain ⟨key, hparse, hbody⟩ : ∃ key, PublicKey.parse mixedPrimary.body = .ok (key, []) ∧
      key.unprotectedSecretBody PublicKey.fourNumbers = .ok mixedSecretBody := ⟨_, rfl, rfl⟩
  have hrefuses : Refuses (frame [0x00]) (.badHeader 0x00 0) := .brokenBefore nofun rfl
  obtain ⟨hresult, -, hitems, hkey⟩ := (secretCertificate_replaces mixedCertificate
    mixedSecretBody).1 mixedPrimary mixedKept hkeeps hsecret hbodies
  exact ⟨⟨hkeeps, key, hparse, hbody, _, hresult, hitems, hkey key [] _ hparse hbody⟩, hrefuses,
    (secretCertificate_replaces [0x00] mixedSecretBody).2.1 _ hrefuses⟩

end CommitSeal
