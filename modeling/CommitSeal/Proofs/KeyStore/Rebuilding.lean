import CommitSeal.KeyStore.Unlocking
import CommitSeal.Proofs.AgentKey.Modulus
import CommitSeal.Proofs.KeyStore.Record
import CommitSeal.Proofs.Keybox.Tiling
import CommitSeal.Proofs.Packet.SecretCertificate
import CommitSeal.Proofs.SExpr.Agreement

/-!
# Rebuilding a certificate around its secret key

When a key file that fits a certificate is unprotected, its numbers are put into the certificate,
and the outcome is loaded. Whoever asked for the key is told that it cannot be used if that fails
(`KeyStore.IsDeclared`), and two things make sure that it mostly is so. The secret parameters that a
key file is unprotected to are those that the algorithm of the certificate needs
(`AgentKey.secretValues_of_fits`), so none is missing. And the certificate is one of a keybox, no
longer than a blob, so every packet that is written anew has a header.

But a number has a bit count of two octets, and the numbers of a key file may be longer than that
can say. The fault of such a number is of another kind, and it is the only one
(`KeyStore.rebuild_isDeclared_iff`).
-/

namespace CommitSeal

open Packet (IsNumber)

/-! ## The secret parameters -/

namespace AgentKey

/-- The secret parameters of stored keys are those of OpenPGP keys, in the same order. -/
theorem secretFields_ofKeyFamily (family : KeyFamily) :
    (Family.ofKeyFamily family).secretFields = family.secretFields := by
  cases family <;> rfl

/-- What a key that fits a public key is unprotected to are values for the secret fields of the
public key. -/
theorem secretValues_of_fits {key : AgentKey} {publicKey : PublicKey} {passphrase : Option Octets}
    {context : Context} {secret : List (String × Octets)} (hfits : key.fits publicKey = true)
    (hsecret : key.unprotect passphrase context = .ok secret) :
    publicKey.family.secretFields.map (secretValue? secret) = (secret.map Prod.snd).map some := by
  obtain ⟨family, elements, hfamily, -, hcollect, -⟩ := unprotect_eq_ok hsecret
  obtain rfl : family = Family.ofKeyFamily publicKey.family :=
    Option.some.inj (hfamily.symm.trans (family?_of_fits hfits))
  obtain ⟨values, rfl, -⟩ := collectSecret_eq_ok hcollect
  rw [secretFields_ofKeyFamily, List.map_map, List.map_map]
  exact List.map_congr_left fun field hfield => lookup_map_name values hfield

end AgentKey

namespace KeyStore

/-! ## Certificates of a keybox -/

/-- A record of a keybox has the key in front of its certificate, which is no longer than a blob. -/
theorem certificate_of_mem {tree : FileTree} {path : Path} {records : Listing Fault PublicRecord}
    (hrecords : keybox tree path = .ok records) {record : PublicRecord}
    (hmem : record ∈ records.items) :
    StartsWithKey record.certificate record.key ∧
      record.certificate.length ≤ Keybox.maxBlobLength := by
  obtain ⟨content, -, blob, hblob, hrecord⟩ := exists_blob_of_mem hrecords hmem
  obtain ⟨hstarts, -, hmade⟩ := of_certificateRecord hrecord
  rw [hmade]
  exact ⟨hstarts, Keybox.length_keyblock_le hblob⟩

theorem encode?_of_length_le {packet : Packet}
    (hbody : packet.body.length ≤ Keybox.maxBlobLength) :
    packet.encode? = some packet.encode := by
  have hlimit : Keybox.maxBlobLength < 0x100000000 := by decide
  have hwritable : Packet.isWritable packet.body.length = true :=
    decide_eq_true (Nat.lt_of_le_of_lt hbody hlimit)
  rw [Packet.encode?, if_pos hwritable]

/-- A secret body is shorter than any blob can be. -/
theorem length_secretBody_le {record : PublicRecord}
    (hstarts : StartsWithKey record.certificate record.key) {secret : List (String × Octets)}
    {values : List Octets}
    (hvalues : record.key.family.secretFields.map (secretValue? secret) = values.map some)
    (hnumbers : ∀ value ∈ values, IsNumber value) {body : Octets}
    (hbody : record.key.unprotectedSecretBody secret = .ok body) :
    body.length ≤ Keybox.maxBlobLength := by
  obtain ⟨first, others, rest, -, -, hparse⟩ := hstarts
  obtain ⟨made, hmade, hlength⟩ := PublicKey.exists_unprotectedSecretBody hvalues hnumbers
  obtain rfl : made = body := Except.ok.inj (hmade.symm.trans hbody)
  have hpublic := PublicKey.length_body_lt hparse
  have hcount : values.length ≤ 4 := by
    have hfields : record.key.family.secretFields.length = values.length := by
      simpa using congrArg List.length hvalues
    rw [← hfields]
    cases record.key.family <;> decide
  have htexts := Nat.mul_le_mul_right PublicKey.maxFieldLength hcount
  simp only [PublicKey.maxFieldLength] at hlength htexts
  rw [Keybox.maxBlobLength]
  omega

/-! ## Failures that callers are told of -/

/-- There is a ring, or the key cannot be used. -/
def IsDeclared (answer : Except Fault Transferable.Ring) : Prop :=
  (∃ ring, answer = .ok ring) ∨ ∃ reason, answer = .error (.failed (.undecodable reason))

theorem not_isDeclared_numberTooLong : ¬ IsDeclared (.error .numberTooLong) := by
  rintro (⟨ring, hring⟩ | ⟨reason, hreason⟩)
  · cases hring
  · cases hreason

/-- The certificate that is made of a record and secret parameters, if one is made, is loaded, or it
is a key that cannot be used. -/
def Loadable (record : PublicRecord) (secret : List (String × Octets)) : Prop :=
  ∀ body octets, record.key.unprotectedSecretBody secret = .ok body →
    secretCertificate record.certificate body = .ok octets → IsDeclared (loadRing octets)

/-- A certificate that is not converted makes a key that cannot be used. -/
theorem rebuildFault_of_refuses {certificate : Octets} {e : PacketError}
    (hrefuses : Packet.Refuses (Packet.frame certificate) e) :
    ∃ reason, rebuildFault e = .failed (.undecodable reason) := by
  obtain hframing | rfl | rfl := isFraming_of_refuses hrefuses
  · cases hframing <;> exact ⟨_, rfl⟩
  · exact ⟨_, rfl⟩
  · exact ⟨_, rfl⟩

section Rebuilding

variable {record : PublicRecord} {secret : List (String × Octets)} {values : List Octets}

/-- If a value has too many bits, that is the fault. -/
theorem rebuild_of_not_isNumber
    (hvalues : record.key.family.secretFields.map (secretValue? secret) = values.map some)
    {value : Octets} (hmem : value ∈ values) (hvalue : ¬ IsNumber value) :
    rebuild record record.key secret = .error .numberTooLong := by
  rw [rebuild, PublicKey.unprotectedSecretBody_of_not_isNumber hvalues hmem hvalue]
  rfl

/-- Otherwise there is a secret body, and whether the certificate is converted and loaded or not,
callers are told. -/
theorem isDeclared_rebuild
    (hvalues : record.key.family.secretFields.map (secretValue? secret) = values.map some)
    (hnumbers : ∀ value ∈ values, IsNumber value) (hloadable : Loadable record secret) :
    IsDeclared (rebuild record record.key secret) := by
  obtain ⟨body, hbody, -⟩ := PublicKey.exists_unprotectedSecretBody hvalues hnumbers
  rw [rebuild, hbody]
  obtain ⟨primary, kept, hkeeps⟩ | ⟨e, hrefuses⟩ :=
    keeps_or_refuses (Packet.frame record.certificate)
  · have hconverted : secretCertificate record.certificate body = .ok (converted body kept) :=
      secretCertificate_of_keeps hkeeps
    simp only [hconverted]
    exact hloadable body _ hbody hconverted
  · obtain ⟨reason, hreason⟩ := rebuildFault_of_refuses hrefuses
    simp only [secretCertificate_of_refuses hrefuses, hreason]
    exact .inr ⟨reason, rfl⟩

end Rebuilding

/-- For a certificate of a keybox and a key file that fits and is unprotected, no secret parameter
is missing, and every packet that is written has a header. If what is made can be loaded or refused
as a key that cannot be used, then rebuilding the certificate ends in one of these ways if all
secret parameters are numbers that can be written; and if one has too many bits, it ends with a
fault of another kind. -/
theorem rebuild_isDeclared_iff {tree : FileTree} {path : Path}
    {records : Listing Fault PublicRecord} {record : PublicRecord} {key : AgentKey}
    {passphrase : Option Octets} {context : AgentKey.Context} {secret : List (String × Octets)}
    (hrecords : keybox tree path = .ok records) (hmem : record ∈ records.items)
    (hfits : key.fits record.key = true)
    (hsecret : key.unprotect passphrase context = .ok secret)
    (hloadable : Loadable record secret) :
    (record.findMaterial none = .ok (some record.key) ∧
      unlockFile key record passphrase context = rebuild record record.key secret) ∧
    missingSecretNames record.key.family secret = [] ∧
    (∀ body, record.key.unprotectedSecretBody secret = .ok body →
      ∀ packet ∈ ⟨Packet.secretKeyTag, body, 0⟩ :: (Packet.frame record.certificate).items,
        packet.encode? = some packet.encode) ∧
    (IsDeclared (rebuild record record.key secret) ↔ ∀ entry ∈ secret, IsNumber entry.2) ∧
    ((∃ entry ∈ secret, ¬ IsNumber entry.2) →
      rebuild record record.key secret = .error .numberTooLong) := by
  obtain ⟨hstarts, hlength⟩ := certificate_of_mem hrecords hmem
  have hvalues := AgentKey.secretValues_of_fits hfits hsecret
  have hoverflow : (∃ entry ∈ secret, ¬ IsNumber entry.2) →
      rebuild record record.key secret = .error .numberTooLong := by
    rintro ⟨entry, hentry, hlong⟩
    exact rebuild_of_not_isNumber hvalues (List.mem_map_of_mem hentry) hlong
  have hall : (∀ entry ∈ secret, IsNumber entry.2) →
      ∀ value ∈ secret.map Prod.snd, IsNumber value := List.forall_mem_map.mpr
  refine ⟨⟨hstarts.findMaterial, ?_⟩, missingSecretNames_of_values hvalues, ?_, ?_, hoverflow⟩
  · simp only [unlockFile, hstarts.findMaterial, hsecret]
  · intro body hbody
    have hnumbers : ∀ entry ∈ secret, IsNumber entry.2 := by
      by_contra hlong
      simp only [not_forall] at hlong
      obtain ⟨entry, hentry, hlong⟩ := hlong
      rw [PublicKey.unprotectedSecretBody_of_not_isNumber hvalues (List.mem_map_of_mem hentry)
        hlong] at hbody
      cases hbody
    refine List.forall_mem_cons.mpr ⟨?_, fun packet hpacket => ?_⟩
    · exact encode?_of_length_le (length_secretBody_le hstarts hvalues (hall hnumbers) hbody)
    · exact encode?_of_length_le ((Packet.length_body_le_of_mem_frameFrom hpacket).trans hlength)
  · refine ⟨fun hdeclared entry hentry => ?_, fun hnumbers =>
      isDeclared_rebuild hvalues (hall hnumbers) hloadable⟩
    by_contra hlong
    rw [hoverflow ⟨entry, hentry, hlong⟩] at hdeclared
    exact not_isDeclared_numberTooLong hdeclared

/-! ## The tiny key with one number of any length -/

open AgentKey (entry)
open Resolution (tinyTree tinyPath tinyRecord tinyFingerprint eq_ok_of_toOption
  exists_eq_ok_of_toOption)

/-- The tiny key with a value for its secret exponent. -/
def exponentKey (exponent : Octets) : AgentKey where
  kind := .plain
  algorithm := Octets.ofText "rsa"
  elements := [entry .n [0x0F], entry .e [0x03], entry .d exponent, entry .p [0x03],
    entry .q [0x05], entry .u [0x02]]

/-- What it is unprotected to. -/
def exponentSecret (exponent : Octets) : List (String × Octets) :=
  [("d", exponent), ("p", [0x03]), ("q", [0x05]), ("u", [0x02])]

/-- The file of the key. -/
def exponentFile (exponent : Octets) : Octets :=
  SExpr.canonical (.list [.atom AgentKey.Kind.plain.atom,
    .list (.atom (exponentKey exponent).algorithm :: (exponentKey exponent).elements)])

theorem load_exponentFile {exponent : Octets} (hexponent : exponent.length < SExpr.lengthLimit) :
    AgentKey.load (exponentFile exponent) = .ok (exponentKey exponent) := by
  have hatoms : SExpr.WithinLimit (SExpr.list [.atom AgentKey.Kind.plain.atom,
      .list (.atom (exponentKey exponent).algorithm
        :: (exponentKey exponent).elements)]).atoms := by
    simp only [SExpr.withinLimit_list, SExpr.withinLimit_atom, exponentKey, entry,
      List.forall_mem_cons, List.not_mem_nil, false_imp_iff, implies_true, and_true, hexponent]
    decide
  rw [AgentKey.load, exponentFile, SExpr.parseKeyFile_canonical hatoms]
  rfl

theorem fits_exponentKey (exponent : Octets) :
    (exponentKey exponent).fits (tinyRecord [tinyFingerprint]).key = true := by
  rfl

theorem unprotect_exponentKey (exponent : Octets) :
    (exponentKey exponent).unprotect none {} = .ok (exponentSecret exponent) := by
  rfl

/-- The keybox has the record of the tiny key. -/
theorem exists_tinyRecords :
    ∃ records, keybox (tinyTree [tinyFingerprint]) tinyPath = .ok records ∧
      tinyRecord [tinyFingerprint] ∈ records.items := by
  have hitems : (keybox (tinyTree [tinyFingerprint]) tinyPath).toOption.map Listing.items
      = some [tinyRecord [tinyFingerprint]] := by decide +kernel
  obtain ⟨records, hrecords, hrecord⟩ := Option.map_eq_some_iff.mp hitems
  refine ⟨records, eq_ok_of_toOption hrecords, ?_⟩
  rw [hrecord]
  exact List.mem_singleton_self _

/-- Octets with the highest bit set have all the bits that there is room for. -/
theorem not_isNumber_cons {octet : UInt8} {rest : Octets} (hoctet : 128 ≤ octet.toNat)
    (hlength : Packet.maxNumberBits ≤ 7 + 8 * rest.length) : ¬ IsNumber (octet :: rest) := by
  rw [IsNumber, Octets.toNat_cons, Nat.not_lt]
  calc 2 ^ Packet.maxNumberBits
      ≤ 2 ^ (7 + 8 * rest.length) := Nat.pow_le_pow_right (by decide) hlength
    _ = 128 * 256 ^ rest.length := by rw [Nat.pow_add, Nat.pow_mul]
    _ ≤ octet.toNat * 256 ^ rest.length := Nat.mul_le_mul_right _ hoctet
    _ ≤ octet.toNat * 256 ^ rest.length + Octets.toNat rest := Nat.le_add_right _ _

/-- A number of 65536 bits. -/
def longNumber : Octets := 0x80 :: List.replicate 8191 0

theorem not_isNumber_longNumber : ¬ IsNumber longNumber := by
  apply not_isNumber_cons
  · decide
  · rw [List.length_replicate]
    decide

/-- With a number so long nothing is made. -/
theorem loadable_longNumber :
    Loadable (tinyRecord [tinyFingerprint]) (exponentSecret longNumber) := by
  intro body octets hbody
  have hvalues := AgentKey.secretValues_of_fits (fits_exponentKey longNumber)
    (unprotect_exponentKey longNumber)
  rw [PublicKey.unprotectedSecretBody_of_not_isNumber hvalues List.mem_cons_self
    not_isNumber_longNumber] at hbody
  cases hbody

/-- The certificate is rebuilt around a short exponent, and not around the long number. -/
theorem rebuild_isDeclared_iff_tiny :
    ∃ records, keybox (tinyTree [tinyFingerprint]) tinyPath = .ok records ∧
    tinyRecord [tinyFingerprint] ∈ records.items ∧
    (exponentKey [0x03]).fits (tinyRecord [tinyFingerprint]).key = true ∧
    (exponentKey [0x03]).unprotect none {} = .ok (exponentSecret [0x03]) ∧
    Loadable (tinyRecord [tinyFingerprint]) (exponentSecret [0x03]) ∧
    (∀ entry ∈ exponentSecret [0x03], IsNumber entry.2) ∧
    IsDeclared (unlockFile (exponentKey [0x03]) (tinyRecord [tinyFingerprint]) none {}) ∧
    Loadable (tinyRecord [tinyFingerprint]) (exponentSecret longNumber) ∧
    unlockFile (exponentKey longNumber) (tinyRecord [tinyFingerprint]) none {}
      = .error .numberTooLong := by
  obtain ⟨records, hrecords, hmem⟩ := exists_tinyRecords
  obtain ⟨ring, hring⟩ : ∃ ring, rebuild (tinyRecord [tinyFingerprint])
      (tinyRecord [tinyFingerprint]).key (exponentSecret [0x03]) = .ok ring :=
    exists_eq_ok_of_toOption (by decide +kernel)
  have hloadable : Loadable (tinyRecord [tinyFingerprint]) (exponentSecret [0x03]) := by
    intro body octets hbody hconverted
    rw [rebuild, hbody] at hring
    simp only [hconverted] at hring
    exact .inl ⟨ring, hring⟩
  have hnumbers : ∀ entry ∈ exponentSecret [0x03], IsNumber entry.2 := by
    simp only [exponentSecret, List.forall_mem_cons, List.not_mem_nil, false_imp_iff, implies_true,
      and_true]
    refine ⟨?_, ?_, ?_, ?_⟩ <;> exact Octets.bitLength_le_iff.mp (by decide)
  obtain ⟨⟨-, hshort⟩, -, -, hiff, -⟩ := rebuild_isDeclared_iff hrecords hmem
    (fits_exponentKey [0x03]) (unprotect_exponentKey [0x03]) hloadable
  obtain ⟨⟨-, hlong⟩, -, -, -, hoverflow⟩ := rebuild_isDeclared_iff hrecords hmem
    (fits_exponentKey longNumber) (unprotect_exponentKey longNumber) loadable_longNumber
  refine ⟨records, hrecords, hmem, fits_exponentKey _, unprotect_exponentKey _, hloadable, hnumbers,
    ?_, loadable_longNumber, ?_⟩
  · rw [hshort]
    exact hiff.mpr hnumbers
  · rw [hlong]
    exact hoverflow ⟨_, List.mem_cons_self, not_isNumber_longNumber⟩

/-- Not every key that can be loaded, fits a certificate of a keybox and is unprotected is put into
the certificate or refused as one that cannot be used. -/
theorem not_forall_rebuild_isDeclared :
    ¬ ∀ (tree : FileTree) (path : Path) (records : Listing Fault PublicRecord)
        (record : PublicRecord) (file : Octets) (key : AgentKey) (passphrase : Option Octets)
        (context : AgentKey.Context) (secret : List (String × Octets)),
      keybox tree path = .ok records → record ∈ records.items → AgentKey.load file = .ok key →
        key.fits record.key = true → key.unprotect passphrase context = .ok secret →
        Loadable record secret → IsDeclared (unlockFile key record passphrase context) := by
  intro hall
  obtain ⟨records, hrecords, hmem⟩ := exists_tinyRecords
  have hlimit : longNumber.length < SExpr.lengthLimit := by
    rw [longNumber, List.length_cons, List.length_replicate]
    decide
  have hdeclared := hall _ _ _ _ _ _ _ _ _ hrecords hmem (load_exponentFile hlimit)
    (fits_exponentKey longNumber) (unprotect_exponentKey longNumber) loadable_longNumber
  have hvalues := AgentKey.secretValues_of_fits (fits_exponentKey longNumber)
    (unprotect_exponentKey longNumber)
  have hunlock : unlockFile (exponentKey longNumber) (tinyRecord [tinyFingerprint]) none {}
      = .error .numberTooLong := by
    simp only [unlockFile, (certificate_of_mem hrecords hmem).1.findMaterial,
      unprotect_exponentKey longNumber]
    exact rebuild_of_not_isNumber hvalues List.mem_cons_self not_isNumber_longNumber
  rw [hunlock] at hdeclared
  exact not_isDeclared_numberTooLong hdeclared

end KeyStore

end CommitSeal
