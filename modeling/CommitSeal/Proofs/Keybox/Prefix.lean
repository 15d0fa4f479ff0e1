import CommitSeal.Proofs.Keybox.Tiling

/-!
# A keybox is read no further than needed

What a blob comes to is settled when its last octet is read (`Keybox.blobsFrom_blob_cases`). So
certificates that are read from a keybox are read as well from any other that is the same up to the
end of the last of their blobs, whatever is behind it (`Keybox.exists_taken`).
-/

namespace CommitSeal.Keybox

/-- A complete blob ends the reading, adds nothing or adds its certificate, and what is behind it
has no part in that. -/
theorem blobsFrom_blob_cases (first : Bool) (offset : Nat) {tile : Octets} (htile : IsBlob tile) :
    (∃ e, ∀ rest, blobsFrom first offset 0 (tile ++ rest) = .fail e) ∨
    (∀ rest, blobsFrom first offset 0 (tile ++ rest)
      = blobsFrom false (offset + tile.length) 0 rest) ∨
    ∃ certificate, readCertificate offset tile = .ok certificate ∧
      ∀ rest, blobsFrom first offset 0 (tile ++ rest)
        = .cons certificate (blobsFrom false (offset + tile.length) 0 rest) := by
  have hblob := blobsFrom_blob first offset htile
  cases first with
  | true =>
    simp only [if_true] at hblob
    by_cases hheader : tile.getD 4 0 = headerType ∧ slice tile 8 4 = magic
    · simp only [if_pos hheader] at hblob
      exact .inr (.inl hblob)
    · simp only [if_neg hheader] at hblob
      exact .inl ⟨_, hblob⟩
  | false =>
    simp only [Bool.false_eq_true, if_false] at hblob
    by_cases htype : tile.getD 4 0 = certificateType
    · simp only [if_pos htype] at hblob
      cases hread : readCertificate offset tile with
      | error e =>
        simp only [hread] at hblob
        exact .inl ⟨e, hblob⟩
      | ok certificate =>
        simp only [hread] at hblob
        exact .inr (.inr ⟨certificate, rfl, hblob⟩)
    · simp only [if_neg htype] at hblob
      by_cases hheader : tile.getD 4 0 = headerType
      · simp only [if_pos hheader] at hblob
        exact .inl ⟨_, hblob⟩
      · simp only [if_neg hheader] at hblob
        exact .inr (.inl hblob)

/-- The blobs up to one with a certificate: `before` is in front of it and `tile` is the blob. What
is read from them is read with anything behind them. -/
structure TakenFrom (first : Bool) (offset : Nat) (front : List Blob) (certificate : Blob)
    (before tile : Octets) : Prop where
  complete : IsBlob tile
  last : readCertificate (offset + before.length) tile = .ok certificate
  items : ∀ rest, front ++ [certificate]
    <+: (blobsFrom first offset 0 (before ++ (tile ++ rest))).items

/-- A blob in front belongs to what is taken, with the certificate that it adds, if it adds one. -/
theorem TakenFrom.cons {first : Bool} {offset : Nat} {front : List Blob} {certificate : Blob}
    {tile before later : Octets} (added : List Blob)
    (htaken : TakenFrom false (offset + tile.length) front certificate before later)
    (hadded : ∀ rest, (blobsFrom first offset 0 (tile ++ rest)).items
      = added ++ (blobsFrom false (offset + tile.length) 0 rest).items) :
    TakenFrom first offset (added ++ front) certificate (tile ++ before) later := by
  refine ⟨htaken.complete, ?_, ?_⟩
  · rw [List.length_append, ← Nat.add_assoc]
    exact htaken.last
  · intro rest
    rw [List.append_assoc, List.append_assoc, hadded, List.prefix_append_right_inj]
    exact htaken.items rest

/-- Of the octets of a keybox those up to the end of a blob settle which certificates are read up to
that of the blob. -/
theorem exists_taken {first : Bool} {offset : Nat} {data : Octets} {front behind : List Blob}
    {certificate : Blob}
    (hitems : (blobsFrom first offset 0 data).items = front ++ certificate :: behind) :
    ∃ before tile rest, data = before ++ (tile ++ rest) ∧
      TakenFrom first offset front certificate before tile := by
  -- Each blob is taken from the front, so that there are fewer octets behind it.
  induction hlength : data.length using Nat.strong_induction_on
    generalizing first offset data front with
  | _ length ih =>
    have hne : front ++ certificate :: behind ≠ [] := by simp
    have hdata : data ≠ [] := by
      rintro rfl
      cases first <;> exact hne hitems.symm
    obtain ⟨tile, rest, rfl, htile⟩ | ⟨e, -, hfail⟩ := exists_blob_or_fail first offset hdata
    · have hmin := htile.length.1
      have hshorter : rest.length < length := by
        rw [← hlength, List.length_append]
        omega
      rcases blobsFrom_blob_cases first offset htile with
        ⟨e, hfail⟩ | hskip | ⟨found, hfound, hcons⟩
      · rw [hfail] at hitems
        exact absurd hitems.symm hne
      · rw [hskip] at hitems
        obtain ⟨before, later, rest, rfl, htaken⟩ := ih _ hshorter hitems rfl
        refine ⟨tile ++ before, later, rest, (List.append_assoc ..).symm, ?_⟩
        exact htaken.cons [] fun more => by rw [hskip, List.nil_append]
      · rw [hcons] at hitems
        cases front with
        | nil =>
          obtain ⟨rfl, -⟩ := List.cons.inj hitems
          refine ⟨[], tile, rest, rfl, htile, hfound, ?_⟩
          intro more
          simp only [List.nil_append, hcons]
          exact List.prefix_append [found] _
        | cons earlier front =>
          obtain ⟨rfl, hlater⟩ := List.cons.inj hitems
          obtain ⟨before, later, rest, rfl, htaken⟩ := ih _ hshorter hlater rfl
          refine ⟨tile ++ before, later, rest, (List.append_assoc ..).symm, ?_⟩
          exact htaken.cons [found] fun more => by rw [hcons]; rfl
    · rw [hfail] at hitems
      exact absurd hitems.symm hne

end CommitSeal.Keybox
