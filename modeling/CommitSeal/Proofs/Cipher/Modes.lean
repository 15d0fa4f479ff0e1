import CommitSeal.Cipher.Chaining
import CommitSeal.Cipher.Ocb
import CommitSeal.Proofs.Cipher.Aes

/-!
# Decryption undoes encryption: modes of operation

Both modes cut octets into blocks and treat one block after the other, with a mask that both sides
compute in the same way. With chaining a whole number of blocks comes back
(`cbcDecrypt_cbcEncrypt`). With OCB any octets come back, and the tag, which is computed from the
last offset and the sum of the plaintext, fits (`Ocb.decrypt?_encrypt`).
-/

namespace CommitSeal.Cipher

/-! ## Cutting into blocks -/

namespace Block

theorem length_octets (block : Block) : block.octets.length = 16 := rfl

@[simp]
theorem join_nil : join [] = [] := rfl

@[simp]
theorem join_cons (block : Block) (blocks : List Block) :
    join (block :: blocks) = block.octets ++ join blocks := rfl

theorem length_join (blocks : List Block) : (join blocks).length = 16 * blocks.length := by
  induction blocks with
  | nil => rfl
  | cons block blocks ih =>
    rw [join_cons, List.length_append, length_octets, ih, List.length_cons]
    omega

/-- Fewer octets than a block's are left over. -/
theorem split_of_lt {left : Octets} (hleft : left.length < 16) : split left = ([], left) := by
  unfold split
  split
  · simp only [List.length_cons] at hleft
    omega
  · rfl

/-- Blocks are cut out of what they were joined to. -/
theorem split_join (blocks : List Block) {left : Octets} (hleft : left.length < 16) :
    split (join blocks ++ left) = (blocks, left) := by
  induction blocks with
  | nil => exact split_of_lt hleft
  | cons block blocks ih =>
    rw [join_cons, List.append_assoc]
    show ((block :: (split (join blocks ++ left)).1), (split (join blocks ++ left)).2)
      = (block :: blocks, left)
    rw [ih]

theorem octets_ofOctets {octets : Octets} (hlength : octets.length = 16) :
    (ofOctets octets).octets = octets := by
  match octets, hlength with
  | [_, _, _, _, _, _, _, _, _, _, _, _, _, _, _, _], _ => rfl

/-- Octets are blocks, and less than a block left over. -/
theorem exists_blocks (octets : Octets) :
    ∃ blocks left, octets = join blocks ++ left ∧ left.length < 16 := by
  induction hlength : octets.length using Nat.strongRecOn generalizing octets with
  | ind length ih =>
    by_cases hshort : octets.length < 16
    · exact ⟨[], octets, rfl, hshort⟩
    · obtain ⟨blocks, left, hdrop, hleft⟩ := ih (length - 16) (by omega) (octets.drop 16)
        (by rw [List.length_drop, hlength])
      have htake : (ofOctets (octets.take 16)).octets = octets.take 16 :=
        octets_ofOctets (by rw [List.length_take]; omega)
      refine ⟨ofOctets (octets.take 16) :: blocks, left, ?_, hleft⟩
      calc octets = octets.take 16 ++ octets.drop 16 := (List.take_append_drop 16 octets).symm
        _ = (ofOctets (octets.take 16)).octets ++ (join blocks ++ left) := by rw [htake, hdrop]
        _ = join (ofOctets (octets.take 16) :: blocks) ++ left := (List.append_assoc _ _ _).symm

/-- Nothing is left over of a whole number of blocks. -/
theorem exists_blocks_of_mod {octets : Octets} (hlength : octets.length % 16 = 0) :
    ∃ blocks, octets = join blocks := by
  obtain ⟨blocks, left, rfl, hleft⟩ := exists_blocks octets
  rw [List.length_append, length_join] at hlength
  obtain rfl : left = [] := List.length_eq_zero_iff.mp (by omega)
  exact ⟨blocks, List.append_nil _⟩

/-- Whole blocks are cut with nothing left over. -/
theorem split_join_nil (blocks : List Block) : split (join blocks) = (blocks, []) := by
  have hsplit := split_join blocks (show ([] : Octets).length < 16 by decide)
  rwa [List.append_nil] at hsplit

end Block

/-! ## Chaining -/

section Chaining

variable (keys : List Block)

/-- Each block comes back, since both sides know the ciphertext block before it. -/
theorem chainDecrypt_chainEncrypt (blocks : List Block) :
    ∀ before, chainDecrypt keys before (chainEncrypt keys before blocks) = blocks := by
  induction blocks with
  | nil =>
    intro before
    rfl
  | cons plain blocks ih =>
    intro before
    rw [chainEncrypt, chainDecrypt, Aes.decrypt_encrypt, Block.xor_cancel_right, ih]

theorem length_chainEncrypt (blocks : List Block) :
    ∀ before, (chainEncrypt keys before blocks).length = blocks.length := by
  induction blocks with
  | nil =>
    intro before
    rfl
  | cons plain blocks ih =>
    intro before
    rw [chainEncrypt, List.length_cons, ih, List.length_cons]

end Chaining

section Cbc

variable (key initial : Octets) {plain : Octets}

/-- A whole number of blocks comes back from chaining. -/
theorem cbcDecrypt_cbcEncrypt (hplain : plain.length % 16 = 0) :
    cbcDecrypt key initial (cbcEncrypt key initial plain) = plain := by
  obtain ⟨blocks, rfl⟩ := Block.exists_blocks_of_mod hplain
  rw [cbcEncrypt, cbcDecrypt, Block.split_join_nil, Block.split_join_nil,
    chainDecrypt_chainEncrypt]

theorem length_cbcEncrypt (hplain : plain.length % 16 = 0) :
    (cbcEncrypt key initial plain).length = plain.length := by
  obtain ⟨blocks, rfl⟩ := Block.exists_blocks_of_mod hplain
  rw [cbcEncrypt, Block.split_join_nil, Block.length_join, length_chainEncrypt, Block.length_join]

end Cbc

/-! ## OCB -/

namespace Ocb

/-- A mask that is added twice to octets no longer than it is gone. -/
theorem xor_xor_cancel {octets mask : Octets} (hlength : octets.length ≤ mask.length) :
    Octets.xor (Octets.xor octets mask) mask = octets := by
  induction octets generalizing mask with
  | nil => rfl
  | cons octet octets ih =>
    cases mask with
    | nil => simp at hlength
    | cons first mask =>
      have hrest := ih (Nat.le_of_succ_le_succ hlength)
      unfold Octets.xor at hrest ⊢
      rw [List.zipWith_cons_cons, List.zipWith_cons_cons, hrest, Cipher.xor_cancel_right]

theorem length_xor {octets mask : Octets} (hlength : octets.length ≤ mask.length) :
    (Octets.xor octets mask).length = octets.length := by
  rw [Octets.xor, List.length_zipWith, Nat.min_eq_left hlength]

/-- A block that is masked before and behind the cipher comes back through the same masks. -/
theorem xor_decrypt_xor (keys : List Block) (mask plain : Block) :
    mask.xor (Aes.decrypt keys ((mask.xor (Aes.encrypt keys (plain.xor mask))).xor mask))
      = plain := by
  rw [Block.xor_comm mask (Aes.encrypt keys _), Block.xor_cancel_right, Aes.decrypt_encrypt,
    Block.xor_comm plain, Block.xor_xor_cancel]

/-- The ciphertext of blocks and of what is left over is as long, and is decrypted to them with the
same last offset and the same sum. -/
theorem decryptBlocks_encryptBlocks (keys : List Block) (blocks : List Block) {left : Octets}
    (hleft : left.length < 16) :
    ∀ place offset sum, ∃ ciphers masked last total,
      encryptBlocks keys place offset sum blocks left
        = (Block.join ciphers ++ masked, last, total) ∧
      ciphers.length = blocks.length ∧ masked.length = left.length ∧
      decryptBlocks keys place offset sum ciphers masked
        = (Block.join blocks ++ left, last, total) := by
  induction blocks with
  | nil =>
    intro place offset sum
    cases left with
    | nil => exact ⟨[], [], offset, sum, rfl, rfl, rfl, rfl⟩
    | cons octet left =>
      have hmask : (octet :: left).length
          ≤ (Aes.encrypt keys (offset.xor (partialStep keys))).octets.length := by
        rw [Block.length_octets]
        omega
      refine ⟨[], Octets.xor (octet :: left)
        (Aes.encrypt keys (offset.xor (partialStep keys))).octets, offset.xor (partialStep keys),
        sum.xor (pad (octet :: left)), rfl, rfl, length_xor hmask, ?_⟩
      have hmasked : (Octets.xor (octet :: left)
          (Aes.encrypt keys (offset.xor (partialStep keys))).octets).isEmpty = false := rfl
      rw [decryptBlocks, hmasked]
      simp only [xor_xor_cancel hmask, Bool.false_eq_true, if_false, Block.join_nil,
        List.nil_append]
  | cons plain blocks ih =>
    intro place offset sum
    -- Both sides add the step of the same place to the offset, and the same block to the sum.
    obtain ⟨ciphers, masked, last, total, hencrypt, hciphers, hmasked, hdecrypt⟩ :=
      ih (place + 1) (offset.xor (step keys place)) (sum.xor plain)
    refine ⟨(offset.xor (step keys place)).xor
      (Aes.encrypt keys (plain.xor (offset.xor (step keys place)))) :: ciphers, masked, last, total,
      ?_, ?_, hmasked, ?_⟩
    · simp only [encryptBlocks, hencrypt, Block.join_cons, List.append_assoc]
    · rw [List.length_cons, List.length_cons, hciphers]
    · simp only [decryptBlocks, xor_decrypt_xor, hdecrypt, Block.join_cons, List.append_assoc]

/-- What was encrypted and tagged is accepted. -/
theorem decrypt?_encrypt (key nonce plain associated : Octets) :
    decrypt? key nonce (encrypt key nonce plain associated) associated = some plain := by
  obtain ⟨blocks, left, rfl, hleft⟩ := Block.exists_blocks plain
  obtain ⟨ciphers, masked, last, total, hencrypt, hciphers, hmasked, hdecrypt⟩ :=
    decryptBlocks_encryptBlocks (Aes.roundKeys key) blocks hleft 1
      (firstOffset (Aes.roundKeys key) nonce) .zero
  have hsealed : encrypt key nonce (Block.join blocks ++ left) associated
      = Block.join ciphers ++ masked ++ tag (Aes.roundKeys key) last total associated := by
    simp only [encrypt, Block.split_join blocks hleft, hencrypt]
  have hlength : (encrypt key nonce (Block.join blocks ++ left) associated).length - tagLength
      = (Block.join ciphers ++ masked).length := by
    rw [hsealed, List.length_append, tag, Block.length_octets]
    exact Nat.add_sub_cancel _ 16
  unfold decrypt?
  simp only [hlength]
  rw [hsealed, List.take_left, List.drop_left, Block.split_join ciphers (by omega)]
  simp only [hdecrypt, if_true]

theorem length_encrypt (key nonce plain associated : Octets) :
    (encrypt key nonce plain associated).length = plain.length + tagLength := by
  obtain ⟨blocks, left, rfl, hleft⟩ := Block.exists_blocks plain
  obtain ⟨ciphers, masked, last, total, hencrypt, hciphers, hmasked, -⟩ :=
    decryptBlocks_encryptBlocks (Aes.roundKeys key) blocks hleft 1
      (firstOffset (Aes.roundKeys key) nonce) .zero
  simp only [encrypt, Block.split_join blocks hleft, hencrypt, List.length_append,
    Block.length_join, hciphers, hmasked, tag, Block.length_octets, tagLength]

end Ocb

end CommitSeal.Cipher
