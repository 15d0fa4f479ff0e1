import CommitSeal.Cipher.Aes
import Mathlib.Tactic.Common

/-!
# Decryption undoes encryption: AES

Each step of a round is undone by the step that stands beside it. For substitution that is in the
tables; for the columns it is arithmetic in the field of octets, where doubling is additive
(`Aes.double_xor`). Rounds then undo each other one by one, whatever the round keys are
(`Aes.decrypt_encrypt`).
-/

namespace CommitSeal.Cipher

/-! ## Columns and blocks -/

attribute [ext] Column

theorem xor_cancel_left (a b : UInt8) : a ^^^ (a ^^^ b) = b := by
  rw [← UInt8.xor_assoc, UInt8.xor_self, UInt8.zero_xor]

theorem xor_cancel_right (a b : UInt8) : a ^^^ b ^^^ b = a := by
  rw [UInt8.xor_assoc, UInt8.xor_self, UInt8.xor_zero]

theorem xor_left_comm (a b c : UInt8) : a ^^^ (b ^^^ c) = b ^^^ (a ^^^ c) := by
  rw [← UInt8.xor_assoc, UInt8.xor_comm a b, UInt8.xor_assoc]

namespace Block

/-- A key that is added twice is gone. -/
theorem xor_xor_cancel (key block : Block) : key.xor (key.xor block) = block := by
  simp only [xor, Column.xor, xor_cancel_left]

theorem xor_cancel_right (block mask : Block) : (block.xor mask).xor mask = block := by
  simp only [xor, Column.xor, Cipher.xor_cancel_right]

theorem xor_comm (a b : Block) : a.xor b = b.xor a := by
  simp only [xor, Column.xor, UInt8.xor_comm]

/-- What undoes a function on octets undoes it on blocks. -/
theorem map_map {f g : UInt8 → UInt8} (hundo : ∀ octet, g (f octet) = octet) (block : Block) :
    (block.map f).map g = block := by
  simp only [map, Column.map, hundo]

end Block

namespace Aes

/-! ## Substitution and rows -/

/-- Every entry of the one table is found through the other. -/
theorem unsubstitution_substitution :
    (substitution.toList.map fun octet => (unsubstitution.toList.getD octet.toNat 0).toNat)
      = List.range 256 := by
  decide +kernel

theorem size_substitution : substitution.size = 256 := by
  have hlength := congrArg List.length unsubstitution_substitution
  rwa [List.length_map, List.length_range, Array.length_toList] at hlength

theorem unsubstitute_substitute (octet : UInt8) : unsubstitute (substitute octet) = octet := by
  have hoctet : octet.toNat < 256 := octet.toNat_lt
  have hentry : substitution.toList[octet.toNat]? = some (substitute octet) := by
    have hplace : octet.toNat < substitution.size := by rwa [size_substitution]
    simp [substitute, hplace]
  have hback : unsubstitution.toList.getD (substitute octet).toNat 0
      = unsubstitute (substitute octet) := by
    simp [unsubstitute]
  have hthrough := congrArg (fun entries => entries[octet.toNat]?) unsubstitution_substitution
  simp only [List.getElem?_map, hentry, Option.map_some, hback,
    List.getElem?_range hoctet] at hthrough
  exact UInt8.toNat_inj.mp (Option.some.inj hthrough)

theorem unshiftRows_shiftRows (block : Block) : unshiftRows (shiftRows block) = block := rfl

/-! ## The field of octets -/

/-- Whether a sum is below 128 depends on the highest bits alone. -/
theorem xor_lt_iff (a b : UInt8) : a ^^^ b < 0x80 ↔ (a < 0x80 ↔ b < 0x80) := by
  have hmsb : ∀ c : UInt8, c < 0x80 ↔ c.toBitVec.msb = false := by
    intro c
    rw [UInt8.lt_iff_toNat_lt, BitVec.msb_eq_decide, decide_eq_false_iff_not]
    show c.toNat < 128 ↔ ¬ 128 ≤ c.toNat
    omega
  rw [hmsb, hmsb, hmsb, UInt8.toBitVec_xor, BitVec.msb_xor]
  cases a.toBitVec.msb <;> cases b.toBitVec.msb <;> decide

/-- Doubling is additive. -/
theorem double_xor (a b : UInt8) : double (a ^^^ b) = double a ^^^ double b := by
  unfold double
  rw [UInt8.shiftLeft_xor]
  -- What is added after the shift depends on the highest bit, which is that of the sum.
  by_cases ha : a < 0x80
  · by_cases hb : b < 0x80
    · rw [if_pos ((xor_lt_iff a b).mpr (iff_of_true ha hb)), if_pos ha, if_pos hb]
      simp only [UInt8.xor_zero]
    · rw [if_neg fun h => hb (((xor_lt_iff a b).mp h).mp ha), if_pos ha, if_neg hb, UInt8.xor_zero,
        UInt8.xor_assoc]
  · by_cases hb : b < 0x80
    · rw [if_neg fun h => ha (((xor_lt_iff a b).mp h).mpr hb), if_neg ha, if_pos hb, UInt8.xor_zero,
        UInt8.xor_assoc, UInt8.xor_assoc, UInt8.xor_comm (b <<< 1)]
    · rw [if_pos ((xor_lt_iff a b).mpr (iff_of_false ha hb)), if_neg ha, if_neg hb, UInt8.xor_zero,
        UInt8.xor_assoc, xor_left_comm 0x1B, UInt8.xor_self, UInt8.xor_zero]

theorem times9_xor (a b : UInt8) : times9 (a ^^^ b) = times9 a ^^^ times9 b := by
  simp only [times9, double_xor]
  ac_rfl

theorem times11_xor (a b : UInt8) : times11 (a ^^^ b) = times11 a ^^^ times11 b := by
  simp only [times11, double_xor]
  ac_rfl

theorem times13_xor (a b : UInt8) : times13 (a ^^^ b) = times13 a ^^^ times13 b := by
  simp only [times13, double_xor]
  ac_rfl

theorem times14_xor (a b : UInt8) : times14 (a ^^^ b) = times14 a ^^^ times14 b := by
  simp only [times14, double_xor]
  ac_rfl

/-- The polynomials with coefficients 14, 9, 13, 11 and 2, 1, 1, 3 are inverse to each other. -/
theorem coefficients (a : UInt8) :
    times14 (double a) ^^^ times11 a ^^^ times13 a ^^^ times9 (triple a) = a ∧
    times9 (double a) ^^^ times14 a ^^^ times11 a ^^^ times13 (triple a) = 0 ∧
    times13 (double a) ^^^ times9 a ^^^ times14 a ^^^ times11 (triple a) = 0 ∧
    times11 (double a) ^^^ times13 a ^^^ times9 a ^^^ times14 (triple a) = 0 := by
  simp only [times14, times11, times13, times9, triple, double_xor]
  refine ⟨?_, ?_, ?_, ?_⟩ <;>
    simp only [UInt8.xor_assoc, UInt8.xor_comm, xor_left_comm, xor_cancel_left, UInt8.xor_self,
      UInt8.xor_zero]

/-- Both maps turn with the column. -/
theorem mixColumn_rotate (a : Column) : mixColumn (rotate a) = rotate (mixColumn a) := by
  simp only [mixColumn, rotate, Column.mk.injEq]
  refine ⟨?_, ?_, ?_, ?_⟩ <;> ac_rfl

theorem unmixColumn_rotate (a : Column) : unmixColumn (rotate a) = rotate (unmixColumn a) := by
  simp only [unmixColumn, rotate, Column.mk.injEq]
  refine ⟨?_, ?_, ?_, ?_⟩ <;> ac_rfl

theorem unmixColumn_mixColumn_r0 (a : Column) : (unmixColumn (mixColumn a)).r0 = a.r0 := by
  obtain ⟨r0, r1, r2, r3⟩ := a
  obtain ⟨h0, -⟩ := coefficients r0
  obtain ⟨-, -, -, h1⟩ := coefficients r1
  obtain ⟨-, -, h2, -⟩ := coefficients r2
  obtain ⟨-, h3, -⟩ := coefficients r3
  calc
    (unmixColumn (mixColumn ⟨r0, r1, r2, r3⟩)).r0
      = (times14 (double r0) ^^^ times11 r0 ^^^ times13 r0 ^^^ times9 (triple r0))
          ^^^ (times11 (double r1) ^^^ times13 r1 ^^^ times9 r1 ^^^ times14 (triple r1))
          ^^^ (times13 (double r2) ^^^ times9 r2 ^^^ times14 r2 ^^^ times11 (triple r2))
          ^^^ (times9 (double r3) ^^^ times14 r3 ^^^ times11 r3 ^^^ times13 (triple r3)) := by
      simp only [unmixColumn, mixColumn, times9_xor, times11_xor, times13_xor, times14_xor]
      ac_rfl
    _ = r0 := by
      rw [h0, h1, h2, h3]
      simp only [UInt8.xor_zero]

/-- A column that was mixed is unmixed: the other rows are the first one of a column turned. -/
theorem unmixColumn_mixColumn (a : Column) : unmixColumn (mixColumn a) = a := by
  have hrow : ∀ b : Column, (rotate (unmixColumn (mixColumn b))).r0 = (rotate b).r0 := by
    intro b
    rw [← unmixColumn_rotate, ← mixColumn_rotate, unmixColumn_mixColumn_r0]
  have h0 := unmixColumn_mixColumn_r0 a
  have h1 := hrow a
  have h2 := hrow (rotate a)
  have h3 := hrow (rotate (rotate a))
  simp only [mixColumn_rotate, unmixColumn_rotate] at h2 h3
  exact Column.ext h0 h1 h2 h3

theorem unmixColumns_mixColumns (a : Block) : unmixColumns (mixColumns a) = a := by
  simp only [unmixColumns, mixColumns, unmixColumn_mixColumn]

/-! ## Rounds -/

/-- The rounds of decryption undo those of encryption, the last one first. -/
theorem backward_forward (keys : List Block) :
    ∀ state, backward keys (forward keys state) = state := by
  induction keys with
  | nil =>
    intro state
    rfl
  | cons key keys ih =>
    intro state
    cases keys with
    | nil =>
      show (unshiftRows (key.xor (key.xor (shiftRows (state.map substitute))))).map unsubstitute
        = state
      rw [Block.xor_xor_cancel, unshiftRows_shiftRows]
      exact Block.map_map unsubstitute_substitute state
    | cons next keys =>
      show (unshiftRows (unmixColumns (key.xor (backward (next :: keys) (forward (next :: keys)
        (key.xor (mixColumns (shiftRows (state.map substitute))))))))).map unsubstitute = state
      rw [ih, Block.xor_xor_cancel, unmixColumns_mixColumns, unshiftRows_shiftRows]
      exact Block.map_map unsubstitute_substitute state

/-- A block that was encrypted is decrypted, whatever the round keys are. -/
theorem decrypt_encrypt (keys : List Block) (plain : Block) :
    decrypt keys (encrypt keys plain) = plain := by
  cases keys with
  | nil => rfl
  | cons key keys => rw [encrypt, decrypt, backward_forward, Block.xor_xor_cancel]

end Aes

end CommitSeal.Cipher
