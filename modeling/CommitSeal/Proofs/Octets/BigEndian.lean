import CommitSeal.Octets.Basic
import Mathlib.Tactic.Ring

/-!
# Big-endian numbers

A number written in a fixed count of octets is read back modulo what that many octets can hold
(`Octets.toNat_ofNat`), and octets that were read are written again (`Octets.ofNat_toNat`), so that
a field of a header has one value for its writer and its reader. Octets without leading zeros are as
many as the bits of their number need (`Octets.length_dropZeros`), so that a bit count says how many
octets there are.
-/

namespace CommitSeal.Octets

/-- A property of the octets below a bound, checked one by one. -/
theorem forall_octet_lt {P : UInt8 → Prop} {bound : Nat}
    (hall : ∀ n < bound, P (UInt8.ofNat n)) (octet : UInt8) (hoctet : octet.toNat < bound) :
    P octet := by
  have hvalue := hall octet.toNat hoctet
  rwa [UInt8.ofNat_toNat] at hvalue

@[simp]
theorem length_ofNat (width value : Nat) : (ofNat width value).length = width := by
  induction width with
  | zero => rfl
  | succ width ih => rw [ofNat, List.length_cons, ih]

/-- Reading on from a value shifts it in front of what is read. -/
theorem foldl_toNat (octets : Octets) (value : Nat) :
    octets.foldl (fun value octet => 256 * value + octet.toNat) value
      = value * 256 ^ octets.length + toNat octets := by
  induction octets generalizing value with
  | nil => simp [toNat]
  | cons octet octets ih =>
    rw [toNat, List.foldl_cons, List.foldl_cons, ih, ih (256 * 0 + octet.toNat), List.length_cons,
      Nat.pow_succ]
    ring

theorem toNat_cons (octet : UInt8) (octets : Octets) :
    toNat (octet :: octets) = octet.toNat * 256 ^ octets.length + toNat octets := by
  rw [toNat, List.foldl_cons, foldl_toNat]
  simp

/-- A number is read back from its octets, as far as they can hold it. -/
theorem toNat_ofNat (width value : Nat) : toNat (ofNat width value) = value % 256 ^ width := by
  induction width with
  | zero => rw [ofNat, Nat.pow_zero, Nat.mod_one]; rfl
  | succ width ih =>
    have hshift : value >>> (8 * width) = value / 256 ^ width := by
      rw [Nat.shiftRight_eq_div_pow, Nat.pow_mul]
    rw [ofNat, toNat_cons, ih, length_ofNat, hshift, UInt8.toNat_ofNat',
      Nat.mod_pow_succ (b := 256)]
    ring

theorem toNat_ofNat_of_lt {width value : Nat} (hvalue : value < 256 ^ width) :
    toNat (ofNat width value) = value := by
  rw [toNat_ofNat, Nat.mod_eq_of_lt hvalue]

theorem toNat_lt (octets : Octets) : toNat octets < 256 ^ octets.length := by
  induction octets with
  | nil => simp [toNat]
  | cons octet octets ih =>
    have hoctet : octet.toNat + 1 ≤ 256 := octet.toNat_lt
    calc toNat (octet :: octets) = octet.toNat * 256 ^ octets.length + toNat octets := toNat_cons ..
      _ < octet.toNat * 256 ^ octets.length + 256 ^ octets.length := Nat.add_lt_add_left ih _
      _ = (octet.toNat + 1) * 256 ^ octets.length := by ring
      _ ≤ 256 * 256 ^ octets.length := Nat.mul_le_mul_right _ hoctet
      _ = 256 ^ (octet :: octets).length := by rw [List.length_cons, Nat.pow_succ]; ring

/-- Octets are determined by their number and their value. -/
theorem eq_of_toNat {octets others : Octets} (hlength : octets.length = others.length)
    (hvalue : toNat octets = toNat others) : octets = others := by
  induction octets generalizing others with
  | nil => exact (List.length_eq_zero_iff.mp hlength.symm).symm
  | cons octet octets ih =>
    cases others with
    | nil => cases hlength
    | cons other others =>
      have hrest : octets.length = others.length := Nat.succ.inj hlength
      have hlow := toNat_lt octets
      have hlow' := toNat_lt others
      rw [toNat_cons, toNat_cons, hrest] at hvalue
      rw [hrest] at hlow
      -- The first octet is the quotient, since the others are worth less than one of it.
      have hquotient : ∀ first value, value < 256 ^ others.length →
          (first * 256 ^ others.length + value) / 256 ^ others.length = first := by
        intro first value hvalue
        rw [Nat.mul_comm, Nat.mul_add_div (Nat.pow_pos (by omega)), Nat.div_eq_of_lt hvalue,
          Nat.add_zero]
      have hfirst : octet.toNat = other.toNat := by
        rw [← hquotient octet.toNat _ hlow, hvalue, hquotient _ _ hlow']
      rw [hfirst] at hvalue
      rw [UInt8.toNat_inj.mp hfirst, ih hrest (Nat.add_left_cancel hvalue)]

/-- The octets of a value that was read are those that it was read from. -/
theorem ofNat_toNat {width : Nat} {octets : Octets} (hlength : octets.length = width) :
    ofNat width (toNat octets) = octets := by
  apply eq_of_toNat
  · rw [length_ofNat, hlength]
  · rw [toNat_ofNat_of_lt]
    rw [← hlength]
    exact toNat_lt octets

/-! ## Leading zeros and bits -/

@[simp]
theorem toNat_dropZeros (octets : Octets) : toNat (dropZeros octets) = toNat octets := by
  induction octets with
  | nil => rfl
  | cons octet octets ih =>
    unfold dropZeros at ih ⊢
    by_cases hzero : octet = 0
    · rw [List.dropWhile_cons_of_pos (by simpa using hzero), ih, toNat_cons, hzero]
      simp
    · rw [List.dropWhile_cons_of_neg (by simpa using hzero)]

/-- Zeros in front do not change a value. -/
theorem toNat_padded (zeros : Nat) (octets : Octets) :
    toNat (List.replicate zeros 0 ++ octets) = toNat octets := by
  induction zeros with
  | zero => rfl
  | succ zeros ih =>
    rw [List.replicate_succ, List.cons_append, toNat_cons, ih]
    simp

theorem bitLength_le_iff {value bits : Nat} : bitLength value ≤ bits ↔ value < 2 ^ bits := by
  unfold bitLength
  split
  · rename_i hzero
    simp [hzero]
  · rename_i hzero
    exact Nat.succ_le_iff.trans (Nat.log2_lt hzero)

/-- Without leading zeros there are as many octets as the bits of the number need. -/
theorem length_dropZeros (octets : Octets) :
    (dropZeros octets).length = (bitLength (toNat octets) + 7) / 8 := by
  rw [← toNat_dropZeros octets]
  cases hoctets : dropZeros octets with
  | nil => rfl
  | cons octet rest =>
    have hfirst : octet ≠ 0 := by
      have hhead := List.head?_dropWhile_not (· = (0 : UInt8)) octets
      rw [← dropZeros, hoctets] at hhead
      simpa using hhead
    have hpos : 0 < octet.toNat :=
      Nat.pos_of_ne_zero fun h => hfirst (UInt8.toNat_inj.mp h)
    have hpow (n : Nat) : 256 ^ n = 2 ^ (8 * n) := by rw [Nat.pow_mul]
    -- The first octet counts, so that one octet less would be too little for the number.
    have hupper : bitLength (toNat (octet :: rest)) ≤ 8 * (rest.length + 1) := by
      rw [bitLength_le_iff, ← hpow]
      exact toNat_lt (octet :: rest)
    have hlower : ¬ bitLength (toNat (octet :: rest)) ≤ 8 * rest.length := by
      rw [bitLength_le_iff, ← hpow, toNat_cons]
      have hshifted := Nat.le_mul_of_pos_left (256 ^ rest.length) hpos
      omega
    rw [List.length_cons]
    omega

end CommitSeal.Octets
