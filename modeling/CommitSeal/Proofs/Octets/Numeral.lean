import CommitSeal.Octets.Numeral
import Mathlib.Data.List.Basic

/-!
# Integers of nothing but digits

The grammar of integer texts allows for white space, a sign, a mark of the base and underscores.
None of these is a digit, so a text of digits has nothing in it to be passed over, and it is read as
the value of its digits (`Numeral.int?_of_allDigits`).
-/

namespace CommitSeal.Numeral

/-- A text of digits of a base. -/
def AllDigits (base : Nat) (text : Octets) : Prop :=
  ∀ octet ∈ text, (digit? base octet).isSome = true

/-- The number that digits make. -/
def valueOf (base : Nat) (text : Octets) : Nat :=
  text.foldl (fun value octet => base * value + (digit? base octet).getD 0) 0

/-! ## What is no digit -/

theorem digit?_lt {base value : Nat} {octet : UInt8} (hdigit : digit? base octet = some value) :
    value < base := by
  unfold digit? at hdigit
  split at hdigit
  · split at hdigit
    · rename_i hlt
      rwa [← Option.some.inj hdigit]
    · cases hdigit
  · cases hdigit

/-- Digits are ASCII digits and letters. -/
theorem alphanumeric_of_digit {base : Nat} {octet : UInt8}
    (hdigit : (digit? base octet).isSome = true) :
    (0x30 ≤ octet.toNat ∧ octet.toNat ≤ 0x39) ∨ (0x41 ≤ octet.toNat ∧ octet.toNat ≤ 0x5A) ∨
      (0x61 ≤ octet.toNat ∧ octet.toNat ≤ 0x7A) := by
  unfold digit? at hdigit
  cases hvalue : digitValue? octet with
  | none => simp [hvalue] at hdigit
  | some value =>
    unfold digitValue? at hvalue
    simp only [UInt8.le_iff_toNat_le] at hvalue
    split at hvalue
    · exact .inl ‹_›
    · split at hvalue
      · exact .inr (.inl ‹_›)
      · split at hvalue
        · exact .inr (.inr ‹_›)
        · cases hvalue

theorem ne_of_digit {base : Nat} {octet : UInt8} (hdigit : (digit? base octet).isSome = true) :
    octet ≠ 0x2B ∧ octet ≠ 0x2D ∧ octet ≠ 0x5F := by
  have hrange := alphanumeric_of_digit hdigit
  refine ⟨?_, ?_, ?_⟩ <;> rintro rfl <;> revert hrange <;> decide

theorem isBlank_of_digit {base : Nat} {octet : UInt8}
    (hdigit : (digit? base octet).isSome = true) : Octets.isBlank octet = false := by
  have hrange := alphanumeric_of_digit hdigit
  have hspace : octet ≠ 0x20 := by
    rintro rfl
    revert hrange
    decide
  have hcontrol : ¬ octet ≤ 0x0D := by
    rw [UInt8.le_iff_toNat_le]
    show ¬ octet.toNat ≤ 0x0D
    omega
  simp [Octets.isBlank, hspace, hcontrol]

theorem digit?_of_isBlank {octet : UInt8} (hblank : Octets.isBlank octet = true) :
    digit? base octet = none := by
  cases hdigit : digit? base octet with
  | none => rfl
  | some value =>
    have hsome : (digit? base octet).isSome = true := by rw [hdigit]; rfl
    have hnot := isBlank_of_digit hsome
    rw [hblank] at hnot
    cases hnot

/-- The marks of the bases 8 and 16 are letters that are no digits of them. -/
theorem digit?_mark {base : Nat} {mark : UInt8}
    (hmark : (base = 16 ∧ (mark = 0x78 ∨ mark = 0x58)) ∨
      (base = 8 ∧ (mark = 0x6F ∨ mark = 0x4F))) : digit? base mark = none := by
  rcases hmark with ⟨rfl, rfl | rfl⟩ | ⟨rfl, rfl | rfl⟩ <;> rfl

/-! ## Reading digits -/

theorem digits_digit {base value count digit : Nat} {afterDigit : Bool} {octet : UInt8}
    {rest : Octets} (hdigit : digit? base octet = some digit) :
    digits base value count afterDigit (octet :: rest)
      = digits base (base * value + digit) (count + 1) true rest := by
  have hsome : (digit? base octet).isSome = true := by rw [hdigit]; rfl
  obtain ⟨-, -, hunderscore⟩ := ne_of_digit hsome
  rw [digits, if_neg hunderscore, hdigit]

theorem digits_of_allDigits {base : Nat} {text : Octets} (hdigits : AllDigits base text) :
    ∀ value count, digits base value count true text
      = some (text.foldl (fun value octet => base * value + (digit? base octet).getD 0) value,
          count + text.length) := by
  induction text with
  | nil =>
    intro value count
    rfl
  | cons octet text ih =>
    intro value count
    obtain ⟨digit, hdigit⟩ := Option.isSome_iff_exists.mp (hdigits octet List.mem_cons_self)
    have hrest : AllDigits base text := fun other hother =>
      hdigits other (List.mem_cons_of_mem _ hother)
    rw [digits_digit hdigit, ih hrest, List.foldl_cons, hdigit, Option.getD_some, List.length_cons,
      show count + 1 + text.length = count + (text.length + 1) by omega]

/-- The first digit may stand where no underscore may. -/
theorem digits_start {base : Nat} {text : Octets} (hdigits : AllDigits base text)
    (hne : text ≠ []) : digits base 0 0 false text = some (valueOf base text, text.length) := by
  cases text with
  | nil => exact absurd rfl hne
  | cons octet text =>
    obtain ⟨digit, hdigit⟩ := Option.isSome_iff_exists.mp (hdigits octet List.mem_cons_self)
    have hread := digits_of_allDigits hdigits 0 0
    rw [digits_digit hdigit] at hread ⊢
    rw [hread, valueOf, Nat.zero_add]

theorem dropBaseMark_of_allDigits {base : Nat} {text : Octets} (hdigits : AllDigits base text) :
    dropBaseMark base text = text := by
  unfold dropBaseMark
  split
  · rename_i mark rest
    have hmark := hdigits mark (by simp)
    rw [if_neg]
    intro hcondition
    rw [digit?_mark hcondition] at hmark
    cases hmark
  · rfl

/-- A text without white space at either end is kept. -/
theorem strip_of_ends {text : Octets} {first last : UInt8} (hhead : text.head? = some first)
    (hlast : text.getLast? = some last) (hfirst : Octets.isBlank first = false)
    (hend : Octets.isBlank last = false) : Octets.strip text = text := by
  have hkept : ∀ {octets : Octets} {octet : UInt8}, octets.head? = some octet →
      Octets.isBlank octet = false → octets.dropWhile Octets.isBlank = octets := by
    intro octets octet hhead hoctet
    obtain ⟨rest, rfl⟩ := List.head?_eq_some_iff.mp hhead
    exact List.dropWhile_cons_of_neg (by rw [hoctet]; decide)
  rw [Octets.strip, hkept hhead hfirst, Octets.stripRight,
    hkept (by rw [List.head?_reverse]; exact hlast) hend, List.reverse_reverse]

theorem strip_of_allDigits {base : Nat} {text : Octets} (hdigits : AllDigits base text)
    (hne : text ≠ []) : Octets.strip text = text :=
  strip_of_ends (List.head?_eq_some_head hne) (List.getLast?_eq_some_getLast hne)
    (isBlank_of_digit (hdigits _ (List.head_mem hne)))
    (isBlank_of_digit (hdigits _ (List.getLast_mem hne)))

/-- A text of digits is read as the number that they make. In base 10 they must not be too many. -/
theorem int?_of_allDigits {base : Nat} {text : Octets} (hdigits : AllDigits base text)
    (hne : text ≠ []) (hcount : base = 10 → text.length ≤ maxDecimalDigits) :
    int? base text = some (valueOf base text : Int) := by
  have hunsigned : unsigned? base text = some (valueOf base text) := by
    rw [unsigned?, dropBaseMark_of_allDigits hdigits, digits_start hdigits hne]
    simp only
    rw [if_neg]
    rintro ⟨hbase, hlong⟩
    exact absurd (hcount hbase) (by omega)
  rw [int?, strip_of_allDigits hdigits hne]
  split
  · exact absurd rfl (ne_of_digit (hdigits 0x2D List.mem_cons_self)).2.1
  · exact absurd rfl (ne_of_digit (hdigits 0x2B List.mem_cons_self)).1
  · rw [hunsigned]
    rfl

end CommitSeal.Numeral
