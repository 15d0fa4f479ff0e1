import CommitSeal.SExpr.Reader
import Mathlib.Data.List.Basic
import Mathlib.Data.List.Induction

/-!
# Atoms behind their lengths

The reader takes a length prefix only in the form in which lengths are written, so that an atom is
read from the one text that `SExpr.verbatim` makes of it, and from no other
(`SExpr.readVerbatim_eq_ok`). That rests on decimal numbers: digits without a superfluous zero in
front are the digits of their value (`SExpr.decimal_digitsValue`).
-/

namespace CommitSeal

/-! ## Decimal numbers -/

namespace Numeral

/-- The octet that a digit is written as. -/
def digitOctet (digit : Nat) : UInt8 := UInt8.ofNat (0x30 + digit)

theorem toNat_digitOctet {digit : Nat} (hdigit : digit < 10) :
    (digitOctet digit).toNat = 0x30 + digit := by
  simp only [digitOctet, UInt8.toNat_ofNat']
  omega

/-- A number below ten is one digit. -/
theorem decimal_of_lt {value : Nat} (hvalue : value < 10) : decimal value = [digitOctet value] := by
  rw [decimal, Nat.toDigits_of_lt_base hvalue]
  have hchar : ∀ digit < 10, UInt8.ofNat (Nat.digitChar digit).toNat = digitOctet digit := by decide
  rw [List.map_singleton, hchar value hvalue]

/-- Any other number is its tenth part and one more digit. -/
theorem decimal_of_le {value : Nat} (hvalue : 10 ≤ value) :
    decimal value = decimal (value / 10) ++ [digitOctet (value % 10)] := by
  have hlast := decimal_of_lt (Nat.mod_lt value (show 0 < 10 by omega))
  rw [decimal, Nat.toDigits_of_base_le (by omega) hvalue, List.map_append]
  rw [← hlast, decimal, decimal, Nat.toDigits_of_lt_base (Nat.mod_lt value (by omega))]

theorem decimal_ne_nil (value : Nat) : decimal value ≠ [] := by
  simp [decimal, Nat.toDigits_ne_nil]

end Numeral

namespace SExpr

open Numeral (decimal digitOctet decimal_of_lt decimal_of_le toNat_digitOctet)

theorem isDigit_iff {octet : UInt8} :
    isDigit octet = true ↔ 0x30 ≤ octet.toNat ∧ octet.toNat ≤ 0x39 := by
  simp [isDigit, UInt8.le_iff_toNat_le]

theorem isDigit_digitOctet {digit : Nat} (hdigit : digit < 10) :
    isDigit (digitOctet digit) = true := by
  rw [isDigit_iff, toNat_digitOctet hdigit]
  omega

theorem digitOctet_sub {octet : UInt8} (hoctet : isDigit octet = true) :
    digitOctet (octet.toNat - 0x30) = octet := by
  obtain ⟨hlow, hhigh⟩ := isDigit_iff.mp hoctet
  apply UInt8.toNat_inj.mp
  rw [toNat_digitOctet (by omega)]
  omega

/-- One more digit behind the others. -/
theorem digitsValue_append (digits : Octets) (digit : UInt8) :
    digitsValue (digits ++ [digit]) = 10 * digitsValue digits + (digit.toNat - 0x30) := by
  simp [digitsValue, List.foldl_append]

/-- The digits of a number have its value. -/
theorem digitsValue_decimal (value : Nat) : digitsValue (decimal value) = value := by
  induction value using Nat.strongRecOn with
  | ind value ih =>
    rcases Nat.lt_or_ge value 10 with hvalue | hvalue
    · rw [decimal_of_lt hvalue, ← List.nil_append [digitOctet value], digitsValue_append,
        toNat_digitOctet hvalue]
      show 10 * 0 + _ = value
      omega
    · have hlast : value % 10 < 10 := Nat.mod_lt value (by omega)
      rw [decimal_of_le hvalue, digitsValue_append, ih (value / 10) (by omega),
        toNat_digitOctet hlast]
      omega

/-- Digits as a number is written: at least one, and no superfluous zero in front. -/
structure IsNumeral (digits : Octets) : Prop where
  all_digits : ∀ octet ∈ digits, isDigit octet = true
  ne_nil : digits ≠ []
  eq_zero : digits.head? = some 0x30 → digits = [0x30]

/-- Numbers are written so. -/
theorem isNumeral_decimal (value : Nat) : IsNumeral (decimal value) := by
  induction value using Nat.strongRecOn with
  | ind value ih =>
    rcases Nat.lt_or_ge value 10 with hvalue | hvalue
    · rw [decimal_of_lt hvalue]
      refine ⟨?_, by simp, ?_⟩
      · intro octet hoctet
        rw [List.mem_singleton.mp hoctet]
        exact isDigit_digitOctet hvalue
      · intro hhead
        rw [Option.some.inj hhead]
    · obtain ⟨hdigits, hne, hzero⟩ := ih (value / 10) (by omega)
      rw [decimal_of_le hvalue]
      refine ⟨?_, by simp, ?_⟩
      · intro octet hoctet
        rcases List.mem_append.mp hoctet with h | h
        · exact hdigits octet h
        · rw [List.mem_singleton.mp h]
          exact isDigit_digitOctet (Nat.mod_lt value (by omega))
      · -- A zero in front would be the whole of the tenth part, which is not zero.
        intro hhead
        rw [List.head?_append_of_ne_nil _ hne] at hhead
        have htenth := digitsValue_decimal (value / 10)
        rw [hzero hhead] at htenth
        have hnone : digitsValue [0x30] = 0 := rfl
        omega

/-- Digits that are written as a number is are those of their value. -/
theorem decimal_digitsValue {digits : Octets} (hnumeral : IsNumeral digits) :
    decimal (digitsValue digits) = digits := by
  induction digits using List.reverseRecOn with
  | nil => exact absurd rfl hnumeral.ne_nil
  | append_singleton front last ih =>
    have hlast := hnumeral.all_digits last (by simp)
    obtain ⟨hlow, hhigh⟩ := isDigit_iff.mp hlast
    rw [digitsValue_append]
    -- The digits in front of the last one are the tenth part, and written as a number is as well.
    by_cases hfront : front = []
    · subst hfront
      have hsmall : 10 * digitsValue [] + (last.toNat - 0x30) = last.toNat - 0x30 := by
        show 10 * 0 + _ = _
        omega
      rw [hsmall, decimal_of_lt (by omega), digitOctet_sub hlast, List.nil_append]
    · have hzero : front.head? ≠ some 0x30 := by
        intro hhead
        have hall := hnumeral.eq_zero (by rw [List.head?_append_of_ne_nil _ hfront]; exact hhead)
        have hlength := congrArg List.length hall
        rw [List.length_append] at hlength
        exact hfront (List.length_eq_zero_iff.mp (by simpa using hlength))
      have htenth : decimal (digitsValue front) = front := by
        apply ih
        refine ⟨?_, hfront, fun hhead => absurd hhead hzero⟩
        intro octet hoctet
        exact hnumeral.all_digits octet (List.mem_append_left _ hoctet)
      have hpos : digitsValue front ≠ 0 := by
        intro hvalue
        rw [hvalue] at htenth
        exact hzero (by rw [← htenth]; rfl)
      rw [decimal_of_le (by omega)]
      rw [show (10 * digitsValue front + (last.toNat - 0x30)) / 10 = digitsValue front by omega,
        show (10 * digitsValue front + (last.toNat - 0x30)) % 10 = last.toNat - 0x30 by omega,
        htenth, digitOctet_sub hlast]

/-! ## Length prefixes -/

/-- The first length that a prefix cannot say. -/
def lengthLimit : Nat := 1000000000

/-- The lengths below the limit are those of at most nine digits. -/
theorem length_decimal_le {value : Nat} : (decimal value).length ≤ 9 ↔ value < lengthLimit := by
  rw [decimal, List.length_map]
  exact Nat.length_toDigits_le_iff (by omega) (by omega)

/-- A length prefix is what digits a text starts with, if they are at most nine and written as a
number is. -/
theorem readLength_eq_ok {offset : Nat} {text digits : Octets} :
    readLength offset text = .ok digits ↔
      text.takeWhile isDigit = digits ∧ IsNumeral digits ∧ digits.length ≤ 9 := by
  have hdigits : ∀ octet ∈ text.takeWhile isDigit, isDigit octet = true :=
    List.all_eq_true.mp List.all_takeWhile
  unfold readLength
  split
  · rename_i hnone
    constructor
    · intro h
      cases h
    · rintro ⟨rfl, hnumeral, -⟩
      exact absurd hnone hnumeral.ne_nil
  · rename_i first more hsome
    rw [hsome] at hdigits
    by_cases hlong : 9 < (first :: more).length
    · rw [if_pos hlong, hsome]
      constructor
      · intro h
        cases h
      · rintro ⟨rfl, -, hshort⟩
        omega
    · rw [if_neg hlong, hsome]
      by_cases hzero : first = 0x30 ∧ more ≠ []
      · rw [if_pos hzero]
        constructor
        · intro h
          cases h
        · rintro ⟨rfl, hnumeral, -⟩
          have hall := hnumeral.eq_zero (by rw [hzero.1]; rfl)
          exact absurd (List.cons.inj hall).2 hzero.2
      · rw [if_neg hzero]
        constructor
        · intro h
          obtain rfl := Except.ok.inj h
          refine ⟨rfl, ⟨hdigits, by simp, ?_⟩, Nat.le_of_not_lt hlong⟩
          intro hhead
          obtain rfl := Option.some.inj hhead
          rw [not_and_not_right.mp hzero rfl]
        · rintro ⟨rfl, -, -⟩
          rfl

/-! ## Atoms -/

theorem takeWhile_verbatim (octets rest : Octets) :
    (verbatim octets ++ rest).takeWhile isDigit = decimal octets.length := by
  rw [verbatim, List.append_assoc,
    List.takeWhile_append_of_pos (isNumeral_decimal octets.length).all_digits]
  simp [show isDigit 0x3A = false from rfl]

/-- An atom is read from what is written for it, if that is what a text starts with. -/
theorem readVerbatim_verbatim (offset : Nat) {octets : Octets} (rest : Octets)
    (hoctets : octets.length < lengthLimit) :
    readVerbatim offset (verbatim octets ++ rest) = .ok (octets, (verbatim octets).length) := by
  have hlength : readLength offset (verbatim octets ++ rest) = .ok (decimal octets.length) :=
    readLength_eq_ok.mpr ⟨takeWhile_verbatim octets rest, isNumeral_decimal _,
      length_decimal_le.mpr hoctets⟩
  have hdrop : (verbatim octets ++ rest).drop (decimal octets.length).length
      = 0x3A :: (octets ++ rest) := by
    rw [verbatim, List.append_assoc, List.drop_left]
    rfl
  unfold readVerbatim
  simp only [hlength, hdrop, digitsValue_decimal, List.take_left]
  simp [verbatim]
  omega

/-- It is read from nothing else. -/
theorem readVerbatim_eq_ok {offset taken : Nat} {text octets : Octets} :
    readVerbatim offset text = .ok (octets, taken) ↔
      octets.length < lengthLimit ∧ taken = (verbatim octets).length ∧
      verbatim octets <+: text := by
  constructor
  · intro hread
    unfold readVerbatim at hread
    split at hread
    · cases hread
    · rename_i digits hlength
      obtain ⟨hdigits, hnumeral, hshort⟩ := readLength_eq_ok.mp hlength
      split at hread
      · rename_i rest hrest
        by_cases hall : (rest.take (digitsValue digits)).length = digitsValue digits
        · simp only [if_pos hall] at hread
          obtain ⟨rfl, rfl⟩ := Prod.mk.inj (Except.ok.inj hread)
          have hwritten : decimal (rest.take (digitsValue digits)).length = digits := by
            rw [hall, decimal_digitsValue hnumeral]
          have htext : text = digits ++ 0x3A :: rest := by
            obtain ⟨behind, hbehind⟩ : text.takeWhile isDigit <+: text := List.takeWhile_prefix _
            rw [hdigits] at hbehind
            rw [← hbehind, List.drop_left] at hrest
            rw [← hbehind, hrest]
          refine ⟨?_, ?_, rest.drop (digitsValue digits), ?_⟩
          · rw [← length_decimal_le, hwritten]
            exact hshort
          · rw [verbatim, hwritten, List.length_append, List.length_cons, hall]
            omega
          · rw [verbatim, hwritten, htext, List.append_assoc, List.cons_append,
              List.take_append_drop]
        · simp only [if_neg hall] at hread
          cases hread
      · cases hread
  · rintro ⟨hoctets, rfl, rest, rfl⟩
    exact readVerbatim_verbatim offset rest hoctets

end SExpr

end CommitSeal
