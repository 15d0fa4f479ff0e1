import CommitSeal.Proofs.Octets.Numeral

/-!
# Short integer texts

Integer texts may have more in them than digits: white space around them, a sign, the mark of the
base, underscores. Two octets have room for white space or a sign beside one digit
(`Numeral.octet?_pair`); behind an octal digit two more have room for white space, for an
underscore between digits, and for the mark (`Numeral.octet?_octalTriple`).
-/

namespace CommitSeal.Numeral

variable {base : Nat}

/-- A number as one octet, if it is less than 256. -/
def asOctet (value : Nat) : Option UInt8 :=
  if value < 256 then some (UInt8.ofNat value) else none

theorem asOctet_toNat (octet : UInt8) : asOctet octet.toNat = some octet := by
  rw [asOctet, if_pos octet.toNat_lt, UInt8.ofNat_toNat]

/-! ## White space around a text -/

/-- White space in front of a text is passed over. -/
theorem octet?_cons_blank {blank : UInt8} (hblank : Octets.isBlank blank = true)
    (text : Octets) : octet? base (blank :: text) = octet? base text := by
  have hstrip : Octets.strip (blank :: text) = Octets.strip text := by
    rw [Octets.strip, List.dropWhile_cons_of_pos hblank, Octets.strip]
  rw [octet?, int?, hstrip, octet?, int?]

/-- White space behind a text that starts with none is passed over. -/
theorem octet?_append_blank {first blank : UInt8} (hfirst : Octets.isBlank first = false)
    (hblank : Octets.isBlank blank = true) (more : Octets) :
    octet? base (first :: (more ++ [blank])) = octet? base (first :: more) := by
  have hstart : ∀ rest, (first :: rest).dropWhile Octets.isBlank = first :: rest := fun rest =>
    List.dropWhile_cons_of_neg (by rw [hfirst]; decide)
  have hstrip : Octets.strip (first :: (more ++ [blank])) = Octets.strip (first :: more) := by
    rw [Octets.strip, Octets.strip, hstart, hstart, Octets.stripRight, Octets.stripRight,
      ← List.cons_append, List.reverse_append, List.reverse_singleton, List.singleton_append,
      List.dropWhile_cons_of_pos hblank]
  rw [octet?, int?, hstrip, octet?, int?]

/-! ## Signs -/

section Signs

variable {text : Octets}

/-- A number behind a minus sign is an octet only if it is zero. -/
theorem octet?_minus (hstrip : Octets.strip (0x2D :: text) = 0x2D :: text) :
    octet? base (0x2D :: text)
      = (unsigned? base text).bind fun value => if value = 0 then some 0 else none := by
  have hint : int? base (0x2D :: text) = (unsigned? base text).map fun value => -(value : Int) := by
    simp only [int?, hstrip]
  rw [octet?, hint]
  cases unsigned? base text with
  | none => rfl
  | some value =>
    cases value with
    | zero => rfl
    | succ value => rfl

theorem octet?_plus (hstrip : Octets.strip (0x2B :: text) = 0x2B :: text) :
    octet? base (0x2B :: text) = (unsigned? base text).bind asOctet := by
  have hint : int? base (0x2B :: text) = (unsigned? base text).map fun value => (value : Int) := by
    simp only [int?, hstrip]
  rw [octet?, hint]
  cases unsigned? base text <;> rfl

theorem octet?_unsigned (hstrip : Octets.strip text = text) (hminus : text.head? ≠ some 0x2D)
    (hplus : text.head? ≠ some 0x2B) :
    octet? base text = (unsigned? base text).bind asOctet := by
  have hint : int? base text = (unsigned? base text).map fun value => (value : Int) := by
    rw [int?, hstrip]
    split
    · exact absurd rfl hminus
    · exact absurd rfl hplus
    · cases unsigned? base text <;> rfl
  rw [octet?, hint]
  cases unsigned? base text <;> rfl

end Signs

/-! ## Digits and underscores -/

section Digits

variable {value count : Nat} {afterDigit : Bool} {octet : UInt8} {rest : Octets}

theorem digits_underscore :
    digits base value count true (0x5F :: rest) = digits base value count false rest := by
  rw [digits, if_pos rfl, if_pos rfl]

/-- Anything else ends the attempt, an underscore too where it stands behind no digit. -/
theorem digits_other (hdigit : digit? base octet = none)
    (hunderscore : octet ≠ 0x5F ∨ afterDigit = false) :
    digits base value count afterDigit (octet :: rest) = none := by
  rw [digits]
  split
  · rename_i heq
    rw [if_neg (by simp [hunderscore.resolve_left (not_not_intro heq)])]
  · rw [hdigit]

end Digits

/-! ## Unsigned texts -/

/-- A mark is dropped only behind a zero. -/
theorem dropBaseMark_of_not_marked {first second : UInt8} {rest : Octets}
    (hnot : ¬ (first = 0x30 ∧ ((base = 16 ∧ (second = 0x78 ∨ second = 0x58)) ∨
      (base = 8 ∧ (second = 0x6F ∨ second = 0x4F))))) :
    dropBaseMark base (first :: second :: rest) = first :: second :: rest := by
  unfold dropBaseMark
  split
  · rename_i mark behind heq
    obtain ⟨rfl, hbehind⟩ := List.cons.inj heq
    obtain ⟨rfl, rfl⟩ := List.cons.inj hbehind
    rw [if_neg fun hmark => hnot ⟨rfl, hmark⟩]
  · rfl

section Unsigned

variable (hbase : base ≠ 10)

include hbase

/-- Only the digits of decimal texts are counted. -/
theorem unsigned?_eq (text : Octets) :
    unsigned? base text = (digits base 0 0 false (dropBaseMark base text)).map Prod.fst := by
  rw [unsigned?]
  cases digits base 0 0 false (dropBaseMark base text) with
  | none => rfl
  | some read => simp [hbase]

theorem unsigned?_nil : unsigned? base [] = none := by
  rw [unsigned?_eq hbase]
  rfl

theorem unsigned?_singleton (octet : UInt8) : unsigned? base [octet] = digit? base octet := by
  have hkept : dropBaseMark base [octet] = [octet] := by simp [dropBaseMark]
  rw [unsigned?_eq hbase, hkept]
  cases hdigit : digit? base octet with
  | none => rw [digits_other hdigit (.inr rfl)]; rfl
  | some digit =>
    rw [digits_digit hdigit]
    simp [digits]

theorem unsigned?_pair (first second : UInt8) :
    unsigned? base [first, second]
      = (digit? base first).bind fun high => (digit? base second).map fun low =>
          base * high + low := by
  rw [unsigned?_eq hbase]
  by_cases hmarked : first = 0x30 ∧ ((base = 16 ∧ (second = 0x78 ∨ second = 0x58)) ∨
      (base = 8 ∧ (second = 0x6F ∨ second = 0x4F)))
  · -- Nothing is left behind the mark, and the mark is no digit.
    obtain ⟨rfl, hmark⟩ := hmarked
    have hdrop : dropBaseMark base [0x30, second] = [] := by simp [dropBaseMark, hmark]
    rw [hdrop, digit?_mark hmark]
    cases digit? base 0x30 <;> rfl
  · rw [dropBaseMark_of_not_marked hmarked]
    cases hfirst : digit? base first with
    | none => rw [digits_other hfirst (.inr rfl)]; rfl
    | some high =>
      rw [digits_digit hfirst]
      cases hsecond : digit? base second with
      | some low =>
        rw [digits_digit hsecond]
        simp [digits]
      | none =>
        by_cases hunderscore : second = 0x5F
        · rw [hunderscore, digits_underscore]
          rfl
        · rw [digits_other hsecond (.inl hunderscore)]
          rfl

end Unsigned

/-- Behind an octal digit there may be an underscore and another digit, and behind a zero the mark
and another digit. -/
theorem unsigned?_octalTriple {first : UInt8} {high : Nat} (hfirst : digit? 8 first = some high)
    (second third : UInt8) :
    unsigned? 8 [first, second, third]
      = if first = 0x30 ∧ (second = 0x6F ∨ second = 0x4F) then digit? 8 third
        else if second = 0x5F then (digit? 8 third).map fun low => 8 * high + low
        else (digit? 8 second).bind fun middle => (digit? 8 third).map fun low =>
          8 * (8 * high + middle) + low := by
  have hbase : (8 : Nat) ≠ 10 := by decide
  split
  · rename_i hmarked
    obtain ⟨rfl, hmark⟩ := hmarked
    by_cases hunderscore : third = 0x5F
    · have hdrop : dropBaseMark 8 [0x30, second, third] = [] := by
        simp [dropBaseMark, hmark, hunderscore]
      rw [unsigned?_eq hbase, hdrop, hunderscore]
      rfl
    · have hdrop : dropBaseMark 8 [0x30, second, third] = dropBaseMark 8 [third] := by
        simp [dropBaseMark, hmark, hunderscore]
      rw [unsigned?_eq hbase, hdrop, ← unsigned?_eq hbase, unsigned?_singleton hbase]
  · rename_i hmarked
    rw [unsigned?_eq hbase, dropBaseMark_of_not_marked (by simpa using hmarked),
      digits_digit hfirst]
    split
    · rename_i hunderscore
      rw [hunderscore, digits_underscore]
      cases hthird : digit? 8 third with
      | none => rw [digits_other hthird (.inr rfl)]; rfl
      | some low =>
        rw [digits_digit hthird]
        simp [digits]
    · rename_i hunderscore
      cases hsecond : digit? 8 second with
      | none => rw [digits_other hsecond (.inl hunderscore)]; rfl
      | some middle =>
        rw [digits_digit hsecond]
        cases hthird : digit? 8 third with
        | some low =>
          rw [digits_digit hthird]
          simp [digits]
        | none =>
          by_cases hlast : third = 0x5F
          · rw [hlast, digits_underscore]
            rfl
          · rw [digits_other hthird (.inl hlast)]
            rfl

/-! ## Short texts of octets -/

theorem octet?_singleton (hbase : base ≠ 10) (octet : UInt8) :
    octet? base [octet] = (digit? base octet).bind asOctet := by
  cases hblank : Octets.isBlank octet with
  | true =>
    have hstrip : Octets.strip [] = [] := rfl
    rw [octet?_cons_blank hblank, digit?_of_isBlank hblank,
      octet?_unsigned hstrip (by simp) (by simp), unsigned?_nil hbase]
  | false =>
    have hstrip : Octets.strip [octet] = [octet] := strip_of_ends rfl rfl hblank hblank
    by_cases hminus : octet = 0x2D
    · subst hminus
      rw [octet?_minus hstrip, unsigned?_nil hbase]
      rfl
    · by_cases hplus : octet = 0x2B
      · subst hplus
        rw [octet?_plus hstrip, unsigned?_nil hbase]
        rfl
      · rw [octet?_unsigned hstrip (by simpa using hminus) (by simpa using hplus),
          unsigned?_singleton hbase]

/-- Two octets are read if both are digits, and if there is white space or a sign beside one digit:
white space on either side, or a plus sign in front of it, or a minus sign in front of zero. -/
theorem octet?_pair (hbase : base ≠ 10) (first second : UInt8) :
    octet? base [first, second]
      = match digit? base first, digit? base second with
        | some high, some low => asOctet (base * high + low)
        | some high, none => if Octets.isBlank second then asOctet high else none
        | none, some low =>
          if Octets.isBlank first ∨ first = 0x2B then asOctet low
          else if first = 0x2D ∧ low = 0 then some 0 else none
        | none, none => none := by
  cases hfirst : Octets.isBlank first with
  | true =>
    rw [octet?_cons_blank hfirst, octet?_singleton hbase, digit?_of_isBlank hfirst]
    cases digit? base second <;> simp
  | false =>
    cases hsecond : Octets.isBlank second with
    | true =>
      rw [show [first, second] = first :: ([] ++ [second]) from rfl,
        octet?_append_blank hfirst hsecond, octet?_singleton hbase, digit?_of_isBlank hsecond]
      cases digit? base first <;> simp
    | false =>
      have hstrip : Octets.strip [first, second] = [first, second] :=
        strip_of_ends rfl rfl hfirst hsecond
      by_cases hminus : first = 0x2D
      · subst hminus
        rw [octet?_minus hstrip, unsigned?_singleton hbase, show digit? base 0x2D = none from rfl]
        cases digit? base second <;> simp
      · by_cases hplus : first = 0x2B
        · subst hplus
          rw [octet?_plus hstrip, unsigned?_singleton hbase, show digit? base 0x2B = none from rfl]
          cases digit? base second <;> simp
        · rw [octet?_unsigned hstrip (by simpa using hminus) (by simpa using hplus),
            unsigned?_pair hbase]
          cases digit? base first <;> cases digit? base second <;> simp [hminus, hplus]

/-- Three octets of which the first is an octal digit are read if all are digits, and also with
white space behind one or two digits, with an underscore between two, and with the mark. -/
theorem octet?_octalTriple {first : UInt8} {high : Nat} (hfirst : digit? 8 first = some high)
    (second third : UInt8) :
    octet? 8 [first, second, third]
      = match digit? 8 second, digit? 8 third with
        | some middle, some low => asOctet (8 * (8 * high + middle) + low)
        | some middle, none =>
          if Octets.isBlank third then asOctet (8 * high + middle) else none
        | none, some low =>
          if second = 0x5F then asOctet (8 * high + low)
          else if first = 0x30 ∧ (second = 0x6F ∨ second = 0x4F) then asOctet low else none
        | none, none =>
          if Octets.isBlank second ∧ Octets.isBlank third then asOctet high else none := by
  have hbase : (8 : Nat) ≠ 10 := by decide
  have hdigit : (digit? 8 first).isSome = true := by rw [hfirst]; rfl
  have hblank := isBlank_of_digit hdigit
  obtain ⟨hplus, hminus, -⟩ := ne_of_digit hdigit
  cases hthird : Octets.isBlank third with
  | true =>
    rw [show [first, second, third] = first :: ([second] ++ [third]) from rfl,
      octet?_append_blank hblank hthird, octet?_pair hbase, hfirst, digit?_of_isBlank hthird]
    cases digit? 8 second <;> simp
  | false =>
    have hstrip : Octets.strip [first, second, third] = [first, second, third] :=
      strip_of_ends rfl rfl hblank hthird
    rw [octet?_unsigned hstrip (by simpa using hminus) (by simpa using hplus),
      unsigned?_octalTriple hfirst]
    -- An underscore and the marks are no digits.
    by_cases hunderscore : second = 0x5F
    · subst hunderscore
      rw [show digit? 8 0x5F = none from rfl]
      cases digit? 8 third <;> simp
    · by_cases hmarked : first = 0x30 ∧ (second = 0x6F ∨ second = 0x4F)
      · have hmark : digit? 8 second = none := digit?_mark (.inr ⟨rfl, hmarked.2⟩)
        rw [hmark, if_pos hmarked]
        cases digit? 8 third <;> simp [hmarked, hunderscore]
      · rw [if_neg hmarked, if_neg hunderscore]
        cases digit? 8 second <;> cases digit? 8 third <;> simp [hmarked, hunderscore]

end CommitSeal.Numeral
