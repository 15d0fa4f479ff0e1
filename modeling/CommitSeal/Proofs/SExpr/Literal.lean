import CommitSeal.Proofs.SExpr.Quoted

/-!
# Hexadecimal and base64 literals

Both kinds of literals are digits between two delimiters, and white space may stand anywhere among
the digits (`SExpr.Spaced`). The reader takes back the octets that the digits were written for
(`SExpr.readDelimited_hexadecimal`, `SExpr.readDelimited_base64`).
-/

namespace CommitSeal

/-! ## Base64 -/

namespace Base64

theorem value?_digit {value : Nat} (hvalue : value < 64) : value? (digit value) = some value := by
  have hall : ∀ value < 64, value? (digit value) = some value := by decide
  exact hall value hvalue

/-- A digit is no padding, and does not end a literal. -/
theorem digit_ne {value : Nat} (hvalue : value < 64) : digit value ≠ pad ∧ digit value ≠ 0x7C := by
  have hall : ∀ value < 64, digit value ≠ pad ∧ digit value ≠ 0x7C := by decide
  exact hall value hvalue

/-- What is written for octets starts with a digit. -/
theorem encode_cons_ne_pad (octet : UInt8) (rest : Octets) :
    ∃ first more, encode (octet :: rest) = first :: more ∧ first ≠ pad := by
  have hfirst : octet.toNat / 4 < 64 := by
    have hoctet : octet.toNat < 256 := octet.toNat_lt
    omega
  rcases rest with _ | ⟨second, _ | ⟨third, rest⟩⟩
  · exact ⟨_, _, rfl, (digit_ne hfirst).1⟩
  · exact ⟨_, _, rfl, (digit_ne hfirst).1⟩
  · exact ⟨_, _, rfl, (digit_ne hfirst).1⟩

theorem ofNat_eq {octet : UInt8} {code : Nat} (hcode : code % 256 = octet.toNat) :
    UInt8.ofNat code = octet := by
  rw [← UInt8.toNat_inj, UInt8.toNat_ofNat']
  exact hcode

/-- The strict reader takes back what is written. -/
theorem decode?_encode (octets : Octets) : decode? (encode octets) = some octets := by
  induction octets using encode.induct with
  | case1 => rfl
  | case2 a =>
    have ha : a.toNat < 256 := a.toNat_lt
    have hfirst := value?_digit (show a.toNat / 4 < 64 by omega)
    have hsecond := value?_digit (show a.toNat % 4 * 16 < 64 by omega)
    have hwhole : UInt8.ofNat (a.toNat / 4 * 4 + a.toNat % 4 * 16 / 16) = a := ofNat_eq (by omega)
    simp only [encode, decode?, hfirst, hsecond, hwhole, if_true, and_true]
  | case3 a b =>
    have ha : a.toNat < 256 := a.toNat_lt
    have hb : b.toNat < 256 := b.toNat_lt
    have hfirst := value?_digit (show a.toNat / 4 < 64 by omega)
    have hsecond := value?_digit (show a.toNat % 4 * 16 + b.toNat / 16 < 64 by omega)
    have hthird := value?_digit (show b.toNat % 16 * 4 < 64 by omega)
    have hnopad := (digit_ne (show b.toNat % 16 * 4 < 64 by omega)).1
    have hwhole : UInt8.ofNat (a.toNat / 4 * 4 + (a.toNat % 4 * 16 + b.toNat / 16) / 16) = a :=
      ofNat_eq (by omega)
    have hwhole' : UInt8.ofNat ((a.toNat % 4 * 16 + b.toNat / 16) * 16
        + b.toNat % 16 * 4 / 4) = b := ofNat_eq (by omega)
    simp only [encode, decode?, hfirst, hsecond, hthird, hnopad, hwhole, hwhole', if_true, if_false]
  | case4 a b c rest ih =>
    have ha : a.toNat < 256 := a.toNat_lt
    have hb : b.toNat < 256 := b.toNat_lt
    have hc : c.toNat < 256 := c.toNat_lt
    have hfirst := value?_digit (show a.toNat / 4 < 64 by omega)
    have hsecond := value?_digit (show a.toNat % 4 * 16 + b.toNat / 16 < 64 by omega)
    have hthird := value?_digit (show b.toNat % 16 * 4 + c.toNat / 64 < 64 by omega)
    have hfourth := value?_digit (show c.toNat % 64 < 64 by omega)
    have hnopad := (digit_ne (show b.toNat % 16 * 4 + c.toNat / 64 < 64 by omega)).1
    have hnopad' := (digit_ne (show c.toNat % 64 < 64 by omega)).1
    have hwhole : UInt8.ofNat (a.toNat / 4 * 4 + (a.toNat % 4 * 16 + b.toNat / 16) / 16) = a :=
      ofNat_eq (by omega)
    have hwhole' : UInt8.ofNat ((a.toNat % 4 * 16 + b.toNat / 16) * 16
        + (b.toNat % 16 * 4 + c.toNat / 64) / 4) = b := ofNat_eq (by omega)
    have hwhole'' : UInt8.ofNat ((b.toNat % 16 * 4 + c.toNat / 64) * 64 + c.toNat % 64) = c :=
      ofNat_eq (by omega)
    simp only [encode, decode?, hfirst, hsecond, hthird, hfourth, hnopad, hnopad', hwhole, hwhole',
      hwhole'', if_false]
    -- Behind a full group there is another one, and no padding in front of it, or nothing.
    cases rest with
    | nil => rfl
    | cons octet rest =>
      obtain ⟨first, more, hencode, hpad⟩ := encode_cons_ne_pad octet rest
      have hgroup : ¬ (encode (octet :: rest)).all (· = pad) = true := by
        intro hall
        rw [hencode, List.all_cons, Bool.and_eq_true, decide_eq_true_eq] at hall
        exact hpad hall.1
      rw [if_neg hgroup, ih]
      rfl

/-- What is written does not hold the delimiter of literals. -/
theorem encode_ne_delimiter (octets : Octets) : ∀ octet ∈ encode octets, octet ≠ 0x7C := by
  have hpad : pad ≠ 0x7C := by decide
  induction octets using encode.induct with
  | case1 =>
    intro octet hoctet
    cases hoctet
  | case2 a =>
    have ha : a.toNat < 256 := a.toNat_lt
    simp only [encode, List.forall_mem_cons]
    refine ⟨(digit_ne ?_).2, (digit_ne ?_).2, hpad, hpad, ?_⟩
    · omega
    · omega
    · simp
  | case3 a b =>
    have ha : a.toNat < 256 := a.toNat_lt
    have hb : b.toNat < 256 := b.toNat_lt
    simp only [encode, List.forall_mem_cons]
    refine ⟨(digit_ne ?_).2, (digit_ne ?_).2, (digit_ne ?_).2, hpad, ?_⟩
    · omega
    · omega
    · omega
    · simp
  | case4 a b c rest ih =>
    have ha : a.toNat < 256 := a.toNat_lt
    have hb : b.toNat < 256 := b.toNat_lt
    have hc : c.toNat < 256 := c.toNat_lt
    simp only [encode, List.forall_mem_cons]
    refine ⟨(digit_ne ?_).2, (digit_ne ?_).2, (digit_ne ?_).2, (digit_ne ?_).2, ih⟩ <;> omega

end Base64

namespace SExpr

/-! ## Hexadecimal digits -/

/-- Two hexadecimal digits for each octet, in any letter case. -/
inductive Hexadecimal : Octets → Octets → Prop where
  | nil : Hexadecimal [] []
  | cons {octet high low : UInt8} {value digits : Octets}
      (hhigh : IsHexDigit (octet.toNat / 16) high) (hlow : IsHexDigit (octet.toNat % 16) low)
      (hrest : Hexadecimal value digits) : Hexadecimal (octet :: value) (high :: low :: digits)

theorem hexValue?_of_isHexDigit {value : Nat} {digit : UInt8} (hdigit : IsHexDigit value digit) :
    Octets.hexValue? digit = some value :=
  hdigit.elim (P := fun value digit => Octets.hexValue? digit = some value) (by decide) (by decide)

theorem ne_delimiter_of_isHexDigit {value : Nat} {digit : UInt8}
    (hdigit : IsHexDigit value digit) : digit ≠ 0x23 :=
  hdigit.elim (P := fun _ digit => digit ≠ 0x23) (by decide) (by decide)

theorem ofHex?_of_hexadecimal {value digits : Octets} (hdigits : Hexadecimal value digits) :
    Octets.ofHex? digits = some value := by
  induction hdigits with
  | nil => rfl
  | @cons octet high low value digits hhigh hlow hrest ih =>
    have hcode : 16 * (octet.toNat / 16) + octet.toNat % 16 = octet.toNat := by omega
    rw [Octets.ofHex?, hexValue?_of_isHexDigit hhigh, hexValue?_of_isHexDigit hlow]
    simp only [ih, hcode, UInt8.ofNat_toNat, Option.map_some]

theorem Hexadecimal.ne_delimiter {value digits : Octets} (hdigits : Hexadecimal value digits) :
    ∀ octet ∈ digits, octet ≠ 0x23 := by
  induction hdigits with
  | nil =>
    intro octet hoctet
    cases hoctet
  | cons hhigh hlow _ ih =>
    simp only [List.forall_mem_cons]
    exact ⟨ne_delimiter_of_isHexDigit hhigh, ne_delimiter_of_isHexDigit hlow, ih⟩

/-! ## Between delimiters -/

/-- A text of digits with white space anywhere among them. -/
def Spaced (digits text : Octets) : Prop :=
  text.filter (fun octet => !Octets.isBlank octet) = digits

/-- Neither the digits nor the white space among them ends a literal. -/
theorem Spaced.ne_delimiter {digits text : Octets} {delimiter : UInt8}
    (hspaced : Spaced digits text) (hdelimiter : Octets.isBlank delimiter = false)
    (hdigits : ∀ octet ∈ digits, octet ≠ delimiter) : ∀ octet ∈ text, octet ≠ delimiter := by
  intro octet hoctet
  cases hblank : Octets.isBlank octet with
  | true =>
    rintro rfl
    rw [hdelimiter] at hblank
    cases hblank
  | false =>
    have hdigit : octet ∈ digits := by
      rw [← hspaced, List.mem_filter, hblank]
      exact ⟨hoctet, rfl⟩
    exact hdigits octet hdigit

/-- A literal goes to its second delimiter, and its value is that of its digits. -/
theorem readDelimited_of_spaced {digits text octets : Octets} {delimiter : UInt8}
    (hspaced : Spaced digits text) (hdelimiter : Octets.isBlank delimiter = false)
    (hdigits : ∀ octet ∈ digits, octet ≠ delimiter)
    (hvalue : (if delimiter = 0x23 then Octets.ofHex? digits else Base64.decode? digits)
      = some octets) (offset : Nat) (rest : Octets) :
    readDelimited offset delimiter (text ++ delimiter :: rest) = .ok (octets, text.length + 1) := by
  have hinside : (text ++ delimiter :: rest).takeWhile (· != delimiter) = text := by
    have htext := hspaced.ne_delimiter hdelimiter hdigits
    rw [List.takeWhile_append_of_pos fun octet hoctet => bne_iff_ne.mpr (htext octet hoctet)]
    simp
  have hlength : text.length ≠ (text ++ delimiter :: rest).length := by
    rw [List.length_append, List.length_cons]
    omega
  unfold readDelimited
  simp only [hinside, if_neg hlength]
  rw [show text.filter (fun octet => !Octets.isBlank octet) = digits from hspaced, hvalue]

/-- A hexadecimal literal is read back. -/
theorem readDelimited_hexadecimal {octets digits text : Octets}
    (hdigits : Hexadecimal octets digits) (hspaced : Spaced digits text) (offset : Nat)
    (rest : Octets) :
    readDelimited offset 0x23 (text ++ 0x23 :: rest) = .ok (octets, text.length + 1) :=
  readDelimited_of_spaced hspaced rfl hdigits.ne_delimiter (ofHex?_of_hexadecimal hdigits) offset
    rest

/-- A base64 literal is read back. -/
theorem readDelimited_base64 {octets text : Octets} (hspaced : Spaced (Base64.encode octets) text)
    (offset : Nat) (rest : Octets) :
    readDelimited offset 0x7C (text ++ 0x7C :: rest) = .ok (octets, text.length + 1) :=
  readDelimited_of_spaced hspaced rfl (Base64.encode_ne_delimiter octets)
    (Base64.decode?_encode octets) offset rest

end SExpr

end CommitSeal
