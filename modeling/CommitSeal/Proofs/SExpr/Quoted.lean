import CommitSeal.SExpr.Advanced
import CommitSeal.Proofs.Octets.BigEndian
import CommitSeal.Proofs.Octets.ShortNumeral
import CommitSeal.Proofs.SExpr.Verbatim

/-!
# Quoted strings

Between quotes an octet is written as it is, by the name of its escape, or by its code in two
hexadecimal or three octal digits, and lines may be continued between octets (`SExpr.Quoted`). The
reader takes each of these forms back (`SExpr.readQuoted_of_quoted`).
-/

namespace CommitSeal.SExpr

open Numeral (digitOctet toNat_digitOctet)

/-! ## The forms of an octet -/

/-- An ASCII hexadecimal digit of either case with the given value. -/
def IsHexDigit (value : Nat) (digit : UInt8) : Prop :=
  value < 16 ∧ (digit.toNat = (Octets.hexDigit value).toNat ∨
    digit.toNat = (Octets.upperHexDigit value).toNat)

/-- The octets whose escapes have names, each with its name. -/
def namedEscapes : List (UInt8 × UInt8) :=
  [(0x08, 0x62), (0x09, 0x74), (0x0B, 0x76), (0x0A, 0x6E), (0x0C, 0x66), (0x0D, 0x72),
    (0x22, 0x22), (0x27, 0x27), (0x5C, 0x5C)]

/-- How an octet is written between quotes. -/
inductive QuotedOctet (octet : UInt8) : Octets → Prop where
  /-- As it is, unless it ends the string or starts an escape. -/
  | literal (hquote : octet ≠ 0x22) (hbackslash : octet ≠ 0x5C) : QuotedOctet octet [octet]
  /-- By the name of its escape. -/
  | named {name : UInt8} (hname : (octet, name) ∈ namedEscapes) : QuotedOctet octet [0x5C, name]
  /-- By two hexadecimal digits. -/
  | hexadecimal {high low : UInt8} (hhigh : IsHexDigit (octet.toNat / 16) high)
      (hlow : IsHexDigit (octet.toNat % 16) low) : QuotedOctet octet [0x5C, 0x78, high, low]
  /-- By three octal digits. -/
  | octal : QuotedOctet octet [0x5C, digitOctet (octet.toNat / 64),
      digitOctet (octet.toNat / 8 % 8), digitOctet (octet.toNat % 8)]

/-- How the end of a continued line is written in front of a text, which must not go on with the
octet that would make one line end of two. -/
inductive LineEnd (behind : Octets) : Octets → Prop where
  | lf (hbehind : behind.head? ≠ some 0x0D) : LineEnd behind [0x0A]
  | cr (hbehind : behind.head? ≠ some 0x0A) : LineEnd behind [0x0D]
  | crlf : LineEnd behind [0x0D, 0x0A]
  | lfcr : LineEnd behind [0x0A, 0x0D]

/-- How octets are written between quotes. -/
inductive Quoted : Octets → Octets → Prop where
  | nil : Quoted [] []
  | octet {octet : UInt8} {value written text : Octets} (hoctet : QuotedOctet octet written)
      (htext : Quoted value text) : Quoted (octet :: value) (written ++ text)
  | continued {value ending text : Octets} (hending : LineEnd text ending)
      (htext : Quoted value text) : Quoted value (0x5C :: (ending ++ text))

/-! ## Codes -/

/-- What holds of both cases of each hexadecimal digit. -/
theorem IsHexDigit.elim {P : Nat → UInt8 → Prop}
    (hlower : ∀ value < 16, P value (UInt8.ofNat (Octets.hexDigit value).toNat))
    (hupper : ∀ value < 16, P value (UInt8.ofNat (Octets.upperHexDigit value).toNat))
    {value : Nat} {digit : UInt8} (hdigit : IsHexDigit value digit) : P value digit := by
  obtain ⟨hvalue, hcode | hcode⟩ := hdigit
  · rw [← UInt8.ofNat_toNat (x := digit), hcode]
    exact hlower value hvalue
  · rw [← UInt8.ofNat_toNat (x := digit), hcode]
    exact hupper value hvalue

/-- A hexadecimal digit is read as its value, whatever its case. -/
theorem digit?_of_isHexDigit {value : Nat} {digit : UInt8} (hdigit : IsHexDigit value digit) :
    Numeral.digit? 16 digit = some value :=
  hdigit.elim (P := fun value digit => Numeral.digit? 16 digit = some value) (by decide) (by decide)

/-- An octet is read from the two hexadecimal digits of its code. -/
theorem octet?_hexadecimal {octet high low : UInt8} (hhigh : IsHexDigit (octet.toNat / 16) high)
    (hlow : IsHexDigit (octet.toNat % 16) low) : Numeral.octet? 16 [high, low] = some octet := by
  rw [Numeral.octet?_pair (by decide), digit?_of_isHexDigit hhigh, digit?_of_isHexDigit hlow]
  show Numeral.asOctet (16 * (octet.toNat / 16) + octet.toNat % 16) = some octet
  rw [Nat.div_add_mod, Numeral.asOctet_toNat]

theorem digit?_digitOctet {value : Nat} (hvalue : value < 8) :
    Numeral.digit? 8 (digitOctet value) = some value := by
  have hall : ∀ value < 8, Numeral.digit? 8 (digitOctet value) = some value := by decide
  exact hall value hvalue

/-- An octet is read from the three octal digits of its code. -/
theorem octet?_octal (octet : UInt8) :
    Numeral.octet? 8 [digitOctet (octet.toNat / 64), digitOctet (octet.toNat / 8 % 8),
      digitOctet (octet.toNat % 8)] = some octet := by
  have hoctet : octet.toNat < 256 := octet.toNat_lt
  rw [Numeral.octet?_octalTriple (digit?_digitOctet (show octet.toNat / 64 < 8 by omega)),
    digit?_digitOctet (show octet.toNat / 8 % 8 < 8 by omega),
    digit?_digitOctet (show octet.toNat % 8 < 8 by omega)]
  have hvalue : 8 * (8 * (octet.toNat / 64) + octet.toNat / 8 % 8) + octet.toNat % 8
      = octet.toNat := by omega
  show Numeral.asOctet (8 * (8 * (octet.toNat / 64) + octet.toNat / 8 % 8) + octet.toNat % 8)
    = some octet
  rw [hvalue, Numeral.asOctet_toNat]

theorem isOctalDigit_digitOctet {value : Nat} (hvalue : value < 8) :
    isOctalDigit (digitOctet value) = true := by
  have hall : ∀ value < 8, isOctalDigit (digitOctet value) = true := by decide
  exact hall value hvalue

/-- An octal digit starts no other escape. -/
theorem of_isOctalDigit {octet : UInt8} (hoctal : isOctalDigit octet = true) :
    namedEscape? octet = none ∧ octet ≠ 0x78 := by
  revert hoctal
  apply Octets.forall_octet_lt _ octet octet.toNat_lt
  decide +kernel

/-- The reader knows the named escapes. -/
theorem namedEscape?_of_mem {octet name : UInt8} (hname : (octet, name) ∈ namedEscapes) :
    namedEscape? name = some octet := by
  have hall : (namedEscapes.all fun entry => namedEscape? entry.2 == some entry.1) = true := by
    decide
  exact beq_iff_eq.mp (List.all_eq_true.mp hall (octet, name) hname)

/-- The reader knows no others. -/
theorem mem_of_namedEscape? {octet name : UInt8} (hescape : namedEscape? name = some octet) :
    (octet, name) ∈ namedEscapes := by
  have hall : (namedEscape? name).all fun octet => decide ((octet, name) ∈ namedEscapes) := by
    apply Octets.forall_octet_lt _ name name.toNat_lt
    decide +kernel
  rw [hescape] at hall
  exact of_decide_eq_true hall

/-! ## Reading -/

/-- The end of a line is told by what comes behind it, be it the closing quote. -/
theorem LineEnd.append {text ending : Octets} (hending : LineEnd text ending) (rest : Octets) :
    LineEnd (text ++ 0x22 :: rest) ending := by
  have hhead : ∀ octet : UInt8, octet ≠ 0x22 → text.head? ≠ some octet →
      (text ++ 0x22 :: rest).head? ≠ some octet := by
    intro octet hquote hne
    cases text with
    | nil => exact fun h => hquote (Option.some.inj h).symm
    | cons next text => exact hne
  cases hending with
  | lf hbehind => exact .lf (hhead 0x0D (by decide) hbehind)
  | cr hbehind => exact .cr (hhead 0x0A (by decide) hbehind)
  | crlf => exact .crlf
  | lfcr => exact .lfcr

section Reading

variable (offset : Nat) (value : Octets)

/-- The two octets behind an `x` must be read as an octet. -/
theorem readQuoted_hexadecimal (first second : UInt8) (rest : Octets) :
    readQuoted offset value (0x5C :: 0x78 :: first :: second :: rest)
      = match Numeral.octet? 16 [first, second] with
        | none => .error (.hexEscape (offset + 1))
        | some octet => readQuoted (offset + 4) (octet :: value) rest := by
  have hescape : namedEscape? 0x78 = none := rfl
  rw [readQuoted.eq_def]
  simp only [hescape]
  cases Numeral.octet? 16 [first, second] <;> rfl

/-- An octal digit and the two octets behind it must be read as an octet. -/
theorem readQuoted_octal {first : UInt8} (hoctal : isOctalDigit first = true)
    (second third : UInt8) (rest : Octets) :
    readQuoted offset value (0x5C :: first :: second :: third :: rest)
      = match Numeral.octet? 8 [first, second, third] with
        | none => .error (.octalEscape (offset + 1))
        | some octet => readQuoted (offset + 4) (octet :: value) rest := by
  obtain ⟨hescape, hne⟩ := of_isOctalDigit hoctal
  rw [readQuoted.eq_def]
  simp only [hescape, if_neg hne, if_pos hoctal]
  cases Numeral.octet? 8 [first, second, third] <;> rfl

/-- One octet, in whichever form, is added to what was read before. -/
theorem readQuoted_octet {octet : UInt8} {written : Octets} (hoctet : QuotedOctet octet written)
    (rest : Octets) :
    readQuoted offset value (written ++ rest)
      = readQuoted (offset + written.length) (octet :: value) rest := by
  cases hoctet with
  | literal hquote hbackslash =>
    rw [readQuoted.eq_def]
    simp [hquote, hbackslash]
  | named hname =>
    rw [readQuoted.eq_def]
    simp [namedEscape?_of_mem hname]
  | @hexadecimal high low hhigh hlow =>
    show readQuoted offset value (0x5C :: 0x78 :: high :: low :: rest) = _
    rw [readQuoted_hexadecimal, octet?_hexadecimal hhigh hlow]
    rfl
  | octal =>
    have hlimit : octet.toNat < 256 := octet.toNat_lt
    have hfirst := isOctalDigit_digitOctet (show octet.toNat / 64 < 8 by omega)
    show readQuoted offset value (0x5C :: digitOctet (octet.toNat / 64)
      :: digitOctet (octet.toNat / 8 % 8) :: digitOctet (octet.toNat % 8) :: rest) = _
    rw [readQuoted_octal offset value hfirst, octet?_octal octet]
    rfl

/-- The end of a continued line adds nothing. -/
theorem readQuoted_lineEnd {behind ending : Octets} (hending : LineEnd behind ending) :
    readQuoted offset value (0x5C :: (ending ++ behind))
      = readQuoted (offset + 1 + ending.length) value behind := by
  have hescapes : namedEscape? 0x0A = none ∧ namedEscape? 0x0D = none := ⟨rfl, rfl⟩
  have hdigits : isOctalDigit 0x0A = false ∧ isOctalDigit 0x0D = false := ⟨rfl, rfl⟩
  rw [readQuoted.eq_def]
  cases hending with
  | lf hbehind =>
    cases behind with
    | nil => simp [hescapes.1, hdigits.1, readQuoted]
    | cons next behind =>
      have hnext : next ≠ 0x0D := fun h => hbehind (by rw [h]; rfl)
      simp [hescapes.1, hdigits.1, hnext]
  | cr hbehind =>
    cases behind with
    | nil => simp [hescapes.2, hdigits.2, readQuoted]
    | cons next behind =>
      have hnext : next ≠ 0x0A := fun h => hbehind (by rw [h]; rfl)
      simp [hescapes.2, hdigits.2, hnext]
  | crlf => simp [hescapes.2, hdigits.2]
  | lfcr => simp [hescapes.1, hdigits.1]

end Reading

/-- What is written between quotes is read back, up to the closing quote. -/
theorem readQuoted_of_quoted {octets text : Octets} (hquoted : Quoted octets text) (rest : Octets) :
    ∀ (offset : Nat) (value : Octets),
      readQuoted offset value (text ++ 0x22 :: rest)
        = .ok (value.reverse ++ octets, offset + text.length + 1) := by
  induction hquoted with
  | nil =>
    intro offset value
    rw [readQuoted.eq_def]
    simp
  | octet hoctet htext ih =>
    intro offset value
    rw [List.append_assoc, readQuoted_octet offset value hoctet, ih, List.reverse_cons,
      List.append_assoc, List.singleton_append, List.length_append, Nat.add_assoc offset]
  | @continued value ending text hending htext ih =>
    intro offset value
    rw [List.cons_append, List.append_assoc,
      readQuoted_lineEnd offset value (hending.append rest), ih, List.length_cons,
      List.length_append]
    rw [show offset + 1 + ending.length + text.length = offset + (ending.length + text.length + 1)
      by omega]

end CommitSeal.SExpr
