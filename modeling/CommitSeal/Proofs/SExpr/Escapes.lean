import CommitSeal.Proofs.SExpr.Quoted

/-!
# Which escapes are read

The reader of quoted strings goes by the first octets of what is in front of it. It takes the two
octets behind `\x`, and the two behind a backslash and an octal digit, for more digits whatever they
are, so that a text is cut into pieces (`SExpr.Cut`) before it is known whether their digits are
any.

An escape should have exactly two hexadecimal digits, or exactly three octal ones that make an octet
(`Piece.WellFormed`). But the reader gives its octets to the grammar of integer texts, which allows
for more than digits. There are eight ways to write a loose escape (`Piece.Loose`): they pass the
reader, and everything else is refused at the place of the escape (`SExpr.readQuoted_escapes`).
White space and one digit behind `\x` are enough (`SExpr.not_forall_wellFormed`).
-/

namespace CommitSeal.SExpr

/-! ## Pieces -/

/-- What the reader takes at once between quotes. -/
inductive Piece where
  /-- An octet as it is. -/
  | literal (octet : UInt8)
  /-- The escape of an octet by its name. -/
  | named (octet name : UInt8)
  /-- An `x` and two octets. -/
  | hexadecimal (first second : UInt8)
  /-- An octal digit and two octets. -/
  | octal (first second third : UInt8)
  /-- The end of a continued line. -/
  | continued (ending : Octets)

namespace Piece

/-- What is written for a piece. -/
def text : Piece → Octets
  | literal octet => [octet]
  | named _ name => [0x5C, name]
  | hexadecimal first second => [0x5C, 0x78, first, second]
  | octal first second third => [0x5C, first, second, third]
  | continued ending => 0x5C :: ending

/-- The octet whose code is made by the digits in a text, whatever else is in it. -/
def codeOctet (base : Nat) (text : Octets) : UInt8 :=
  UInt8.ofNat (Numeral.valueOf base (text.filter fun octet => (Numeral.digit? base octet).isSome))

/-- What a piece stands for. -/
def octets : Piece → Octets
  | literal octet => [octet]
  | named octet _ => [octet]
  | hexadecimal first second => [codeOctet 16 [first, second]]
  | octal first second third => [codeOctet 8 [first, second, third]]
  | continued _ => []

/-- A piece is cut off in front of other text, by its first octets alone. -/
inductive CutOff (behind : Octets) : Piece → Prop where
  | literal {octet : UInt8} (hquote : octet ≠ 0x22) (hbackslash : octet ≠ 0x5C) :
      CutOff behind (.literal octet)
  | named {octet name : UInt8} (hname : (octet, name) ∈ namedEscapes) :
      CutOff behind (.named octet name)
  | hexadecimal (first second : UInt8) : CutOff behind (.hexadecimal first second)
  | octal {first : UInt8} (hfirst : isOctalDigit first = true) (second third : UInt8) :
      CutOff behind (.octal first second third)
  | continued {ending : Octets} (hending : LineEnd behind ending) :
      CutOff behind (.continued ending)

/-- A hexadecimal escape has exactly two hexadecimal digits, an octal one exactly three octal digits
with a value of at most 255. -/
def WellFormed : Piece → Prop
  | hexadecimal first second =>
    (∃ value, IsHexDigit value first) ∧ ∃ value, IsHexDigit value second
  | octal first second third =>
    isOctalDigit first = true ∧ isOctalDigit second = true ∧ isOctalDigit third = true ∧
      Numeral.valueOf 8 [first, second, third] ≤ 255
  | _ => True

/-- What else passes for an escape. -/
inductive Loose : Piece → Prop where
  /-- White space in front of a hexadecimal digit. -/
  | blankDigit {blank digit value} (hblank : Octets.isBlank blank = true)
      (hdigit : IsHexDigit value digit) : Loose (.hexadecimal blank digit)
  /-- White space behind a hexadecimal digit. -/
  | digitBlank {digit blank value} (hdigit : IsHexDigit value digit)
      (hblank : Octets.isBlank blank = true) : Loose (.hexadecimal digit blank)
  /-- A plus sign in front of a hexadecimal digit. -/
  | plusDigit {digit value} (hdigit : IsHexDigit value digit) : Loose (.hexadecimal 0x2B digit)
  /-- A minus sign in front of zero. -/
  | minusZero : Loose (.hexadecimal 0x2D 0x30)
  /-- White space behind two octal digits. -/
  | digitsBlank {first second blank} (hfirst : isOctalDigit first = true)
      (hsecond : isOctalDigit second = true) (hblank : Octets.isBlank blank = true) :
      Loose (.octal first second blank)
  /-- White space behind one octal digit. -/
  | digitBlanks {digit blank blank'} (hdigit : isOctalDigit digit = true)
      (hblank : Octets.isBlank blank = true) (hblank' : Octets.isBlank blank' = true) :
      Loose (.octal digit blank blank')
  /-- An underscore between two octal digits. -/
  | underscore {first third} (hfirst : isOctalDigit first = true)
      (hthird : isOctalDigit third = true) : Loose (.octal first 0x5F third)
  /-- The mark of base 8 in front of an octal digit. -/
  | marked {mark digit} (hmark : mark = 0x6F ∨ mark = 0x4F) (hdigit : isOctalDigit digit = true) :
      Loose (.octal 0x30 mark digit)

/-- A piece passes the reader. -/
def Passes (piece : Piece) : Prop := piece.WellFormed ∨ piece.Loose

/-- Why a piece that does not pass is refused. -/
def refusal (offset : Nat) : Piece → ReadError
  | octal _ _ _ => .octalEscape offset
  | _ => .hexEscape offset

end Piece

/-- A text is cut into pieces, up to what stands behind them. -/
inductive Cut (behind : Octets) : List Piece → Octets → Prop where
  | nil : Cut behind [] behind
  | cons {piece : Piece} {pieces : List Piece} {text : Octets} (hpiece : piece.CutOff text)
      (hpieces : Cut behind pieces text) : Cut behind (piece :: pieces) (piece.text ++ text)

/-! ## Digits -/

theorem digit?_eq_some_iff {octet : UInt8} {value : Nat} :
    Numeral.digit? 16 octet = some value ↔ IsHexDigit value octet := by
  constructor
  · intro hdigit
    have hall : ∀ value < 16, Numeral.digit? 16 octet = some value →
        octet.toNat = (Octets.hexDigit value).toNat ∨
          octet.toNat = (Octets.upperHexDigit value).toNat := by
      apply Octets.forall_octet_lt _ octet octet.toNat_lt
      decide +kernel
    have hvalue := Numeral.digit?_lt hdigit
    exact ⟨hvalue, hall value hvalue hdigit⟩
  · exact digit?_of_isHexDigit

theorem isOctalDigit_iff {octet : UInt8} :
    isOctalDigit octet = true ↔ ∃ value, Numeral.digit? 8 octet = some value := by
  rw [← Option.isSome_iff_exists]
  apply Octets.forall_octet_lt _ octet octet.toNat_lt
  decide +kernel

/-- One hexadecimal digit makes an octet by itself. -/
theorem asOctet_of_isHexDigit {value : Nat} {digit : UInt8} (hdigit : IsHexDigit value digit) :
    Numeral.asOctet value = some (UInt8.ofNat value) :=
  if_pos (Nat.lt_trans hdigit.1 (by decide))

/-- Zero has one digit. -/
theorem eq_of_isHexDigit_zero {digit : UInt8} (hdigit : IsHexDigit 0 digit) : digit = 0x30 := by
  obtain ⟨-, hcode | hcode⟩ := hdigit
  · exact UInt8.toNat_inj.mp hcode
  · exact UInt8.toNat_inj.mp hcode

namespace Piece

/-- No escape is both well formed and loose: one of the octets of a loose one is no digit. -/
theorem Loose.not_wellFormed {piece : Piece} (hloose : piece.Loose) : ¬ piece.WellFormed := by
  have hnot : ∀ {value octet}, Numeral.digit? 16 octet = none → ¬ IsHexDigit value octet := by
    intro value octet hnone hdigit
    rw [digit?_of_isHexDigit hdigit] at hnone
    cases hnone
  have hnot' : ∀ {octet}, Numeral.digit? 8 octet = none → ¬ isOctalDigit octet = true := by
    intro octet hnone hdigit
    obtain ⟨value, hvalue⟩ := isOctalDigit_iff.mp hdigit
    rw [hnone] at hvalue
    cases hvalue
  intro hformed
  cases hloose with
  | blankDigit hblank hdigit =>
    obtain ⟨⟨_, hfirst⟩, -⟩ := hformed
    exact hnot (Numeral.digit?_of_isBlank hblank) hfirst
  | digitBlank hdigit hblank =>
    obtain ⟨-, _, hsecond⟩ := hformed
    exact hnot (Numeral.digit?_of_isBlank hblank) hsecond
  | plusDigit hdigit =>
    obtain ⟨⟨_, hfirst⟩, -⟩ := hformed
    exact hnot rfl hfirst
  | minusZero =>
    obtain ⟨⟨_, hfirst⟩, -⟩ := hformed
    exact hnot rfl hfirst
  | digitsBlank hfirst hsecond hblank =>
    obtain ⟨-, -, hthird, -⟩ := hformed
    exact hnot' (Numeral.digit?_of_isBlank hblank) hthird
  | digitBlanks hdigit hblank hblank' =>
    obtain ⟨-, hsecond, -⟩ := hformed
    exact hnot' (Numeral.digit?_of_isBlank hblank) hsecond
  | underscore hfirst hthird =>
    obtain ⟨-, hsecond, -⟩ := hformed
    exact hnot' rfl hsecond
  | marked hmark hdigit =>
    obtain ⟨-, hsecond, -⟩ := hformed
    exact hnot' (Numeral.digit?_mark (.inr ⟨rfl, hmark⟩)) hsecond

/-! ## What passes for an octet -/

section Hexadecimal

variable {first second : UInt8}

/-- The two octets of an escape that passes are read as what it stands for. -/
theorem octet?_hexadecimal_of_passes (hpasses : (hexadecimal first second).Passes) :
    Numeral.octet? 16 [first, second] = some (codeOctet 16 [first, second]) := by
  rw [Numeral.octet?_pair (by decide)]
  rcases hpasses with ⟨⟨high, hhigh⟩, low, hlow⟩ | hloose
  · have hvalue : 16 * high + low < 256 := by
      have hfirst := hhigh.1
      have hsecond := hlow.1
      omega
    simp [codeOctet, Numeral.valueOf, digit?_of_isHexDigit hhigh, digit?_of_isHexDigit hlow,
      Numeral.asOctet, hvalue]
  · cases hloose with
    | blankDigit hblank hdigit =>
      simp [codeOctet, Numeral.valueOf, digit?_of_isHexDigit hdigit,
        Numeral.digit?_of_isBlank hblank, hblank, asOctet_of_isHexDigit hdigit]
    | digitBlank hdigit hblank =>
      simp [codeOctet, Numeral.valueOf, digit?_of_isHexDigit hdigit,
        Numeral.digit?_of_isBlank hblank, hblank, asOctet_of_isHexDigit hdigit]
    | plusDigit hdigit =>
      have hplus : Numeral.digit? 16 0x2B = none := rfl
      simp [codeOctet, Numeral.valueOf, digit?_of_isHexDigit hdigit, hplus,
        asOctet_of_isHexDigit hdigit]
    | minusZero => rfl

/-- Two octets are read only if they are those of an escape that passes. -/
theorem passes_of_octet?_hexadecimal {octet : UInt8}
    (hread : Numeral.octet? 16 [first, second] = some octet) :
    (hexadecimal first second).Passes := by
  rw [Numeral.octet?_pair (by decide)] at hread
  cases hfirst : Numeral.digit? 16 first with
  | some high =>
    have hhigh := digit?_eq_some_iff.mp hfirst
    cases hsecond : Numeral.digit? 16 second with
    | some low => exact .inl ⟨⟨high, hhigh⟩, low, digit?_eq_some_iff.mp hsecond⟩
    | none =>
      simp only [hfirst, hsecond] at hread
      split at hread
      · exact .inr (.digitBlank hhigh ‹_›)
      · cases hread
  | none =>
    cases hsecond : Numeral.digit? 16 second with
    | some low =>
      have hlow := digit?_eq_some_iff.mp hsecond
      simp only [hfirst, hsecond] at hread
      split at hread
      · rename_i hpositive
        rcases hpositive with hblank | rfl
        · exact .inr (.blankDigit hblank hlow)
        · exact .inr (.plusDigit hlow)
      · split at hread
        · rename_i hminus
          obtain ⟨rfl, rfl⟩ := hminus
          rw [eq_of_isHexDigit_zero hlow]
          exact .inr .minusZero
        · cases hread
    | none =>
      simp only [hfirst, hsecond] at hread
      cases hread

end Hexadecimal

section Octal

variable {first second third : UInt8} (hoctal : isOctalDigit first = true)

include hoctal

/-- The three octets of an escape that passes are read as what it stands for. -/
theorem octet?_octal_of_passes (hpasses : (octal first second third).Passes) :
    Numeral.octet? 8 [first, second, third] = some (codeOctet 8 [first, second, third]) := by
  obtain ⟨high, hhigh⟩ := isOctalDigit_iff.mp hoctal
  have hfirst := Numeral.digit?_lt hhigh
  rw [Numeral.octet?_octalTriple hhigh]
  rcases hpasses with ⟨-, hsecond, hthird, hvalue⟩ | hloose
  · obtain ⟨middle, hmiddle⟩ := isOctalDigit_iff.mp hsecond
    obtain ⟨low, hlow⟩ := isOctalDigit_iff.mp hthird
    have hlimit : 8 * (8 * high + middle) + low < 256 := by
      simp only [Numeral.valueOf, List.foldl_cons, List.foldl_nil, hhigh, hmiddle, hlow,
        Option.getD_some] at hvalue
      omega
    simp [codeOctet, Numeral.valueOf, hhigh, hmiddle, hlow, Numeral.asOctet, hlimit]
  · cases hloose with
    | digitsBlank _ hsecond hblank =>
      obtain ⟨low, hlow⟩ := isOctalDigit_iff.mp hsecond
      have hsecond := Numeral.digit?_lt hlow
      have hvalue : 8 * high + low < 256 := by omega
      simp [codeOctet, Numeral.valueOf, hhigh, hlow, Numeral.digit?_of_isBlank hblank, hblank,
        Numeral.asOctet, hvalue]
    | digitBlanks _ hblank hblank' =>
      have hvalue : high < 256 := by omega
      simp [codeOctet, Numeral.valueOf, hhigh, Numeral.digit?_of_isBlank hblank,
        Numeral.digit?_of_isBlank hblank', hblank, hblank', Numeral.asOctet, hvalue]
    | underscore _ hthird =>
      obtain ⟨low, hlow⟩ := isOctalDigit_iff.mp hthird
      have hthird := Numeral.digit?_lt hlow
      have hvalue : 8 * high + low < 256 := by omega
      have hunderscore : Numeral.digit? 8 0x5F = none := rfl
      simp [codeOctet, Numeral.valueOf, hhigh, hlow, hunderscore, Numeral.asOctet, hvalue]
    | marked hmark hthird =>
      obtain ⟨low, hlow⟩ := isOctalDigit_iff.mp hthird
      have hvalue := Nat.lt_trans (Numeral.digit?_lt hlow) (show 8 < 256 by decide)
      have hletter : second ≠ 0x5F := by rcases hmark with rfl | rfl <;> decide
      -- The zero in front of the mark adds nothing.
      obtain rfl : 0 = high := Option.some.inj hhigh
      simp [codeOctet, Numeral.valueOf, hhigh, hlow, Numeral.digit?_mark (.inr ⟨rfl, hmark⟩),
        hmark, hletter, Numeral.asOctet, hvalue]

/-- Three octets, the first of them an octal digit, are read only if they are those of an escape
that passes. -/
theorem passes_of_octet?_octal {octet : UInt8}
    (hread : Numeral.octet? 8 [first, second, third] = some octet) :
    (octal first second third).Passes := by
  obtain ⟨high, hhigh⟩ := isOctalDigit_iff.mp hoctal
  rw [Numeral.octet?_octalTriple hhigh] at hread
  cases hsecond : Numeral.digit? 8 second with
  | some middle =>
    have hmiddle := isOctalDigit_iff.mpr ⟨middle, hsecond⟩
    cases hthird : Numeral.digit? 8 third with
    | some low =>
      simp only [hsecond, hthird, Numeral.asOctet] at hread
      split at hread
      · refine .inl ⟨hoctal, hmiddle, isOctalDigit_iff.mpr ⟨low, hthird⟩, ?_⟩
        simp only [Numeral.valueOf, List.foldl_cons, List.foldl_nil, hhigh, hsecond, hthird,
          Option.getD_some]
        omega
      · cases hread
    | none =>
      simp only [hsecond, hthird] at hread
      split at hread
      · exact .inr (.digitsBlank hoctal hmiddle ‹_›)
      · cases hread
  | none =>
    cases hthird : Numeral.digit? 8 third with
    | some low =>
      have hlow := isOctalDigit_iff.mpr ⟨low, hthird⟩
      simp only [hsecond, hthird] at hread
      split at hread
      · rename_i hunderscore
        rw [hunderscore]
        exact .inr (.underscore hoctal hlow)
      · split at hread
        · rename_i hmarked
          obtain ⟨rfl, hmark⟩ := hmarked
          exact .inr (.marked hmark hlow)
        · cases hread
    | none =>
      simp only [hsecond, hthird] at hread
      split at hread
      · rename_i hblanks
        exact .inr (.digitBlanks hoctal hblanks.1 hblanks.2)
      · cases hread

end Octal

/-! ## One piece -/

section Reading

variable {piece : Piece} {behind : Octets} (hcut : piece.CutOff behind) (offset : Nat)
  (value : Octets)

include hcut

/-- A piece that passes adds what it stands for. -/
theorem readQuoted_of_passes (hpasses : piece.Passes) :
    readQuoted offset value (piece.text ++ behind)
      = readQuoted (offset + piece.text.length) (piece.octets.reverse ++ value) behind := by
  cases hcut with
  | literal hquote hbackslash =>
    exact readQuoted_octet offset value (.literal hquote hbackslash) behind
  | named hname => exact readQuoted_octet offset value (.named hname) behind
  | hexadecimal first second =>
    show readQuoted offset value (0x5C :: 0x78 :: first :: second :: behind) = _
    rw [readQuoted_hexadecimal, octet?_hexadecimal_of_passes hpasses]
    rfl
  | @octal first hfirst second third =>
    show readQuoted offset value (0x5C :: first :: second :: third :: behind) = _
    rw [readQuoted_octal offset value hfirst, octet?_octal_of_passes hfirst hpasses]
    rfl
  | @continued ending hending =>
    show readQuoted offset value (0x5C :: (ending ++ behind)) = _
    rw [readQuoted_lineEnd offset value hending, Nat.add_assoc, Nat.add_comm 1]
    rfl

/-- Any other piece is refused. -/
theorem readQuoted_of_not_passes (hnot : ¬ piece.Passes) :
    readQuoted offset value (piece.text ++ behind) = .error (piece.refusal (offset + 1)) := by
  cases hcut with
  | literal hquote hbackslash => exact absurd (.inl trivial) hnot
  | named hname => exact absurd (.inl trivial) hnot
  | hexadecimal first second =>
    have hnone : Numeral.octet? 16 [first, second] = none :=
      Option.eq_none_iff_forall_ne_some.mpr fun octet hread =>
        hnot (passes_of_octet?_hexadecimal hread)
    show readQuoted offset value (0x5C :: 0x78 :: first :: second :: behind) = _
    rw [readQuoted_hexadecimal, hnone]
    rfl
  | @octal first hfirst second third =>
    have hnone : Numeral.octet? 8 [first, second, third] = none :=
      Option.eq_none_iff_forall_ne_some.mpr fun octet hread =>
        hnot (passes_of_octet?_octal hfirst hread)
    show readQuoted offset value (0x5C :: first :: second :: third :: behind) = _
    rw [readQuoted_octal offset value hfirst, hnone]
    rfl
  | continued hending => exact absurd (.inl trivial) hnot

end Reading

end Piece

/-! ## Every text -/

/-- Either a piece is cut off a text, or the reader fails in front of it. -/
def CutsOrFails (text : Octets) : Prop :=
  (∃ (piece : Piece) (behind : Octets), piece.CutOff behind ∧ text = piece.text ++ behind) ∨
    ∀ offset value, ∃ e, readQuoted offset value text = .error e

theorem cutsOrFails_hexadecimal (rest : Octets) : CutsOrFails (0x5C :: 0x78 :: rest) := by
  have hescape : namedEscape? 0x78 = none := rfl
  match rest with
  | [] => exact .inr fun offset value => ⟨.hexEscape (offset + 1), rfl⟩
  | [first] =>
    -- The text ends too early, if not with the escape then behind it.
    refine .inr fun offset value => ?_
    rw [readQuoted.eq_def]
    simp only [hescape]
    cases Numeral.octet? 16 [first] with
    | none => exact ⟨.hexEscape (offset + 1), rfl⟩
    | some octet => exact ⟨.openQuote, rfl⟩
  | first :: second :: behind =>
    exact .inl ⟨.hexadecimal first second, behind, .hexadecimal first second, rfl⟩

theorem cutsOrFails_octal {first : UInt8} (hoctal : isOctalDigit first = true) (rest : Octets) :
    CutsOrFails (0x5C :: first :: rest) := by
  obtain ⟨hescape, hne⟩ := of_isOctalDigit hoctal
  match rest with
  | [] =>
    refine .inr fun offset value => ⟨.openQuote, ?_⟩
    rw [readQuoted.eq_def]
    simp only [hescape, if_neg hne, if_pos hoctal]
    rfl
  | [second] =>
    refine .inr fun offset value => ?_
    rw [readQuoted.eq_def]
    simp only [hescape, if_neg hne, if_pos hoctal]
    cases Numeral.octet? 8 [first, second] with
    | none => exact ⟨.octalEscape (offset + 1), rfl⟩
    | some octet => exact ⟨.openQuote, rfl⟩
  | second :: third :: behind =>
    exact .inl ⟨.octal first second third, behind, .octal hoctal second third, rfl⟩

/-- A line end takes one more octet if that makes it a pair. -/
theorem cutsOrFails_lineEnd {first : UInt8} (hfirst : first = 0x0A ∨ first = 0x0D)
    (rest : Octets) : CutsOrFails (0x5C :: first :: rest) := by
  rcases hfirst with rfl | rfl
  · by_cases hpair : rest.head? = some 0x0D
    · obtain ⟨behind, rfl⟩ := List.head?_eq_some_iff.mp hpair
      exact .inl ⟨.continued [0x0A, 0x0D], behind, .continued .lfcr, rfl⟩
    · exact .inl ⟨.continued [0x0A], rest, .continued (.lf hpair), rfl⟩
  · by_cases hpair : rest.head? = some 0x0A
    · obtain ⟨behind, rfl⟩ := List.head?_eq_some_iff.mp hpair
      exact .inl ⟨.continued [0x0D, 0x0A], behind, .continued .crlf, rfl⟩
    · exact .inl ⟨.continued [0x0D], rest, .continued (.cr hpair), rfl⟩

theorem cutsOrFails_escape (rest : Octets) : CutsOrFails (0x5C :: rest) := by
  cases rest with
  | nil => exact .inr fun offset value => ⟨.openQuote, rfl⟩
  | cons escape rest =>
    cases hnamed : namedEscape? escape with
    | some octet =>
      exact .inl ⟨.named octet escape, rest, .named (mem_of_namedEscape? hnamed), rfl⟩
    | none =>
      by_cases hx : escape = 0x78
      · subst hx
        exact cutsOrFails_hexadecimal rest
      · by_cases hoctal : isOctalDigit escape = true
        · exact cutsOrFails_octal hoctal rest
        · by_cases hline : escape = 0x0A ∨ escape = 0x0D
          · exact cutsOrFails_lineEnd hline rest
          · refine .inr fun offset value => ⟨.unknownEscape (offset + 1), ?_⟩
            rw [readQuoted.eq_def]
            simp only [hnamed, if_neg hx, if_neg hoctal, if_neg hline]
            rfl

theorem quote_or_cutsOrFails (text : Octets) :
    (∃ rest, text = 0x22 :: rest) ∨ CutsOrFails text := by
  cases text with
  | nil => exact .inr (.inr fun offset value => ⟨.openQuote, rfl⟩)
  | cons octet rest =>
    by_cases hquote : octet = 0x22
    · exact .inl ⟨rest, by rw [hquote]⟩
    · by_cases hbackslash : octet = 0x5C
      · subst hbackslash
        exact .inr (cutsOrFails_escape rest)
      · exact .inr (.inl ⟨.literal octet, rest, .literal hquote hbackslash, rfl⟩)

/-! ## All pieces -/

theorem readQuoted_quote (offset : Nat) (value rest : Octets) :
    readQuoted offset value (0x22 :: rest) = .ok (value.reverse, offset + 1) := by
  rw [readQuoted.eq_def]
  exact if_pos rfl

/-- Pieces that pass add what they stand for, one behind the other. -/
theorem Cut.readQuoted_eq {behind text : Octets} {pieces : List Piece}
    (hcut : Cut behind pieces text) (hpasses : ∀ piece ∈ pieces, piece.Passes) :
    ∀ (offset : Nat) (value : Octets),
      readQuoted offset value text
        = readQuoted (offset + (pieces.flatMap Piece.text).length)
            ((pieces.flatMap Piece.octets).reverse ++ value) behind := by
  induction hcut with
  | nil =>
    intro offset value
    rfl
  | @cons piece pieces text hpiece hpieces ih =>
    intro offset value
    obtain ⟨hfirst, hrest⟩ := List.forall_mem_cons.mp hpasses
    rw [Piece.readQuoted_of_passes hpiece offset value hfirst, ih hrest, List.flatMap_cons,
      List.flatMap_cons, List.length_append, List.reverse_append, List.append_assoc, Nat.add_assoc]

/-- The reader comes to the end only if every piece passes. -/
theorem Cut.passes_of_readQuoted {behind text : Octets} {pieces : List Piece}
    (hcut : Cut behind pieces text) {result : Octets × Nat} :
    ∀ {offset : Nat} {value : Octets}, readQuoted offset value text = .ok result →
      ∀ piece ∈ pieces, piece.Passes := by
  induction hcut with
  | nil =>
    intro offset value hread piece hpiece
    cases hpiece
  | @cons piece pieces text hpiece hpieces ih =>
    intro offset value hread
    by_cases hfirst : piece.Passes
    · rw [Piece.readQuoted_of_passes hpiece offset value hfirst] at hread
      exact List.forall_mem_cons.mpr ⟨hfirst, ih hread⟩
    · rw [Piece.readQuoted_of_not_passes hpiece offset value hfirst] at hread
      cases hread

/-- A text that is read is cut into pieces up to a quote, by induction on its length. -/
theorem exists_cut {text : Octets} {offset : Nat} {value : Octets} {result : Octets × Nat}
    (hread : readQuoted offset value text = .ok result) :
    ∃ pieces rest, Cut (0x22 :: rest) pieces text := by
  induction hlength : text.length using Nat.strongRecOn generalizing text offset value with
  | ind length ih =>
    rcases quote_or_cutsOrFails text with ⟨rest, rfl⟩ | ⟨piece, behind, hpiece, rfl⟩ | hfails
    · exact ⟨[], rest, .nil⟩
    · by_cases hpasses : piece.Passes
      · rw [Piece.readQuoted_of_passes hpiece offset value hpasses] at hread
        have hne : 0 < piece.text.length := by cases piece <;> simp [Piece.text]
        have hshorter : behind.length < length := by
          rw [← hlength, List.length_append]
          omega
        obtain ⟨pieces, rest, hcut⟩ := ih behind.length hshorter hread rfl
        exact ⟨piece :: pieces, rest, .cons hpiece hcut⟩
      · rw [Piece.readQuoted_of_not_passes hpiece offset value hpasses] at hread
        cases hread
    · obtain ⟨e, he⟩ := hfails offset value
      rw [he] at hread
      cases hread

/-- A quoted string is read exactly if it is cut into pieces that pass, up to a quote, and as what
they stand for. An escape that was read is well formed unless it is loose. Behind pieces that pass,
one that is neither is refused where its escape starts. -/
theorem readQuoted_escapes (offset : Nat) (value text : Octets) :
    (∀ result stop, readQuoted offset value text = .ok (result, stop) ↔
      ∃ pieces rest, Cut (0x22 :: rest) pieces text ∧
        (∀ piece ∈ pieces, piece.WellFormed ∨ piece.Loose) ∧
        result = value.reverse ++ pieces.flatMap Piece.octets ∧
        stop = offset + (pieces.flatMap Piece.text).length + 1) ∧
    (∀ result pieces rest, readQuoted offset value text = .ok result →
      Cut (0x22 :: rest) pieces text → ∀ piece ∈ pieces, (piece.WellFormed ↔ ¬ piece.Loose)) ∧
    ∀ (pieces : List Piece) (piece : Piece) (behind : Octets),
      Cut (piece.text ++ behind) pieces text → piece.CutOff behind →
      (∀ other ∈ pieces, other.WellFormed ∨ other.Loose) → ¬ piece.WellFormed → ¬ piece.Loose →
      readQuoted offset value text
        = .error (piece.refusal (offset + (pieces.flatMap Piece.text).length + 1)) := by
  refine ⟨fun result stop => ⟨fun hread => ?_, ?_⟩, ?_, ?_⟩
  · obtain ⟨pieces, rest, hcut⟩ := exists_cut hread
    have hpasses := hcut.passes_of_readQuoted hread
    rw [hcut.readQuoted_eq hpasses, readQuoted_quote] at hread
    obtain ⟨rfl, rfl⟩ := Prod.mk.inj (Except.ok.inj hread)
    refine ⟨pieces, rest, hcut, hpasses, ?_, rfl⟩
    rw [List.reverse_append, List.reverse_reverse]
  · rintro ⟨pieces, rest, hcut, hpasses, rfl, rfl⟩
    rw [hcut.readQuoted_eq hpasses, readQuoted_quote, List.reverse_append, List.reverse_reverse]
  · intro result pieces rest hread hcut piece hpiece
    refine ⟨fun hformed hloose => hloose.not_wellFormed hformed, fun hnot => ?_⟩
    exact (hcut.passes_of_readQuoted hread piece hpiece).resolve_right hnot
  · intro pieces piece behind hcut hpiece hpasses hformed hloose
    rw [hcut.readQuoted_eq hpasses,
      Piece.readQuoted_of_not_passes hpiece _ _ (not_or.mpr ⟨hformed, hloose⟩)]

/-- Pieces of each kind, the last one loose. -/
def sortsOfPieces : List Piece :=
  [.literal 0x61, .named 0x0A 0x6E, .hexadecimal 0x34 0x41, .octal 0x31 0x30 0x31,
    .continued [0x0A], .octal 0x31 0x5F 0x32]

/-- What is written for them, with a quote and a parenthesis behind it. -/
def sortsOfPiecesText : Octets :=
  [0x61, 0x5C, 0x6E, 0x5C, 0x78, 0x34, 0x41, 0x5C, 0x31, 0x30, 0x31, 0x5C, 0x0A, 0x5C, 0x31, 0x5F,
    0x32, 0x22, 0x29]

theorem readQuoted_escapes_loose :
    Cut [0x22, 0x29] sortsOfPieces sortsOfPiecesText ∧
    readQuoted 1 [] sortsOfPiecesText = .ok ([0x61, 0x0A, 0x4A, 0x41, 0x0A], 19) ∧
    (∀ piece ∈ sortsOfPieces, (piece.WellFormed ↔ ¬ piece.Loose)) ∧
    readQuoted 1 [] [0x61, 0x5C, 0x78, 0x34, 0x67, 0x22] = .error (.hexEscape 3) := by
  have hname : ((0x0A : UInt8), (0x6E : UInt8)) ∈ namedEscapes := by decide
  have hcut : Cut [0x22, 0x29] sortsOfPieces sortsOfPiecesText :=
    .cons (.literal (by decide) (by decide)) <| .cons (.named hname) <|
    .cons (.hexadecimal 0x34 0x41) <| .cons (.octal rfl 0x30 0x31) <|
    .cons (.continued (.lf (by decide))) <| .cons (.octal rfl 0x5F 0x32) .nil
  have hfour : IsHexDigit 4 0x34 := ⟨by decide, .inl rfl⟩
  have hten : IsHexDigit 10 0x41 := ⟨by decide, .inr rfl⟩
  have hpasses : ∀ piece ∈ sortsOfPieces, piece.WellFormed ∨ piece.Loose := by
    simp only [sortsOfPieces, List.forall_mem_cons]
    exact ⟨.inl trivial, .inl trivial, .inl ⟨⟨4, hfour⟩, 10, hten⟩,
      .inl ⟨rfl, rfl, rfl, by decide⟩, .inl trivial, .inr (.underscore rfl rfl), by simp⟩
  obtain ⟨hiff, hformed, -⟩ := readQuoted_escapes 1 [] sortsOfPiecesText
  have hread : readQuoted 1 [] sortsOfPiecesText = .ok ([0x61, 0x0A, 0x4A, 0x41, 0x0A], 19) :=
    (hiff _ _).mpr ⟨sortsOfPieces, [0x29], hcut, hpasses, by decide, by decide⟩
  -- A letter that is no digit is refused.
  have hrefused : ¬ (Piece.hexadecimal 0x34 0x67).Passes := fun hpasses =>
    absurd (Piece.octet?_hexadecimal_of_passes hpasses) (by decide)
  obtain ⟨hnotFormed, hnotLoose⟩ := not_or.mp hrefused
  have hbroken : Cut [0x5C, 0x78, 0x34, 0x67, 0x22] [.literal 0x61]
      [0x61, 0x5C, 0x78, 0x34, 0x67, 0x22] := .cons (.literal (by decide) (by decide)) .nil
  obtain ⟨-, -, hrefusal⟩ := readQuoted_escapes 1 [] [0x61, 0x5C, 0x78, 0x34, 0x67, 0x22]
  exact ⟨hcut, hread, hformed _ _ _ hread hcut,
    hrefusal [.literal 0x61] (.hexadecimal 0x34 0x67) [0x22] hbroken
      (.hexadecimal 0x34 0x67) (by simp [Piece.WellFormed]) hnotFormed hnotLoose⟩

/-- A hexadecimal escape in front of the reader is one of the pieces. -/
theorem Cut.hexadecimal_mem {rest behind : Octets} {pieces : List Piece} {first second : UInt8}
    (hcut : Cut (0x22 :: rest) pieces (0x5C :: 0x78 :: first :: second :: behind)) :
    .hexadecimal first second ∈ pieces := by
  generalize htext : 0x5C :: 0x78 :: first :: second :: behind = text at hcut
  cases hcut with
  | nil => cases htext
  | @cons piece pieces text hpiece hpieces =>
    cases hpiece with
    | literal hquote hbackslash => exact absurd (List.cons.inj htext).1.symm hbackslash
    | named hname =>
      obtain ⟨rfl, -⟩ := List.cons.inj (List.cons.inj htext).2
      have hescape := namedEscape?_of_mem hname
      cases hescape
    | hexadecimal first' second' =>
      obtain ⟨rfl, rfl, -⟩ : first = first' ∧ second = second' ∧ behind = text := by
        simpa [Piece.text] using htext
      exact List.mem_cons_self
    | octal hfirst =>
      obtain ⟨rfl, -⟩ := List.cons.inj (List.cons.inj htext).2
      cases hfirst
    | continued hending => cases hending <;> cases htext

/-- Not all that is read is well formed: a space and the digit 1 behind `\x` are read as an
octet. -/
theorem not_forall_wellFormed :
    ¬ ∀ (offset : Nat) (value text result : Octets) (stop : Nat),
      readQuoted offset value text = .ok (result, stop) →
        ∃ pieces rest, Cut (0x22 :: rest) pieces text ∧ ∀ piece ∈ pieces, piece.WellFormed := by
  intro hall
  obtain ⟨pieces, rest, hcut, hformed⟩ :=
    hall 0 [] [0x5C, 0x78, 0x20, 0x31, 0x22] [0x01] 5 rfl
  obtain ⟨⟨value, hspace⟩, -⟩ := hformed _ hcut.hexadecimal_mem
  have hdigit := digit?_of_isHexDigit hspace
  cases hdigit

example : parseAdvanced [0x28, 0x22, 0x5C, 0x78, 0x20, 0x31, 0x22, 0x29] = .ok [.atom [0x01]] := rfl

end CommitSeal.SExpr
