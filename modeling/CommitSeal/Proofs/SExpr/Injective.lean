import CommitSeal.Proofs.SExpr.Canonical

/-!
# The canonical form determines the expression

No two expressions have the same canonical form, however long their atoms are
(`SExpr.canonical_injective`). The length in front of an atom says where the atom ends, and a
parenthesis where a list does, so the form is told apart from whatever stands behind it
(`SExpr.canonical_append_inj`).

The reader is of no help here: it refuses lengths of more than nine digits, which the writer does
not.
-/

namespace CommitSeal.SExpr

/-! ## Where an atom ends -/

/-- The digits in front of an atom are those of its length, so that the atom is determined. -/
theorem verbatim_append_inj {octets others rest behind : Octets}
    (htext : verbatim octets ++ rest = verbatim others ++ behind) :
    octets = others ∧ rest = behind := by
  have hdigits : Numeral.decimal octets.length = Numeral.decimal others.length := by
    rw [← takeWhile_verbatim octets rest, htext, takeWhile_verbatim]
  have hlength : octets.length = others.length := by
    rw [← digitsValue_decimal octets.length, hdigits, digitsValue_decimal]
  unfold verbatim at htext
  rw [hdigits, List.append_assoc, List.append_assoc, List.append_cancel_left_eq] at htext
  exact List.append_inj (List.cons.inj htext).2 hlength

/-! ## Where an expression ends -/

/-- No expression starts with the parenthesis that closes a list. -/
theorem canonical_eq_cons (e : SExpr) :
    ∃ first more, canonical e = first :: more ∧ first ≠ 0x29 := by
  cases e with
  | atom octets =>
    obtain ⟨first, more, hverbatim, hdigit⟩ := verbatim_eq_cons octets
    rw [canonical]
    exact ⟨first, more, hverbatim, (ne_of_isDigit hdigit).2.1⟩
  | list items =>
    rw [canonical]
    exact ⟨0x28, _, rfl, by decide⟩

/-- No atom is written as a list is. -/
theorem verbatim_append_ne (octets rest behind : Octets) :
    verbatim octets ++ rest ≠ 0x28 :: behind := by
  intro htext
  obtain ⟨first, more, hverbatim, hdigit⟩ := verbatim_eq_cons octets
  rw [hverbatim, List.cons_append] at htext
  exact (ne_of_isDigit hdigit).1 (List.cons.inj htext).1

mutual

/-- Of what is written for an expression, and anything behind it, both are determined. -/
theorem canonical_append_inj (e other : SExpr) {rest behind : Octets}
    (htext : canonical e ++ rest = canonical other ++ behind) : e = other ∧ rest = behind := by
  cases e with
  | atom octets =>
    cases other with
    | atom others =>
      rw [canonical, canonical] at htext
      obtain ⟨rfl, hrest⟩ := verbatim_append_inj htext
      exact ⟨rfl, hrest⟩
    | list others =>
      rw [canonical, canonical, List.cons_append] at htext
      exact absurd htext (verbatim_append_ne octets rest _)
  | list items =>
    cases other with
    | atom others =>
      rw [canonical, canonical, List.cons_append] at htext
      exact absurd htext.symm (verbatim_append_ne others behind _)
    | list others =>
      rw [canonical, canonical, List.cons_append, List.cons_append, List.append_assoc,
        List.append_assoc] at htext
      obtain ⟨rfl, hrest⟩ := canonicalItems_append_inj items others (List.cons.inj htext).2
      exact ⟨rfl, hrest⟩

/-- Of what is written for the items of a list, and anything behind the parenthesis, both are
determined. -/
theorem canonicalItems_append_inj (items others : List SExpr) {rest behind : Octets}
    (htext : canonicalItems items ++ ([0x29] ++ rest)
      = canonicalItems others ++ ([0x29] ++ behind)) :
    items = others ∧ rest = behind := by
  cases items with
  | nil =>
    cases others with
    | nil => exact ⟨rfl, (List.cons.inj htext).2⟩
    | cons other others =>
      obtain ⟨first, more, hother, hfirst⟩ := canonical_eq_cons other
      rw [canonicalItems, canonicalItems, hother] at htext
      exact absurd (List.cons.inj htext).1.symm hfirst
  | cons e items =>
    cases others with
    | nil =>
      obtain ⟨first, more, he, hfirst⟩ := canonical_eq_cons e
      rw [canonicalItems, canonicalItems, he] at htext
      exact absurd (List.cons.inj htext).1 hfirst
    | cons other others =>
      rw [canonicalItems, canonicalItems, List.append_assoc, List.append_assoc] at htext
      obtain ⟨rfl, hitems⟩ := canonical_append_inj e other htext
      obtain ⟨rfl, hrest⟩ := canonicalItems_append_inj items others hitems
      exact ⟨rfl, hrest⟩

end

/-- The canonical form determines the expression. -/
theorem canonical_injective : Function.Injective canonical := by
  intro e other hsame
  have htext : canonical e ++ [] = canonical other ++ [] := by rw [hsame]
  exact (canonical_append_inj e other htext).1

end CommitSeal.SExpr
