import CommitSeal.Octets.Basic
import Mathlib.Data.List.DropRight
import Mathlib.Data.List.TakeWhile

/-!
# Lines

Octets are split into lines at LF, CR and CR LF (`Octets.SplitsInto`): a line holds neither LF nor
CR, a CR with an LF behind it is one line end and not two, and what stands behind the last line end
is a line only if it is not empty. There is one way to split octets, and `Octets.lines` is it
(`Octets.splitsInto_iff`).

White space around octets is dropped from both ends; nothing else is left of blank ones
(`Octets.strip_eq_nil_iff`).
-/

namespace CommitSeal.Octets

/-! ## Line ends -/

/-- What ends a line. -/
inductive LineEnd where
  | lineFeed
  | carriageReturn
  | both

/-- The octets of a line end. -/
def LineEnd.octets : LineEnd → Octets
  | lineFeed => [0x0A]
  | carriageReturn => [0x0D]
  | both => [0x0D, 0x0A]

/-- Octets without a line end. -/
def Unbroken (octets : Octets) : Prop := ∀ octet ∈ octets, octet ≠ 0x0A ∧ octet ≠ 0x0D

theorem unbroken_nil : Unbroken [] := fun _ hmem => absurd hmem List.not_mem_nil

theorem Unbroken.reverse {octets : Octets} (hunbroken : Unbroken octets) :
    Unbroken (List.reverse octets) :=
  fun octet hmem => hunbroken octet (List.mem_reverse.mp hmem)

/-- Octets and the lines that they are split into. -/
inductive SplitsInto : Octets → List Octets → Prop where
  | nil : SplitsInto [] []
  /-- The last line need not be ended. -/
  | last {line : Octets} (hline : line ≠ []) (hunbroken : Unbroken line) : SplitsInto line [line]
  | ended {line rest : Octets} {lines : List Octets} (ending : LineEnd) (hunbroken : Unbroken line)
      (hwhole : ending = .carriageReturn → rest.head? ≠ some 0x0A) (hrest : SplitsInto rest lines) :
      SplitsInto (line ++ (ending.octets ++ rest)) (line :: lines)

/-! ## Splitting -/

section Splitting

variable {line rest : Octets}

/-- Octets that end no line are collected. -/
theorem linesFrom_append (hunbroken : Unbroken line) (current rest : Octets) :
    linesFrom current (line ++ rest) = linesFrom (line.reverse ++ current) rest := by
  induction line generalizing current with
  | nil => rfl
  | cons octet line ih =>
    obtain ⟨⟨hfeed, hreturn⟩, hline⟩ := List.forall_mem_cons.mp hunbroken
    have hcollect : linesFrom current (octet :: (line ++ rest))
        = linesFrom (octet :: current) (line ++ rest) := by
      rw [linesFrom.eq_3 _ _ _ fun _ h => absurd h hreturn, if_neg (by simp [hfeed, hreturn])]
    rw [List.cons_append, hcollect, ih hline, List.reverse_cons, List.append_assoc]
    rfl

/-- A line end ends what was collected. -/
theorem linesFrom_ending (current : Octets) (ending : LineEnd)
    (hwhole : ending = .carriageReturn → rest.head? ≠ some 0x0A) :
    linesFrom current (ending.octets ++ rest) = current.reverse :: linesFrom [] rest := by
  cases ending with
  | lineFeed =>
    show linesFrom current (0x0A :: rest) = _
    rw [linesFrom.eq_3 _ _ _ fun _ h => absurd h (by decide), if_pos (.inl rfl)]
  | carriageReturn =>
    show linesFrom current (0x0D :: rest) = _
    rw [linesFrom.eq_3, if_pos (.inr rfl)]
    rintro more - rfl
    exact hwhole rfl rfl
  | both => rfl

theorem SplitsInto.lines_eq {octets : Octets} {lines : List Octets}
    (hsplit : SplitsInto octets lines) : octets.lines = lines := by
  unfold Octets.lines
  induction hsplit with
  | nil => rfl
  | @last line hline hunbroken =>
    have hcollect := linesFrom_append hunbroken [] []
    rw [List.append_nil, List.append_nil] at hcollect
    rw [hcollect, linesFrom, if_neg (by simpa using hline), List.reverse_reverse]
  | ended ending hunbroken hwhole _ ih =>
    rw [linesFrom_append hunbroken, linesFrom_ending _ ending hwhole, ih, List.append_nil,
      List.reverse_reverse]

/-- What was collected belongs to the first line. -/
theorem splitsInto_linesFrom {current : Octets} (hcurrent : Unbroken current) (octets : Octets) :
    SplitsInto (current.reverse ++ octets) (linesFrom current octets) := by
  -- Octets are collected in reverse, so what was collected is turned round and put in front.
  fun_induction linesFrom current octets with
  | case1 current hempty =>
    rw [List.isEmpty_iff.mp hempty]
    exact .nil
  | case2 current hline =>
    rw [List.append_nil]
    exact .last (by simpa using hline) hcurrent.reverse
  | case3 current rest ih => exact .ended .both hcurrent.reverse nofun (ih unbroken_nil)
  | case4 current octet rest hpair hends ih =>
    rcases hends with rfl | rfl
    · exact .ended .lineFeed hcurrent.reverse nofun (ih unbroken_nil)
    · refine .ended .carriageReturn hcurrent.reverse ?_ (ih unbroken_nil)
      rintro - hhead
      obtain ⟨more, rfl⟩ := List.head?_eq_some_iff.mp hhead
      exact hpair more rfl rfl
  | case5 current octet rest hpair hends ih =>
    rw [not_or] at hends
    have hsplit := ih (List.forall_mem_cons.mpr ⟨hends, hcurrent⟩)
    rw [List.reverse_cons, List.append_assoc] at hsplit
    exact hsplit

/-- There is one way to split octets into lines. -/
theorem splitsInto_iff {octets : Octets} {lines : List Octets} :
    SplitsInto octets lines ↔ octets.lines = lines := by
  refine ⟨SplitsInto.lines_eq, ?_⟩
  rintro rfl
  exact splitsInto_linesFrom unbroken_nil octets

end Splitting

/-! ## White space -/

/-- Nothing is left of octets if and only if they are blank. -/
theorem strip_eq_nil_iff {octets : Octets} :
    strip octets = [] ↔ ∀ octet ∈ octets, isBlank octet := by
  rw [strip, stripRight, List.reverse_eq_nil_iff, List.dropWhile_eq_nil_iff]
  simp only [List.mem_reverse]
  constructor
  · intro hblank
    rw [← List.dropWhile_eq_nil_iff, List.dropWhile_idempotent] at hblank
    exact List.dropWhile_eq_nil_iff.mp hblank
  · intro hblank octet hmem
    exact hblank octet ((List.dropWhile_sublist _).subset hmem)

end CommitSeal.Octets
