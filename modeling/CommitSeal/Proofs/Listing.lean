import CommitSeal.Listing

/-!
# What is found in a listing

A listing is searched for an item, or its items are replaced one by one until a replacement fails.
The lemmas take a result back to where it comes from: what is found is the first of the items that
satisfy the test (`Listing.find?_eq_some_iff`, `Listing.items_of_head?_eq_some`), what is collected
replaces an item (`Listing.exists_of_mem_collect`, `Listing.exists_split_of_collect`,
`Listing.exists_item_of_collect`), and a failure is that of the listing or of a replacement
(`Listing.failure_collect`). What stands behind has no part in what is collected in front of it
(`Listing.collect_append_of_collect`). If items are refused, those in front of the first such are
collected (`Listing.collect_of_refused`).
-/

namespace CommitSeal.Listing

variable {α β ε : Type}

/-! ## Searching -/

/-- What is found is the first item that satisfies the test. -/
theorem find?_eq_some_iff {test : α → Bool} {listing : Listing ε α} {item : α} :
    listing.find? test = .ok (some item) ↔
      ∃ front behind, listing.items = front ++ item :: behind ∧ test item = true ∧
        ∀ earlier ∈ front, ¬ test earlier = true := by
  have hfound : listing.find? test = .ok (some item) ↔ listing.items.find? test = some item := by
    unfold find?
    cases listing.items.find? test with
    | some found => simp
    | none => cases listing.failure <;> simp
  rw [hfound, List.find?_eq_some_iff_append]
  constructor
  · rintro ⟨htest, front, behind, hitems, hfront⟩
    exact ⟨front, behind, hitems, htest, fun earlier hmem => by simpa using hfront earlier hmem⟩
  · rintro ⟨front, behind, hitems, htest, hfront⟩
    exact ⟨htest, front, behind, hitems, fun earlier hmem => by simpa using hfront earlier hmem⟩

/-- What is found is an item, and satisfies the test. -/
theorem of_find?_eq_some {test : α → Bool} {listing : Listing ε α} {item : α}
    (hfind : listing.find? test = .ok (some item)) : item ∈ listing.items ∧ test item = true := by
  obtain ⟨front, behind, hitems, htest, -⟩ := find?_eq_some_iff.mp hfind
  rw [hitems]
  exact ⟨List.mem_append_right _ List.mem_cons_self, htest⟩

/-- Nothing is found if the end is reached and no item satisfies the test. -/
theorem find?_eq_none_iff {test : α → Bool} {listing : Listing ε α} :
    listing.find? test = .ok none ↔
      listing.failure = none ∧ ∀ item ∈ listing.items, ¬ test item = true := by
  rw [← List.find?_eq_none]
  unfold find?
  cases listing.items.find? test with
  | some found => simp
  | none => cases listing.failure <;> simp

theorem head?_of_nil {listing : Listing ε α} (hitems : listing.items = []) :
    listing.head? = listing.failure.elim (.ok none) .error := by
  unfold head? find?
  rw [hitems]
  cases listing.failure <;> rfl

theorem head?_of_cons {listing : Listing ε α} {item : α} {rest : List α}
    (hitems : listing.items = item :: rest) : listing.head? = .ok (some item) := by
  unfold head? find?
  rw [hitems, List.find?_cons_of_pos rfl]

/-- The first item of a listing is in front of the others. -/
theorem items_of_head?_eq_some {listing : Listing ε α} {item : α}
    (hhead : listing.head? = .ok (some item)) : ∃ rest, listing.items = item :: rest := by
  cases hitems : listing.items with
  | nil =>
    rw [head?_of_nil hitems] at hhead
    cases hfailure : listing.failure <;> simp [hfailure] at hhead
  | cons first rest =>
    rw [head?_of_cons hitems] at hhead
    cases hhead
    exact ⟨rest, rfl⟩

/-! ## Collecting -/

variable {f : α → Except ε (Option β)} {items : List α} {failure : Option ε}

/-- What is collected is the replacement of an item. -/
theorem exists_of_mem_collect {value : β} (hvalue : value ∈ (collect f items failure).items) :
    ∃ item ∈ items, f item = .ok (some value) := by
  induction items with
  | nil => cases hvalue
  | cons item rest ih =>
    have hlater : value ∈ (collect f rest failure).items →
        ∃ item' ∈ item :: rest, f item' = .ok (some value) := by
      intro hrest
      obtain ⟨found, hmem, hfound⟩ := ih hrest
      exact ⟨found, List.mem_cons_of_mem _ hmem, hfound⟩
    rw [collect] at hvalue
    cases hitem : f item with
    | error e =>
      rw [hitem] at hvalue
      cases hvalue
    | ok replacement =>
      rw [hitem] at hvalue
      cases replacement with
      | none => exact hlater hvalue
      | some first =>
        rcases List.mem_cons.mp hvalue with rfl | hrest
        · exact ⟨item, List.mem_cons_self, hitem⟩
        · exact hlater hrest

/-- What is collected first replaces an item behind others that are dropped, and what is collected
from there on replaces items further behind. -/
theorem exists_split_of_collect {first : β} {others : List β}
    (hcollect : (collect f items failure).items = first :: others) :
    ∃ front item behind, items = front ++ item :: behind ∧
      (∀ passed ∈ front, f passed = .ok none) ∧ f item = .ok (some first) ∧
      others = (collect f behind failure).items := by
  induction items with
  | nil => cases hcollect
  | cons item rest ih =>
    rw [collect] at hcollect
    cases hitem : f item with
    | error e =>
      rw [hitem] at hcollect
      cases hcollect
    | ok replacement =>
      rw [hitem] at hcollect
      cases replacement with
      | none =>
        obtain ⟨front, later, behind, rfl, hfront, hlater, hothers⟩ := ih hcollect
        exact ⟨item :: front, later, behind, rfl, List.forall_mem_cons.mpr ⟨hitem, hfront⟩, hlater,
          hothers⟩
      | some value =>
        obtain ⟨rfl, rfl⟩ := List.cons.inj hcollect
        exact ⟨[], item, rest, rfl, by simp, hitem, rfl⟩

/-- What is collected up to a value is collected from the items in front of the one that it
replaces. -/
theorem exists_item_of_collect {front behind : List β} {value : β}
    (hcollect : (collect f items failure).items = front ++ value :: behind) :
    ∃ before item after, items = before ++ item :: after ∧ f item = .ok (some value) ∧
      collect f before none = ⟨front, none⟩ := by
  induction items generalizing front with
  | nil => cases front <;> cases hcollect
  | cons item rest ih =>
    rw [collect] at hcollect
    cases hitem : f item with
    | error e =>
      rw [hitem] at hcollect
      cases front <;> cases hcollect
    | ok replacement =>
      rw [hitem] at hcollect
      cases replacement with
      | none =>
        obtain ⟨before, later, after, rfl, hlater, hread⟩ := ih hcollect
        refine ⟨item :: before, later, after, rfl, hlater, ?_⟩
        rw [collect, hitem]
        exact hread
      | some first =>
        cases front with
        | nil =>
          obtain ⟨rfl, -⟩ := List.cons.inj hcollect
          exact ⟨[], item, rest, rfl, hitem, rfl⟩
        | cons earlier front =>
          obtain ⟨rfl, hothers⟩ := List.cons.inj hcollect
          obtain ⟨before, later, after, rfl, hlater, hread⟩ := ih hothers
          refine ⟨item :: before, later, after, rfl, hlater, ?_⟩
          rw [collect, hitem]
          simp only [hread]
          rfl

/-- What is collected from items without a failure is in front of what is collected from others. -/
theorem collect_append_of_collect {before : List α} {front : List β}
    (hbefore : collect f before none = ⟨front, none⟩) (rest : List α) (failure : Option ε) :
    collect f (before ++ rest) failure
      = ⟨front ++ (collect f rest failure).items, (collect f rest failure).failure⟩ := by
  induction before generalizing front with
  | nil =>
    cases hbefore
    rfl
  | cons item before ih =>
    rw [collect] at hbefore
    rw [List.cons_append, collect]
    cases hitem : f item with
    | error e =>
      rw [hitem] at hbefore
      cases hbefore
    | ok replacement =>
      rw [hitem] at hbefore
      cases replacement with
      | none => exact ih hbefore
      | some first =>
        cases hread : collect f before none with
        | mk others ended =>
          rw [hread] at hbefore
          obtain ⟨rfl, rfl⟩ := Listing.mk.inj hbefore
          simp only [ih hread]
          rfl

/-- What is collected from items whose replacements do not fail is in front of the rest. -/
theorem collect_append {g : α → Option β} {front : List α}
    (hfront : ∀ item ∈ front, f item = .ok (g item)) (rest : List α) (failure : Option ε) :
    collect f (front ++ rest) failure
      = ⟨front.filterMap g ++ (collect f rest failure).items,
          (collect f rest failure).failure⟩ := by
  induction front with
  | nil => rfl
  | cons item front ih =>
    have hrest := ih fun other hother => hfront other (List.mem_cons_of_mem _ hother)
    rw [List.cons_append, collect, hfront item List.mem_cons_self]
    cases hitem : g item with
    | none =>
      simp only [List.filterMap_cons_none hitem]
      exact hrest
    | some value =>
      simp only [List.filterMap_cons_some hitem, hrest]
      rfl

/-- Replacing items fails where the listing did, or where a replacement does. -/
theorem failure_collect {e : ε} (hfailure : (collect f items failure).failure = some e) :
    failure = some e ∨ ∃ item ∈ items, f item = .error e := by
  induction items with
  | nil => exact .inl hfailure
  | cons item rest ih =>
    simp only [collect] at hfailure
    cases hitem : f item with
    | error cause =>
      rw [hitem] at hfailure
      obtain rfl : cause = e := Option.some.inj hfailure
      exact .inr ⟨item, List.mem_cons_self, hitem⟩
    | ok value =>
      have hrest : (collect f rest failure).failure = some e := by
        rw [hitem] at hfailure
        cases value <;> exact hfailure
      obtain hend | ⟨later, hlater, hfault⟩ := ih hrest
      · exact .inl hend
      · exact .inr ⟨later, List.mem_cons_of_mem _ hlater, hfault⟩

/-- If nothing fails, the listing did not, and no replacement does. -/
theorem of_failure_collect_eq_none (hfailure : (collect f items failure).failure = none) :
    failure = none ∧ ∀ item ∈ items, ∃ replacement, f item = .ok replacement := by
  induction items with
  | nil => exact ⟨hfailure, nofun⟩
  | cons item rest ih =>
    rw [collect] at hfailure
    cases hitem : f item with
    | error e =>
      rw [hitem] at hfailure
      cases hfailure
    | ok replacement =>
      have hrest : (collect f rest failure).failure = none := by
        rw [hitem] at hfailure
        cases replacement <;> exact hfailure
      obtain ⟨hend, hothers⟩ := ih hrest
      exact ⟨hend, List.forall_mem_cons.mpr ⟨⟨replacement, hitem⟩, hothers⟩⟩

/-- What is collected depends on what becomes of the items, and on nothing else. -/
theorem collect_congr {g : α → Except ε (Option β)} (hsame : ∀ item ∈ items, f item = g item) :
    collect f items failure = collect g items failure := by
  induction items with
  | nil => rfl
  | cons item rest ih =>
    obtain ⟨hitem, hrest⟩ := List.forall_mem_cons.mp hsame
    rw [collect, collect, hitem, ih hrest]

/-- Where each item is replaced or refused, all in front of the first that is refused are
replaced. -/
theorem collect_of_refused {refused : α → Bool} {e : ε} {g : α → β}
    (hitems : ∀ item ∈ items, f item = if refused item then .error e else .ok (some (g item))) :
    collect f items failure
      = ⟨(items.takeWhile fun item => !refused item).map g,
          if items.any refused then some e else failure⟩ := by
  induction items with
  | nil => rfl
  | cons item rest ih =>
    obtain ⟨hitem, hrest⟩ := List.forall_mem_cons.mp hitems
    rw [collect, hitem, ih hrest]
    cases hrefused : refused item <;> simp [hrefused, fail, cons]

/-- Of a list in order, the items in front of the first that fails a test are those that come before
all that fail it. -/
theorem mem_takeWhile_iff_of_pairwise {before : α → α → Prop}
    (hasymm : ∀ {a b}, before a b → ¬ before b a) {test : α → Bool} {items : List α}
    (hordered : items.Pairwise before) {item : α} :
    item ∈ items.takeWhile test ↔
      item ∈ items ∧ ∀ other ∈ items, test other = false → before item other := by
  induction items with
  | nil => simp
  | cons first rest ih =>
    obtain ⟨hfirst, hrest⟩ := List.pairwise_cons.mp hordered
    cases htest : test first with
    | false =>
      -- Nothing is in front of the first, neither itself nor what is behind it.
      rw [List.takeWhile_cons_of_neg (by simp [htest])]
      simp only [List.not_mem_nil, false_iff]
      rintro ⟨hmem, hbefore⟩
      have hhead := hbefore first List.mem_cons_self htest
      rcases List.mem_cons.mp hmem with rfl | hmem
      · exact hasymm hhead hhead
      · exact hasymm hhead (hfirst item hmem)
    | true =>
      rw [List.takeWhile_cons_of_pos htest, List.mem_cons, List.mem_cons, ih hrest]
      constructor
      · rintro (rfl | ⟨hmem, hbefore⟩)
        · refine ⟨.inl rfl, fun other hother hfails => ?_⟩
          rcases List.mem_cons.mp hother with rfl | hother
          · cases htest.symm.trans hfails
          · exact hfirst other hother
        · refine ⟨.inr hmem, fun other hother hfails => ?_⟩
          rcases List.mem_cons.mp hother with rfl | hother
          · cases htest.symm.trans hfails
          · exact hbefore other hother hfails
      · rintro ⟨rfl | hmem, hbefore⟩
        · exact .inl rfl
        · exact .inr ⟨hmem, fun other hother => hbefore other (List.mem_cons_of_mem _ hother)⟩

end CommitSeal.Listing
