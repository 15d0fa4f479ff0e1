import CommitSeal.FileTree
import Mathlib.Data.List.Nodup

/-!
# The order of entries does not matter

The entries of a directory come in no particular order. A tree is a rearrangement of another
(`FileTree.Rearranged`) if one becomes the other when entries change places, in directories at any
depth. `FileTree.Rearranged.listing_eq` says that their listings are the same, so that what is done
with the files of a directory one after the other does not depend on how the file system orders
them. It rests on the names: no two entries of a directory that is rearranged have the same one.
-/

namespace CommitSeal.FileTree

variable {α : Type}

/-! ## Sorting by name -/

theorem pairwise_byName (entries : List (String × α)) :
    (byName entries).Pairwise fun a b => a.1 ≤ b.1 := by
  have hsorted : (byName entries).Pairwise fun a b => decide (a.1 ≤ b.1) = true := by
    apply List.pairwise_mergeSort
    · intro a b c hab hbc
      exact decide_eq_true (String.le_trans (of_decide_eq_true hab) (of_decide_eq_true hbc))
    · intro a b
      rw [Bool.or_eq_true, decide_eq_true_iff, decide_eq_true_iff]
      exact String.le_total a.1 b.1
  exact hsorted.imp of_decide_eq_true

/-- Entries that change places are sorted to the same. -/
theorem byName_eq_of_perm {entries others : List (String × α)} (hperm : entries.Perm others)
    (hnames : (entries.map Prod.fst).Nodup) : byName entries = byName others := by
  have hentries : (byName entries).Perm entries := List.mergeSort_perm _ _
  have hothers : (byName others).Perm others := List.mergeSort_perm _ _
  apply List.Perm.eq_of_pairwise _ (pairwise_byName entries) (pairwise_byName others)
    (hentries.trans (hperm.trans hothers.symm))
  intro entry other hentry hother hle hge
  have hmem : other ∈ entries := hperm.mem_iff.mpr (hothers.mem_iff.mp hother)
  exact List.inj_on_of_nodup_map hnames (hentries.mem_iff.mp hentry) hmem
    (String.le_antisymm hle hge)

/-! ## Entry by entry -/

/-- The file that an entry is. -/
def asFile? : String × FileTree → Option (String × Octets)
  | (name, .file content) => if leadsOut name then none else some (name, content)
  | (_, .directory _) => none

/-- What a directory that an entry is adds to the listing of the one at a path. -/
def asDirectory? (lead : Nat) (path : Path) :
    String × FileTree → Option (String × List (Path × Octets))
  | (_, .file _) => none
  | (name, .directory entries) =>
    if leadsOut name || !canOpen lead (path.child name) then none
    else some (name, listing lead (path.child name) (.directory entries))

theorem filesOf_eq (entries : List (String × FileTree)) :
    filesOf entries = entries.filterMap asFile? := by
  induction entries with
  | nil => rfl
  | cons entry entries ih =>
    obtain ⟨name, _ | _⟩ := entry
    · by_cases hname : leadsOut name = true <;> simp [filesOf, asFile?, hname, ih]
    · exact ih

theorem listings_eq (lead : Nat) (path : Path) (entries : List (String × FileTree)) :
    listings lead path entries = entries.filterMap (asDirectory? lead path) := by
  induction entries with
  | nil => rfl
  | cons entry entries ih =>
    obtain ⟨name, _ | inner⟩ := entry
    · simpa only [listings, asDirectory?, List.filterMap_cons] using ih
    · by_cases hname : (leadsOut name || !canOpen lead (path.child name)) = true <;>
        simp [listings, asDirectory?, hname, ih]

/-- The listing of a directory, entry by entry. -/
theorem listing_directory (lead : Nat) (path : Path) (entries : List (String × FileTree)) :
    listing lead path (.directory entries)
      = (byName (entries.filterMap asFile?)).map
            (fun (name, content) => (path.child name, content))
          ++ (byName (entries.filterMap (asDirectory? lead path))).flatMap Prod.snd := by
  rw [listing, filesOf_eq, listings_eq]

/-- The files of a directory without directories in it are listed as they are, if sorted. -/
theorem listing_of_files (lead : Nat) (path : Path) {files : List (String × Octets)}
    (hnames : ∀ file ∈ files, leadsOut file.1 = false)
    (hsorted : files.Pairwise fun a b => a.1 ≤ b.1) :
    listing lead path (.directory (files.map fun (name, content) => (name, .file content)))
      = files.map fun (name, content) => (path.child name, content) := by
  have hfiles : (files.map fun (name, content) => (name, FileTree.file content)).filterMap asFile?
      = files := by
    rw [List.filterMap_map]
    refine (List.filterMap_congr fun file hfile => ?_).trans List.filterMap_some
    simp [asFile?, hnames file hfile]
  have hnone : (files.map fun (name, content) => (name, FileTree.file content)).filterMap
      (asDirectory? lead path) = [] := by
    rw [List.filterMap_map]
    exact List.filterMap_eq_nil_iff.mpr fun _ _ => rfl
  have hbyName : byName files = files :=
    List.mergeSort_of_pairwise (hsorted.imp fun hle => decide_eq_true hle)
  have hempty : byName ([] : List (String × List (Path × Octets))) = [] :=
    List.mergeSort_of_pairwise .nil
  rw [listing_directory, hfiles, hnone, hbyName, hempty, List.flatMap_nil, List.append_nil]

/-- Entries that are replaced under their names still have names of their own. -/
theorem nodup_names_filterMap {β : Type} {f : String × α → Option (String × β)}
    (hname : ∀ entry made, f entry = some made → made.1 = entry.1)
    {entries : List (String × α)} (hnames : (entries.map Prod.fst).Nodup) :
    ((entries.filterMap f).map Prod.fst).Nodup := by
  refine hnames.sublist ?_
  rw [List.map_filterMap]
  induction entries with
  | nil => exact .slnil
  | cons entry entries ih =>
    have hlater := ih (List.nodup_cons.mp hnames).2
    cases hmade : f entry with
    | none =>
      rw [List.filterMap_cons_none (by rw [hmade]; rfl), List.map_cons]
      exact hlater.cons _
    | some made =>
      rw [List.filterMap_cons_some (by rw [hmade]; rfl), List.map_cons, hname entry made hmade]
      exact hlater.cons_cons _

theorem name_asFile? (entry : String × FileTree) (made : String × Octets)
    (hmade : asFile? entry = some made) : made.1 = entry.1 := by
  obtain ⟨name, _ | _⟩ := entry
  · rw [asFile?] at hmade
    split at hmade
    · cases hmade
    · rw [← Option.some.inj hmade]
  · cases hmade

theorem name_asDirectory? (lead : Nat) (path : Path) (entry : String × FileTree)
    (made : String × List (Path × Octets)) (hmade : asDirectory? lead path entry = some made) :
    made.1 = entry.1 := by
  obtain ⟨name, _ | entries⟩ := entry
  · cases hmade
  · rw [asDirectory?] at hmade
    split at hmade
    · cases hmade
    · rw [← Option.some.inj hmade]

/-! ## Rearrangements -/

/-- A tree becomes another when entries with names of their own change places. -/
inductive Rearranged : FileTree → FileTree → Prop where
  | refl (tree : FileTree) : Rearranged tree tree
  /-- The entries of a directory change places. -/
  | entries {entries others : List (String × FileTree)} :
      (entries.map Prod.fst).Nodup → entries.Perm others →
      Rearranged (.directory entries) (.directory others)
  /-- An entry of a directory is rearranged itself. -/
  | within {tree other : FileTree} (name : String) (front back : List (String × FileTree)) :
      Rearranged tree other →
      Rearranged (.directory (front ++ (name, tree) :: back))
        (.directory (front ++ (name, other) :: back))
  | trans {tree between other : FileTree} :
      Rearranged tree between → Rearranged between other → Rearranged tree other

namespace Rearranged

variable {tree other : FileTree}

/-- Only directories are rearranged. -/
theorem eq_or_directories (hsame : Rearranged tree other) :
    tree = other ∨ ∃ entries others, tree = .directory entries ∧ other = .directory others := by
  induction hsame with
  | refl tree => exact .inl rfl
  | entries _ _ => exact .inr ⟨_, _, rfl, rfl⟩
  | within _ _ _ _ _ => exact .inr ⟨_, _, rfl, rfl⟩
  | trans _ _ ih₁ ih₂ =>
    rcases ih₁ with rfl | ⟨entries, others, rfl, rfl⟩
    · exact ih₂
    · rcases ih₂ with rfl | ⟨_, others', -, rfl⟩
      · exact .inr ⟨_, _, rfl, rfl⟩
      · exact .inr ⟨_, _, rfl, rfl⟩

/-- A tree is listed as its rearrangements are. -/
theorem listing_eq (hsame : Rearranged tree other) (lead : Nat) (path : Path) :
    tree.listing lead path = other.listing lead path := by
  induction hsame generalizing path with
  | refl tree => rfl
  | entries hnames hperm =>
    rw [listing_directory, listing_directory,
      byName_eq_of_perm (hperm.filterMap _) (nodup_names_filterMap name_asFile? hnames),
      byName_eq_of_perm (hperm.filterMap _)
        (nodup_names_filterMap (name_asDirectory? lead path) hnames)]
  | @within tree other name front back hsame ih =>
    -- The entry adds the same as before: nothing to the files, and the same listing.
    have hentry : asFile? (name, tree) = asFile? (name, other) ∧
        asDirectory? lead path (name, tree) = asDirectory? lead path (name, other) := by
      rcases hsame.eq_or_directories with rfl | ⟨entries, others, rfl, rfl⟩
      · exact ⟨rfl, rfl⟩
      · refine ⟨rfl, ?_⟩
        rw [asDirectory?, asDirectory?, ih]
    rw [listing_directory, listing_directory]
    simp only [List.filterMap_append, List.filterMap_cons, hentry.1, hentry.2]
  | trans _ _ ih₁ ih₂ => exact (ih₁ path).trans (ih₂ path)

end Rearranged

end CommitSeal.FileTree
