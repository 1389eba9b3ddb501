import Mathlib.Data.Finmap
import Mathlib.Data.List.Lex
import Mathlib.Data.List.Sort
import Mathlib.Data.String.Basic

/-! # Trees of files

What lies below a directory, by the path from there.  A tree is walked so that a directory comes
before what is in it.
-/

namespace Storage

variable {κ χ : Type}

/-- The keys of a map in increasing order. -/
def sortedKeys [LinearOrder κ] (map : Finmap fun _ : κ => χ) : List κ :=
  Quotient.liftOn map.entries
    (fun entries => (entries.map Sigma.fst).insertionSort (· ≤ ·))
    (fun _ _ same => ((List.perm_insertionSort _ _).trans
      ((same.map Sigma.fst).trans (List.perm_insertionSort _ _).symm)).eq_of_pairwise
        (fun _ _ _ _ => le_antisymm) (List.pairwise_insertionSort _ _)
        (List.pairwise_insertionSort _ _))

section SortedKeys

variable [LinearOrder κ] {map : Finmap fun _ : κ => χ}

theorem mem_sortedKeys {key : κ} : key ∈ sortedKeys map ↔ key ∈ map := by
  obtain ⟨entries, nodup⟩ := map
  induction entries using Quotient.inductionOn with
  | h entries =>
    change key ∈ (entries.map Sigma.fst).insertionSort (· ≤ ·) ↔ key ∈ entries.map Sigma.fst
    exact (List.perm_insertionSort _ _).mem_iff

theorem nodup_sortedKeys : (sortedKeys map).Nodup := by
  obtain ⟨entries, nodup⟩ := map
  induction entries using Quotient.inductionOn with
  | h entries =>
    change ((entries.map Sigma.fst).insertionSort (· ≤ ·)).Nodup
    exact (List.perm_insertionSort _ _).nodup_iff.mpr nodup

theorem sorted_sortedKeys : (sortedKeys map).Pairwise (· ≤ ·) := by
  obtain ⟨entries, nodup⟩ := map
  induction entries using Quotient.inductionOn with
  | h entries => exact List.pairwise_insertionSort _ _

end SortedKeys

/-- What is there can be put there again. -/
theorem insert_same [DecidableEq κ] {map : Finmap fun _ : κ => χ} {key : κ} {value : χ}
    (found : map.lookup key = some value) : map.insert key value = map := by
  refine Finmap.ext_lookup fun other => ?_
  by_cases here : other = key
  · rw [here, Finmap.lookup_insert, found]
  · rw [Finmap.lookup_insert_of_ne _ here]

/-- What there is at a path. -/
inductive Node (χ : Type) where
  | dir
  | file (content : χ)
  deriving DecidableEq

/-- What lies below a directory, by the names on the way. -/
abbrev FileTree (χ : Type) := Finmap fun _ : List String => Node χ

namespace FileTree

/-- The directory itself is not in it, and whatever is in it lies in a directory of it. -/
structure Closed (tree : FileTree χ) : Prop where
  root : [] ∉ tree
  parent : ∀ path name, path ++ [name] ∈ tree → path = [] ∨ tree.lookup path = some .dir

/-- The names right below the directory, in some order. -/
def IsListing (tree : FileTree χ) (names : List String) : Prop :=
  names.Nodup ∧ ∀ name, name ∈ names ↔ [name] ∈ tree

/-- What lies at and below a path, each directory before what is in it. -/
structure IsWalk (tree : FileTree χ) (top : List String) (paths : List (List String)) : Prop where
  nodup : paths.Nodup
  mem_iff : ∀ path, path ∈ paths ↔ path ∈ tree ∧ top <+: path
  parentsFirst : paths.Pairwise fun first second => ¬ second <+: first

def listing (tree : FileTree χ) : List String :=
  (sortedKeys tree).filterMap fun
    | [name] => some name
    | _ => none

def walk (tree : FileTree χ) (top : List String) : List (List String) :=
  (sortedKeys tree).filter (top.isPrefixOf ·)

theorem isListing_listing (tree : FileTree χ) : tree.IsListing tree.listing := by
  constructor
  · refine nodup_sortedKeys.filterMap ?_
    intro first second name inFirst inSecond
    split at inFirst <;> split at inSecond <;> simp_all
  · intro name
    rw [listing, List.mem_filterMap]
    constructor
    · rintro ⟨path, member, found⟩
      split at found
      · cases found
        exact mem_sortedKeys.mp member
      · cases found
    · exact fun member => ⟨[name], mem_sortedKeys.mpr member, rfl⟩

theorem le_of_isPrefix {first second : List String} (isPrefix : first <+: second) :
    first ≤ second := by
  obtain ⟨rest, rfl⟩ := isPrefix
  cases rest with
  | nil => rw [List.append_nil]
  | cons name rest =>
    have less := List.Lex.append_left (· < ·)
      (List.Lex.nil : List.Lex (· < ·) [] (name :: rest)) first
    rw [List.append_nil] at less
    exact le_of_lt (show first < first ++ name :: rest from less)

theorem isWalk_walk (tree : FileTree χ) (top : List String) : tree.IsWalk top (tree.walk top) where
  nodup := nodup_sortedKeys.filter _
  mem_iff path := by
    rw [walk, List.mem_filter, mem_sortedKeys, List.isPrefixOf_iff_prefix]
  parentsFirst := by
    have sorted : (tree.walk top).Pairwise (· ≤ ·) := sorted_sortedKeys.filter _
    have distinct : (tree.walk top).Nodup := nodup_sortedKeys.filter _
    refine (sorted.and distinct).imp ?_
    rintro first second ⟨le, ne⟩ isPrefix
    exact ne (le_antisymm le (le_of_isPrefix isPrefix))

/-- Every path of a closed tree begins with a name of the listing. -/
theorem Closed.exists_top {tree : FileTree χ} (closed : tree.Closed) {path : List String}
    (member : path ∈ tree) : ∃ name, [name] ∈ tree ∧ [name] <+: path := by
  induction path using List.reverseRecOn with
  | nil => exact absurd member closed.root
  | append_singleton path name ih =>
    rcases closed.parent path name member with rfl | isDir
    · exact ⟨name, member, List.prefix_rfl⟩
    · obtain ⟨top, inTree, isPrefix⟩ := ih (Finmap.lookup_isSome.mp (by rw [isDir]; rfl))
      exact ⟨top, inTree, isPrefix.trans (List.prefix_append _ _)⟩

end FileTree

end Storage
