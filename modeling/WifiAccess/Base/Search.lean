import Mathlib.Data.List.Sort

/-! `qsort` and `bsearch` of the C library, as far as their callers may rely on
them. The order of equal elements and the match that is found are left open. -/

namespace WifiAccess

variable {Entry : Type}

/-- The order a comparison function defines is total and transitive. -/
structure Consistent (compar : Entry → Entry → Int) : Prop where
  total : ∀ a b, compar a b ≤ 0 ∨ compar b a ≤ 0
  trans : ∀ a b c, compar a b ≤ 0 → compar b c ≤ 0 → compar a c ≤ 0

/-- An array in the order of a comparison function. -/
def Ordered (compar : Entry → Entry → Int) (entries : List Entry) : Prop :=
  entries.Pairwise fun a b => compar a b ≤ 0

/-- An implementation of the two calls for one comparison function. On an array
out of order `bsearch` may miss a match, but returns nothing that is none. -/
structure SearchLib (compar : Entry → Entry → Int) where
  qsort : List Entry → List Entry
  bsearch : Entry → List Entry → Option Nat
  qsort_perm : ∀ entries, (qsort entries).Perm entries
  qsort_ordered : ∀ entries, Ordered compar (qsort entries)
  bsearch_found : ∀ key entries i, bsearch key entries = some i →
    ∃ entry, entries[i]? = some entry ∧ compar key entry = 0
  bsearch_complete : ∀ key entries, Ordered compar entries →
    (∃ entry ∈ entries, compar key entry = 0) →
    (bsearch key entries).isSome

/-- Insertion sort and a linear scan. -/
def SearchLib.reference {compar : Entry → Entry → Int} (consistent : Consistent compar) :
    SearchLib compar where
  qsort entries := entries.insertionSort fun a b => compar a b ≤ 0
  bsearch key entries := entries.findIdx? fun entry => compar key entry = 0
  qsort_perm entries := List.perm_insertionSort _ entries
  qsort_ordered entries := by
    have : Std.Total fun a b => compar a b ≤ 0 := ⟨consistent.total⟩
    have : IsTrans Entry fun a b => compar a b ≤ 0 := ⟨consistent.trans⟩
    exact List.pairwise_insertionSort _ entries
  bsearch_found key entries i found := by
    obtain ⟨inside, matched, _⟩ := List.findIdx?_eq_some_iff_getElem.mp found
    exact ⟨entries[i], List.getElem?_eq_getElem inside, by simpa using matched⟩
  bsearch_complete key entries _ present := by
    simpa using present

end WifiAccess
