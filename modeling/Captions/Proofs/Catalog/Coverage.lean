import Captions.Catalog.Basic
import Captions.Proofs.Text.ByteOrder
import Mathlib.Data.List.Sort

/-!
# The keys of a catalog are those that it can look up

The keys of all layers are listed, sorted and freed of repeats. Since equal keys stand side by side
once they are sorted, each key is left once, in whatever order the layers give theirs. What is
missing of a list of keys is found by looking them up, and comes to what is not among the keys.

Results:
* `eq_of_pairwise_lt`: an ascending list is told by its members.
* `dropRepeats_eq_distinct`: every way of sorting the keys comes to the same list.
* `agreesWithLookup`: the lists of keys and of missing keys against looking up.
-/

namespace Captions.Catalog

/-! ## Ascending lists -/

/-- An ascending list is told by its members. -/
theorem eq_of_pairwise_lt {keys keys' : List String}
    (h : keys.Pairwise fun a b => compare a b = .lt)
    (h' : keys'.Pairwise fun a b => compare a b = .lt) (hmem : ∀ key, key ∈ keys ↔ key ∈ keys') :
    keys = keys' := by
  simp only [compare_lt_iff_lt] at h h'
  exact h.eq_of_mem_iff h' hmem

theorem distinct_congr {keys keys' : List String} (h : ∀ key, key ∈ keys ↔ key ∈ keys') :
    distinct keys = distinct keys' := by
  refine eq_of_pairwise_lt (pairwise_lt_distinct keys) (pairwise_lt_distinct keys') fun key => ?_
  rw [mem_distinct_iff, mem_distinct_iff, h]

/-- Every way of sorting the keys comes to the same list. -/
theorem dropRepeats_eq_distinct {sorted keys : List String}
    (hsorted : sorted.Pairwise fun a b => (compare a b).isLE = true)
    (hmem : ∀ key, key ∈ sorted ↔ key ∈ keys) : dropRepeats sorted = distinct keys := by
  refine eq_of_pairwise_lt (pairwise_lt_dropRepeats hsorted) (pairwise_lt_distinct keys)
    fun key => ?_
  rw [mem_dropRepeats_iff, mem_distinct_iff, hmem]

/-! ## Keys and missing keys -/

theorem mem_flatMap_keys_iff {layers : List (Locale × Bundle)} {key : String} :
    (key ∈ layers.flatMap fun layer => layer.2.keys) ↔
      ∃ layer ∈ layers, (layer.2.get? key).isSome = true := by
  simp only [List.mem_flatMap, Bundle.mem_keys_iff]

theorem mem_missingKeys_iff_not_mem_keys {catalog : Catalog} {reference : List String}
    {key : String} :
    key ∈ catalog.missingKeys reference ↔ key ∈ reference ∧ key ∉ catalog.keys := by
  rw [mem_missingKeys_iff, mem_keys_iff, Bool.not_eq_true]

/-- What is missing depends on the members of the list alone. -/
theorem missingKeys_congr (catalog : Catalog) {reference reference' : List String}
    (h : ∀ key, key ∈ reference ↔ key ∈ reference') :
    catalog.missingKeys reference = catalog.missingKeys reference' := by
  refine distinct_congr fun key => ?_
  rw [List.mem_filter, List.mem_filter, h]

theorem missingKeys_keys (catalog : Catalog) : catalog.missingKeys catalog.keys = [] := by
  refine List.eq_nil_iff_forall_not_mem.mpr fun key hkey => ?_
  obtain ⟨hmem, hnot⟩ := mem_missingKeys_iff_not_mem_keys.mp hkey
  exact hnot hmem

/-- The lists of keys and of missing keys against looking up. -/
structure AgreesWithLookup (catalog : Catalog) : Prop where
  pairwise_keys : catalog.keys.Pairwise fun a b => Text.bytes a < Text.bytes b
  mem_keys_iff : ∀ key, key ∈ catalog.keys ↔ catalog.contains key = true
  /-- The layers may give their keys in any order, and these may be sorted in any way. -/
  keys_eq : ∀ sorted : List String,
    (∀ key, key ∈ sorted ↔ ∃ layer ∈ catalog.layers, (layer.2.get? key).isSome = true) →
      (sorted.Pairwise fun a b => (compare a b).isLE = true) → dropRepeats sorted = catalog.keys
  pairwise_missingKeys : ∀ reference,
    (catalog.missingKeys reference).Pairwise fun a b => Text.bytes a < Text.bytes b
  mem_missingKeys_iff : ∀ reference key,
    key ∈ catalog.missingKeys reference ↔ key ∈ reference ∧ key ∉ catalog.keys
  missingKeys_keys : catalog.missingKeys catalog.keys = []
  missingKeys_congr : ∀ reference reference', (∀ key, key ∈ reference ↔ key ∈ reference') →
    catalog.missingKeys reference = catalog.missingKeys reference'

/-- **The keys of a catalog are those that it can look up.** They are listed in the order of their
bytes, each once, and so is what is missing of a list of keys: those that are not among the keys of
the catalog, whatever the order and the repeats of the list. -/
theorem agreesWithLookup (catalog : Catalog) : catalog.AgreesWithLookup where
  pairwise_keys := by
    simp only [← Text.compare_eq_lt_iff]
    exact catalog.pairwise_lt_keys
  mem_keys_iff _ := mem_keys_iff
  keys_eq sorted hmem hsorted := by
    refine dropRepeats_eq_distinct hsorted fun key => ?_
    rw [hmem, mem_flatMap_keys_iff]
  pairwise_missingKeys reference := by
    simp only [← Text.compare_eq_lt_iff]
    exact catalog.pairwise_lt_missingKeys reference
  mem_missingKeys_iff _ _ := mem_missingKeys_iff_not_mem_keys
  missingKeys_keys := missingKeys_keys catalog
  missingKeys_congr _ _ := missingKeys_congr catalog

end Captions.Catalog
