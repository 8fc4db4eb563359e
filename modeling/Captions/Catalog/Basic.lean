import Captions.Catalog.Bundle
import Captions.Traced

/-!
# Message catalogs

A catalog is a row of bundles, the most specific first. A key is looked up in the first bundle that
has it; a key that no bundle has stands for itself. A catalog is loaded along the chain of a locale:
a bundle that is missing or fails to load is left out.

Results:
* `mem_keys_iff`: the keys of a catalog are those that it can look up.
* `mem_missingKeys_iff`: what is missing of a list of keys.
* `pairwise_lt_keys`, `pairwise_lt_missingKeys`: both lists are in ascending order, each key once.
-/

namespace Captions

/-- The templates for one base name and locale. -/
structure Catalog where
  baseName : String
  /-- The locale that was asked for. -/
  locale : Locale
  /-- The bundles with their locales, the most specific first. -/
  layers : List (Locale × Bundle)

namespace Catalog

/-! ## Making a catalog -/

/-- A catalog of one bundle. -/
def ofBundle (baseName : String) (locale : Locale) (bundle : Bundle) : Catalog :=
  { baseName, locale, layers := [(locale, bundle)] }

/-- A catalog without templates. -/
def empty (baseName : String) (locale : Locale) : Catalog := { baseName, locale, layers := [] }

/-- The layer of one locale, if the store has it; a failure is reported. -/
def loadLayer (store : Store) (baseName : String) (locale : Locale) :
    Traced (Option (Locale × Bundle)) := do
  Traced.effect (.bundleRequest baseName locale)
  match store.load baseName locale with
  | .ok bundle => return bundle.map fun bundle => (locale, bundle)
  | .error error =>
    Traced.report (.bundleFailed baseName locale error)
    return none

/-- The catalog of the bundles along the chain of `locale`. -/
def load (store : Store) (baseName : String) (locale : Locale) : Traced Catalog := do
  let layers ← Traced.collect (loadLayer store baseName) locale.chain
  if layers.isEmpty then Traced.report (.noBundles baseName locale)
  return { baseName, locale, layers }

/-! ## Looking up -/

/-- The locales that have a layer, the most specific first. -/
def layerLocales (catalog : Catalog) : List Locale := catalog.layers.map (·.1)

/-- The template of the most specific layer that has `key`. -/
def get? (catalog : Catalog) (key : String) : Option String :=
  catalog.layers.findSome? fun (_, bundle) => bundle.get? key

def contains (catalog : Catalog) (key : String) : Bool := (catalog.get? key).isSome

/-- The template for `key`, or `key` itself. -/
def lookup (catalog : Catalog) (key : String) : String := (catalog.get? key).getD key

/-! ## Coverage -/

/-- The list without those members that repeat the one in front of them. -/
def dropRepeats : List String → List String
  | [] => []
  | [key] => [key]
  | key :: next :: keys =>
    if key = next then dropRepeats (next :: keys) else key :: dropRepeats (next :: keys)

/-- The members of a list in ascending order, each once. -/
def distinct (keys : List String) : List String :=
  dropRepeats (keys.mergeSort fun a b => (compare a b).isLE)

/-- The keys of all layers. -/
def keys (catalog : Catalog) : List String :=
  distinct (catalog.layers.flatMap fun (_, bundle) => bundle.keys)

/-- Those of the `reference` keys that no layer has. -/
def missingKeys (catalog : Catalog) (reference : List String) : List String :=
  distinct (reference.filter fun key => !catalog.contains key)

theorem mem_dropRepeats_iff {keys : List String} {key : String} :
    key ∈ dropRepeats keys ↔ key ∈ keys := by
  fun_induction dropRepeats keys with
  | case1 => rfl
  | case2 => rfl
  | case3 next keys ih => simp [ih]
  | case4 first next keys _ ih => simp [ih]

/-- Where equal members stand side by side, each of them is left once. -/
theorem pairwise_lt_dropRepeats {keys : List String}
    (h : keys.Pairwise fun a b => (compare a b).isLE = true) :
    (dropRepeats keys).Pairwise fun a b => compare a b = .lt := by
  fun_induction dropRepeats keys with
  | case1 => exact .nil
  | case2 key => exact List.pairwise_singleton _ key
  | case3 next keys ih => exact ih h.of_cons
  | case4 key next keys hne ih =>
    obtain ⟨hkey, hrest⟩ := List.pairwise_cons.mp h
    have hlt : compare key next = .lt := by
      rcases Ordering.isLE_iff_eq_lt_or_eq_eq.mp (hkey next List.mem_cons_self) with hlt | heq
      · exact hlt
      · exact absurd (Std.LawfulEqCmp.eq_of_compare heq) hne
    refine List.pairwise_cons.mpr ⟨fun other hother => ?_, ih hrest⟩
    rcases List.mem_cons.mp (mem_dropRepeats_iff.mp hother) with rfl | hmem
    · exact hlt
    · exact Std.TransCmp.lt_of_lt_of_isLE hlt ((List.pairwise_cons.mp hrest).1 other hmem)

theorem mem_distinct_iff {keys : List String} {key : String} :
    key ∈ distinct keys ↔ key ∈ keys := by
  rw [distinct, mem_dropRepeats_iff, List.mem_mergeSort]

theorem pairwise_lt_distinct (keys : List String) :
    (distinct keys).Pairwise fun a b => compare a b = .lt := by
  refine pairwise_lt_dropRepeats (List.pairwise_mergeSort ?_ ?_ keys)
  · exact fun a b c => Std.TransCmp.isLE_trans
  · intro a b
    have hswap : compare b a = (compare a b).swap := Std.OrientedCmp.eq_swap
    rw [hswap]
    cases compare a b <;> rfl

theorem mem_keys_iff {catalog : Catalog} {key : String} :
    key ∈ catalog.keys ↔ catalog.contains key = true := by
  simp [keys, mem_distinct_iff, contains, get?, Bundle.mem_keys_iff]

theorem mem_missingKeys_iff {catalog : Catalog} {reference : List String} {key : String} :
    key ∈ catalog.missingKeys reference ↔ key ∈ reference ∧ catalog.contains key = false := by
  simp [missingKeys, mem_distinct_iff]

theorem pairwise_lt_keys (catalog : Catalog) :
    catalog.keys.Pairwise fun a b => compare a b = .lt :=
  pairwise_lt_distinct _

theorem pairwise_lt_missingKeys (catalog : Catalog) (reference : List String) :
    (catalog.missingKeys reference).Pairwise fun a b => compare a b = .lt :=
  pairwise_lt_distinct _

end Catalog

end Captions
