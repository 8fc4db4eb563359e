import Captions.Locale.Basic
import Captions.TextError
import Std.Data.TreeMap

/-!
# Bundles and stores

A bundle holds the templates of one locale by their keys. A store delivers the bundle of a base name
and a locale, if it has one and can read it.

Results:
* `get?_insert`: a bundle gives the template put in last for a key.
-/

namespace Captions

/-! ## Bundles -/

/-- Templates by their keys. -/
structure Bundle where
  templates : Std.TreeMap String String

namespace Bundle

def empty : Bundle := ⟨∅⟩

/-- The bundle with `template` for `key`, in place of an earlier one if there is one. -/
def insert (bundle : Bundle) (key template : String) : Bundle :=
  ⟨bundle.templates.insert key template⟩

/-- The bundle of a row of entries; the last entry of a key counts. -/
def ofList (entries : List (String × String)) : Bundle :=
  entries.foldl (fun bundle (key, template) => bundle.insert key template) empty

def get? (bundle : Bundle) (key : String) : Option String := bundle.templates[key]?

def size (bundle : Bundle) : Nat := bundle.templates.size

def isEmpty (bundle : Bundle) : Bool := bundle.templates.isEmpty

/-- The keys in ascending order. -/
def keys (bundle : Bundle) : List String := bundle.templates.keys

@[simp]
theorem get?_empty (key : String) : empty.get? key = none := by
  simp [empty, get?]

theorem get?_insert (bundle : Bundle) (key other template : String) :
    (bundle.insert key template).get? other =
      if key = other then some template else bundle.get? other := by
  simp [insert, get?, Std.TreeMap.getElem?_insert]

theorem mem_keys_iff {bundle : Bundle} {key : String} :
    key ∈ bundle.keys ↔ (bundle.get? key).isSome = true := by
  simp [keys, get?, Std.TreeMap.mem_keys]

end Bundle

/-! ## Stores -/

/-- Where bundles come from. -/
structure Store where
  /-- The bundle of a base name and a locale. There may be none, or it may fail to load. -/
  load : (baseName : String) → (locale : Locale) → Except TextError (Option Bundle)

/-- Bundles held in memory, each with its base name and locale, the newest first. -/
structure BundleList where
  bundles : List ((String × Locale) × Bundle)

namespace BundleList

def empty : BundleList := ⟨[]⟩

/-- The list with `bundle`, which takes the place of an earlier one for that name and locale. -/
def insert (list : BundleList) (baseName : String) (locale : Locale) (bundle : Bundle) :
    BundleList :=
  ⟨((baseName, locale), bundle) :: list.bundles⟩

def find? (list : BundleList) (baseName : String) (locale : Locale) : Option Bundle :=
  list.bundles.lookup (baseName, locale)

/-- A list of bundles as a store that never fails. -/
def toStore (list : BundleList) : Store := ⟨fun baseName locale => .ok (list.find? baseName locale)⟩

end BundleList

end Captions
