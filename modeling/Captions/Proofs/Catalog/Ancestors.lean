import Captions.Proofs.Catalog.Fallback
import Captions.Proofs.Locale.Chain

/-!
# A catalog refines that of its parent

The layers of a catalog end with those of every locale further down its chain, whatever bundles are
missing or fail in between. So the catalog of a locale has the templates of its own bundle, and for
every other key it is the catalog of the parent: it knows at least the keys that the parent knows,
and a change to its own bundle reaches no other key.

Results:
* `layers_load_of_chain_eq_append`: the layers of an ancestor are the last ones of a catalog.
* `keys_subset_of_suffix`, `missingKeys_subset_of_suffix`: with more layers in front a catalog has
  more keys and lacks fewer.
* `get?_load_eq_or`: a key is looked up in the locale's own bundle, then in the parent's catalog.
* `refinesParent_load`: what a catalog has to do with that of its parent.
-/

namespace Captions

/-! ## A change to one bundle -/

namespace Store

/-- `other` gives what `store` gives for every locale but `locale`. -/
def AgreesBeside (other store : Store) (baseName : String) (locale : Locale) : Prop :=
  ∀ candidate ≠ locale, other.load baseName candidate = store.load baseName candidate

theorem AgreesBeside.omitsFailuresOf {store other : Store} {baseName : String} {locale : Locale}
    {candidates : List Locale} (h : other.AgreesBeside store baseName locale)
    (hnot : locale ∉ candidates) : other.OmitsFailuresOf store baseName candidates := by
  intro candidate hmem
  refine .inl (h candidate ?_)
  rintro rfl
  exact hnot hmem

end Store

namespace Catalog

/-! ## More layers in front -/

section Layers

variable {child parent : Catalog}

theorem get?_of_layers_eq_append {front : List (Locale × Bundle)}
    (h : child.layers = front ++ parent.layers) (key : String) :
    child.get? key = (front.findSome? fun layer => layer.2.get? key).or (parent.get? key) := by
  rw [get?, h, List.findSome?_append]
  rfl

theorem contains_of_suffix (h : parent.layers <:+ child.layers) {key : String}
    (hkey : parent.contains key = true) : child.contains key = true := by
  obtain ⟨front, hfront⟩ := h
  rw [contains, get?_of_layers_eq_append hfront.symm, Option.isSome_or, Bool.or_eq_true]
  exact .inr hkey

theorem keys_subset_of_suffix (h : parent.layers <:+ child.layers) : parent.keys ⊆ child.keys := by
  intro key hkey
  rw [mem_keys_iff] at hkey ⊢
  exact contains_of_suffix h hkey

theorem missingKeys_subset_of_suffix (h : parent.layers <:+ child.layers)
    (reference : List String) : child.missingKeys reference ⊆ parent.missingKeys reference := by
  intro key hkey
  rw [mem_missingKeys_iff] at hkey ⊢
  refine ⟨hkey.1, Bool.eq_false_iff.mpr fun hparent => ?_⟩
  exact Bool.eq_false_iff.mp hkey.2 (contains_of_suffix h hparent)

end Layers

/-! ## Catalogs along a chain -/

section Chain

variable {l ancestor parent : Locale}

/-- The layers of an ancestor are the last ones of a catalog. -/
theorem layers_load_of_chain_eq_append {front rest : List Locale}
    (h : l.chain = front ++ ancestor :: rest) (store : Store) (baseName : String) :
    (load store baseName l).value.layers =
      (front.filterMap fun candidate =>
        (store.bundle? baseName candidate).map fun bundle => (candidate, bundle)) ++
        (load store baseName ancestor).value.layers := by
  rw [value_load, value_load, Locale.chain_of_chain_eq_append h, ← List.filterMap_append, ← h]

theorem layers_load_suffix (h : ancestor ∈ l.chain) (store : Store) (baseName : String) :
    (load store baseName ancestor).value.layers <:+ (load store baseName l).value.layers := by
  obtain ⟨front, rest, hchain⟩ := List.append_of_mem h
  exact ⟨_, (layers_load_of_chain_eq_append hchain store baseName).symm⟩

theorem getElem?_one_chain (l : Locale) : l.chain[1]? = l.parent? := by
  cases l <;> rfl

theorem chain_of_parent? (h : l.parent? = some parent) : l.chain = l :: parent.chain := by
  rw [l.chain_eq, h]
  rfl

/-- A key is looked up in the locale's own bundle, then in the parent's catalog. -/
theorem get?_load_eq_or (h : l.parent? = some parent) (store : Store) (baseName key : String) :
    (load store baseName l).value.get? key =
      (store.own? baseName key l).or ((load store baseName parent).value.get? key) := by
  rw [get?_load, get?_load, chain_of_parent? h, List.findSome?_cons]
  cases store.own? baseName key l with
  | some template => rfl
  | none => rfl

/-- The catalog of the parent does not depend on the bundle of the locale. -/
theorem value_load_parent_of_agreesBeside (h : l.parent? = some parent) {store other : Store}
    {baseName : String} (hother : other.AgreesBeside store baseName l) :
    (load other baseName parent).value = (load store baseName parent).value := by
  have hnot : l ∉ parent.chain := by
    have hnodup := l.nodup_chain
    rw [chain_of_parent? h] at hnodup
    exact (List.nodup_cons.mp hnodup).1
  exact value_load_of_omitsFailuresOf (hother.omitsFailuresOf hnot)

end Chain

/-! ## The catalog of a locale and that of its parent -/

/-- What the catalog of a locale has to do with that of its parent. -/
structure RefinesParent (store : Store) (baseName : String) (l parent : Locale) : Prop where
  /-- The locale's own bundle comes first. -/
  get?_of_own : ∀ bundle key template, store.load baseName l = .ok (some bundle) →
    bundle.get? key = some template → (load store baseName l).value.get? key = some template
  /-- What the own bundle lacks, or would have if it were there, is looked up in the parent. -/
  get?_of_not_own : ∀ key,
    (∀ bundle, store.load baseName l = .ok (some bundle) → bundle.get? key = none) →
      (load store baseName l).value.get? key = (load store baseName parent).value.get? key
  keys_subset : (load store baseName parent).value.keys ⊆ (load store baseName l).value.keys
  missingKeys_subset : ∀ reference, (load store baseName l).value.missingKeys reference ⊆
    (load store baseName parent).value.missingKeys reference
  /-- Another bundle for the locale, or none, changes nothing but the keys of the two bundles. -/
  get?_of_agreesBeside : ∀ other : Store, other.AgreesBeside store baseName l → ∀ key,
    store.own? baseName key l = none → other.own? baseName key l = none →
      (load other baseName l).value.get? key = (load store baseName l).value.get? key

/-- **A catalog refines that of its parent.** Every locale but the root has a parent, the second
member of its chain. The catalog of the locale has the templates of the locale's own bundle and for
every other key those of the parent's catalog, so it knows the parent's keys and lacks none beyond
those that the parent lacks. A change to the own bundle reaches no key that the bundle does not have
before or after. -/
theorem refinesParent_load (store : Store) (baseName : String) {l : Locale} (h : l ≠ .root) :
    ∃ parent, l.chain[1]? = some parent ∧ RefinesParent store baseName l parent := by
  obtain ⟨parent, hparent⟩ : ∃ parent, l.parent? = some parent := by
    cases l with
    | root => exact absurd rfl h
    | language l => exact ⟨.root, rfl⟩
    | regional l r => exact ⟨.language l, rfl⟩
  have hsuffix : (load store baseName parent).value.layers <:+
      (load store baseName l).value.layers := by
    refine layers_load_suffix ?_ store baseName
    rw [chain_of_parent? hparent, parent.chain_eq]
    exact List.mem_cons_of_mem _ List.mem_cons_self
  refine ⟨parent, (getElem?_one_chain l).trans hparent, ?_⟩
  constructor
  case get?_of_own =>
    intro bundle key template hload hget
    rw [get?_load_eq_or hparent, Store.own?_eq_some_iff.mpr ⟨bundle, hload, hget⟩, Option.some_or]
  case get?_of_not_own =>
    intro key hnot
    rw [get?_load_eq_or hparent, Store.own?_eq_none_iff.mpr hnot, Option.none_or]
  case keys_subset => exact keys_subset_of_suffix hsuffix
  case missingKeys_subset => exact missingKeys_subset_of_suffix hsuffix
  case get?_of_agreesBeside =>
    intro other hother key hbefore hafter
    rw [get?_load_eq_or hparent, get?_load_eq_or hparent, hbefore, hafter,
      value_load_parent_of_agreesBeside hparent hother]

end Catalog

/-- English as it is used in Britain. -/
def Locale.british : Locale :=
  .regional ⟨"en", by decide, by decide, by simp⟩ ⟨"GB", .inl ⟨by decide, by simp⟩⟩

/-- A store with bundles for the root and for every language that fails for every region. -/
def Store.withoutRegions : Store where
  load
    | _, .root => .ok (some (.ofList [("save", "Store"), ("quit", "Leave")]))
    | _, .language _ => .ok (some (.ofList [("save", "Save")]))
    | baseName, locale => .error (.store baseName locale.tag "unreadable")

/-- The same store with a bundle for one region. -/
def Store.withBritish : Store where
  load baseName locale :=
    if locale = .british then .ok (some (.ofList [("color", "Colour")]))
    else withoutRegions.load baseName locale

/-- While its own bundle fails a locale has its parent's template, and once there is such a bundle
the keys of the other ones stay as they were. -/
theorem Catalog.refinesParent_load_unreadable :
    Locale.british ≠ .root ∧
      (load .withoutRegions "app" .british).value.get? "save" = some "Save" ∧
      (load .withBritish "app" .british).value.get? "quit" =
        (load .withoutRegions "app" .british).value.get? "quit" := by
  have hroot : Locale.british ≠ .root := by decide
  obtain ⟨parent, hparent, h⟩ := refinesParent_load .withoutRegions "app" hroot
  have henglish : some (Locale.language ⟨"en", by decide, by decide, by simp⟩) = some parent :=
    hparent
  obtain rfl := Option.some.inj henglish
  refine ⟨hroot, ?_, h.get?_of_agreesBeside .withBritish ?_ "quit" ?_ ?_⟩
  · rw [h.get?_of_not_own "save" fun bundle hload => nomatch hload]
    decide +kernel
  · exact fun candidate hne => if_neg hne
  · decide +kernel
  · decide +kernel

end Captions
