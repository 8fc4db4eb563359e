import Captions.Catalog.Basic
import Mathlib.Data.List.Basic

/-!
# Catalogs fall back along the chain

A catalog is told from what the store gives for the locales of the chain: a key has the template of
the first bundle that has one. A locale whose bundle fails to load counts as one without a bundle,
and a report is all that is left of the failure.

Results:
* `findSome?_eq_some_iff_firstMatch`: searching the bundles in turn finds the first match.
* `value_load`, `requests_load`, `events_load`: what a catalog is loaded to, what the store is asked
  for on the way, and what is reported.
* `isFallback_load`: the whole contract of loading.
-/

namespace Captions

/-! ## What a store gives -/

namespace Store

/-- The bundle of a locale, if there is one and it loads. -/
def bundle? (store : Store) (baseName : String) (locale : Locale) : Option Bundle :=
  match store.load baseName locale with
  | .ok bundle => bundle
  | .error _ => none

/-- The template that the bundle of `locale` itself has for `key`. -/
def own? (store : Store) (baseName : String) (key : String) (locale : Locale) : Option String :=
  (store.bundle? baseName locale).bind (·.get? key)

/-- Why the bundle of a locale does not load, if it does not. -/
def failure? (store : Store) (baseName : String) (locale : Locale) : Option TextError :=
  match store.load baseName locale with
  | .ok _ => none
  | .error error => some error

/-- The first of the `candidates` with a bundle for `key` has `template` for it. -/
def FirstMatch (store : Store) (baseName : String) (candidates : List Locale)
    (key template : String) : Prop :=
  ∃ front candidate rest bundle, candidates = front ++ candidate :: rest ∧
    store.load baseName candidate = .ok (some bundle) ∧ bundle.get? key = some template ∧
    ∀ earlier ∈ front, ∀ bundle, store.load baseName earlier = .ok (some bundle) →
      bundle.get? key = none

/-- `other` has no bundle for some of the `candidates` for which `store` fails, and gives what
`store` gives for all the rest. -/
def OmitsFailuresOf (other store : Store) (baseName : String) (candidates : List Locale) : Prop :=
  ∀ candidate ∈ candidates, other.load baseName candidate = store.load baseName candidate ∨
    (∃ error, store.load baseName candidate = .error error) ∧
      other.load baseName candidate = .ok none

variable {store other : Store} {baseName : String}

theorem bundle?_eq_some_iff {locale : Locale} {bundle : Bundle} :
    store.bundle? baseName locale = some bundle ↔
      store.load baseName locale = .ok (some bundle) := by
  unfold bundle?
  split
  · next h => simp [h]
  · next h => simp [h]

theorem bundle?_eq_of_omitsFailuresOf {candidates : List Locale} {candidate : Locale}
    (h : other.OmitsFailuresOf store baseName candidates) (hmem : candidate ∈ candidates) :
    other.bundle? baseName candidate = store.bundle? baseName candidate := by
  rcases h candidate hmem with hsame | ⟨⟨error, hfails⟩, hnone⟩
  · rw [bundle?, bundle?, hsame]
  · rw [bundle?, bundle?, hfails, hnone]

theorem own?_eq_some_iff {locale : Locale} {key template : String} :
    store.own? baseName key locale = some template ↔
      ∃ bundle, store.load baseName locale = .ok (some bundle) ∧
        bundle.get? key = some template := by
  simp only [own?, Option.bind_eq_some_iff, bundle?_eq_some_iff]

theorem own?_eq_none_iff {locale : Locale} {key : String} :
    store.own? baseName key locale = none ↔
      ∀ bundle, store.load baseName locale = .ok (some bundle) → bundle.get? key = none := by
  simp only [own?, Option.bind_eq_none_iff, bundle?_eq_some_iff]

/-- The first template found along the candidates is that of the first match. -/
theorem findSome?_eq_some_iff_firstMatch {candidates : List Locale} {key template : String} :
    candidates.findSome? (store.own? baseName key) = some template ↔
      store.FirstMatch baseName candidates key template := by
  rw [List.findSome?_eq_some_iff]
  constructor
  · rintro ⟨front, candidate, rest, heq, hfound, hfront⟩
    obtain ⟨bundle, hload, hget⟩ := own?_eq_some_iff.mp hfound
    exact ⟨front, candidate, rest, bundle, heq, hload, hget,
      fun earlier hmem => own?_eq_none_iff.mp (hfront earlier hmem)⟩
  · rintro ⟨front, candidate, rest, bundle, heq, hload, hget, hfront⟩
    exact ⟨front, candidate, rest, heq, own?_eq_some_iff.mpr ⟨bundle, hload, hget⟩,
      fun earlier hmem => own?_eq_none_iff.mpr (hfront earlier hmem)⟩

end Store

/-! ## Loading -/

namespace Catalog

section Loading

variable (store : Store) (baseName : String) (locale : Locale)

/-- The report of the failure to load the bundle of a locale. -/
def failureEvent? : Option Event :=
  (store.failure? baseName locale).map (.bundleFailed baseName locale)

theorem value_loadLayer :
    (loadLayer store baseName locale).value =
      (store.bundle? baseName locale).map fun bundle => (locale, bundle) := by
  rw [loadLayer, Traced.value_bind, Store.bundle?]
  cases store.load baseName locale with
  | ok bundle => rfl
  | error error => rfl

theorem requests_loadLayer :
    (loadLayer store baseName locale).requests = [(baseName, locale)] := by
  rw [loadLayer, Traced.requests_bind]
  cases store.load baseName locale with
  | ok bundle => rfl
  | error error => rfl

theorem events_loadLayer :
    (loadLayer store baseName locale).events = (failureEvent? store baseName locale).toList := by
  rw [loadLayer, Traced.events_bind, failureEvent?, Store.failure?]
  cases store.load baseName locale with
  | ok bundle => rfl
  | error error => rfl

/-- A loaded catalog has a layer for each locale of the chain whose bundle loads. -/
theorem value_load :
    (load store baseName locale).value =
      { baseName, locale
        layers := locale.chain.filterMap fun candidate =>
          (store.bundle? baseName candidate).map fun bundle => (candidate, bundle) } := by
  rw [load, Traced.value_bind, Traced.value_collect]
  simp only [value_loadLayer]
  split <;> rfl

/-- The store is asked once for each locale of the chain. -/
theorem requests_load :
    (load store baseName locale).requests =
      locale.chain.map fun candidate => (baseName, candidate) := by
  rw [load, Traced.requests_bind, Traced.requests_collect, List.map_eq_flatMap]
  simp only [requests_loadLayer]
  split <;> exact List.append_nil _

/-- The failures are reported in the order of the chain; when no bundle has loaded, one more report
comes last. -/
theorem events_load :
    (load store baseName locale).events =
      locale.chain.filterMap (failureEvent? store baseName) ++
      if ∀ candidate ∈ locale.chain, store.bundle? baseName candidate = none then
        [.noBundles baseName locale]
      else [] := by
  have hempty : (locale.chain.filterMap fun candidate =>
      (store.bundle? baseName candidate).map fun bundle => (candidate, bundle)).isEmpty = true ↔
        ∀ candidate ∈ locale.chain, store.bundle? baseName candidate = none := by
    rw [List.isEmpty_iff, List.filterMap_eq_nil_iff]
    simp only [Option.map_eq_none_iff]
  rw [load, Traced.events_bind, Traced.events_collect, Traced.value_collect]
  simp only [value_loadLayer, events_loadLayer, hempty, ← List.filterMap_eq_flatMap_toList]
  split <;> rfl

theorem get?_load (key : String) :
    (load store baseName locale).value.get? key =
      locale.chain.findSome? (store.own? baseName key) := by
  rw [value_load, get?, ← List.head?_filterMap, List.filterMap_filterMap, List.head?_filterMap]
  simp only [Option.bind_map]
  rfl

theorem get?_load_eq_some_iff (key template : String) :
    (load store baseName locale).value.get? key = some template ↔
      store.FirstMatch baseName locale.chain key template := by
  rw [get?_load, Store.findSome?_eq_some_iff_firstMatch]

theorem lookup_load (key : String) :
    store.FirstMatch baseName locale.chain key ((load store baseName locale).value.lookup key) ∨
      (∀ template, ¬ store.FirstMatch baseName locale.chain key template) ∧
        (load store baseName locale).value.lookup key = key := by
  rw [lookup]
  cases hget : (load store baseName locale).value.get? key with
  | some template => exact .inl ((get?_load_eq_some_iff store baseName locale key template).mp hget)
  | none =>
    refine .inr ⟨fun template hmatch => ?_, rfl⟩
    rw [← get?_load_eq_some_iff, hget] at hmatch
    contradiction

/-- A failure to load is a warning, a chain without bundles is none. -/
theorem severity_events_load :
    (load store baseName locale).events.map Event.severity =
      (locale.chain.filterMap (store.failure? baseName)).map (fun _ => .warning) ++
      if ∀ candidate ∈ locale.chain, store.bundle? baseName candidate = none then [.debug]
      else [] := by
  have hfailures : (locale.chain.filterMap (failureEvent? store baseName)).map Event.severity =
      (locale.chain.filterMap (store.failure? baseName)).map fun _ => Severity.warning := by
    simp only [failureEvent?, List.map_filterMap, Option.map_map]
    rfl
  rw [events_load, List.map_append, hfailures]
  split <;> rfl

end Loading

/-- A failure leaves no trace in the catalog. -/
theorem value_load_of_omitsFailuresOf {store other : Store} {baseName : String} {locale : Locale}
    (h : other.OmitsFailuresOf store baseName locale.chain) :
    (load other baseName locale).value = (load store baseName locale).value := by
  rw [value_load, value_load]
  congr 1
  refine List.filterMap_congr fun candidate hmem => ?_
  rw [Store.bundle?_eq_of_omitsFailuresOf h hmem]

/-! ## The contract of loading -/

/-- What comes of loading a catalog for `locale` from `store`. -/
structure IsFallback (store : Store) (baseName : String) (locale : Locale)
    (loaded : Traced Catalog) : Prop where
  /-- The store is asked once for each locale of the chain, the most specific first. -/
  requests_eq : loaded.requests = locale.chain.map fun candidate => (baseName, candidate)
  get?_eq_some_iff : ∀ key template, loaded.value.get? key = some template ↔
    store.FirstMatch baseName locale.chain key template
  /-- A key without a match stands for itself. -/
  lookup_eq : ∀ key, store.FirstMatch baseName locale.chain key (loaded.value.lookup key) ∨
    (∀ template, ¬ store.FirstMatch baseName locale.chain key template) ∧
      loaded.value.lookup key = key
  /-- A store that has no bundle where this one fails gives the same catalog. -/
  value_eq_of_omitsFailuresOf : ∀ other : Store,
    other.OmitsFailuresOf store baseName locale.chain →
      (load other baseName locale).value = loaded.value
  /-- The failures in the order of the chain, then the lack of bundles if there are none. -/
  events_eq : loaded.events =
    locale.chain.filterMap (failureEvent? store baseName) ++
    if ∀ candidate ∈ locale.chain, store.bundle? baseName candidate = none then
      [.noBundles baseName locale]
    else []
  severities_eq : loaded.events.map Event.severity =
    (locale.chain.filterMap (store.failure? baseName)).map (fun _ => .warning) ++
    if ∀ candidate ∈ locale.chain, store.bundle? baseName candidate = none then [.debug]
    else []

/-- **A catalog falls back along the chain, and a failing store is absorbed.** Each key has the
template of the first bundle of the chain that has one, whatever else is missing or fails. -/
theorem isFallback_load (store : Store) (baseName : String) (locale : Locale) :
    IsFallback store baseName locale (load store baseName locale) where
  requests_eq := requests_load store baseName locale
  get?_eq_some_iff := get?_load_eq_some_iff store baseName locale
  lookup_eq := lookup_load store baseName locale
  value_eq_of_omitsFailuresOf _ := value_load_of_omitsFailuresOf
  events_eq := events_load store baseName locale
  severities_eq := severity_events_load store baseName locale

end Catalog

end Captions
