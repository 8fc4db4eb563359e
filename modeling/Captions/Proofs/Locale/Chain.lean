import Captions.Proofs.Locale.Written
import Mathlib.Data.String.Basic

/-!
# Locales and their chains

Each way to write a locale reads as that locale, so it is told by its tag, by the end of a bundle's
file name and by its two codes. The chain along which bundles are looked for goes down in the order
of locales, from the locale itself to the root, and every member goes on as its own chain does.

Results:
* `parse_suffix`, `ofCodes_codes`: the end of a file name and the codes of a locale read as it.
* `compare_root`: every other locale comes behind the root.
* `pairwise_chain`: a chain goes down in the order of locales.
* `chain_of_chain_eq_append`: from each of its members on, a chain is the chain of that member.
* `parse_forms_chain`: the written forms and the chain of a locale.
-/

namespace Captions.Locale

/-! ## Written forms -/

theorem parse_suffix (l : Locale) : parse l.suffix = .ok l :=
  parse_write (show isSeparator '_' = true from rfl) l

theorem ofCodes_codes (l : Locale) : ofCodes l.languageCode l.regionCode = .ok l := by
  have htag : ofCodes l.languageCode l.regionCode = parse l.tag := by
    cases l with
    | root => rfl
    | language l => rfl
    | regional l r => rfl
  rw [htag, parse_tag]

/-- What reads as the locale that it is written for tells locales apart. -/
theorem injective_of_parse {form : Locale → String} (h : ∀ l, parse (form l) = .ok l) :
    Function.Injective form := by
  intro l l' heq
  have hok : Except.ok l = (Except.ok l' : Except TextError Locale) := by rw [← h l, heq, h l']
  exact Except.ok.inj hok

/-! ## The order of locales -/

theorem compare_self (l : Locale) : compare l l = .eq := by
  show (compare l.languageCode l.languageCode).then (compare l.regionCode l.regionCode) = .eq
  cases l.regionCode with
  | none => simp
  | some region => simp

theorem compare_of_regionCode {l l' : Locale} (hlanguage : l.languageCode = l'.languageCode)
    (hregion : compare l.regionCode l'.regionCode = .gt) : compare l l' = .gt := by
  show (compare l.languageCode l'.languageCode).then (compare l.regionCode l'.regionCode) = .gt
  rw [hlanguage, hregion]
  simp

/-- Every other locale comes behind the root. -/
theorem compare_root {l : Locale} (h : l ≠ root) : compare l root = .gt := by
  have hcode : l.languageCode.toList ≠ [] := by
    cases l with
    | root => exact absurd rfl h
    | language l => exact language_code_ne_nil l
    | regional l r => exact language_code_ne_nil l
  have hlt : "" < l.languageCode := by
    obtain ⟨c, cs, hcs⟩ := List.exists_cons_of_ne_nil hcode
    rw [String.lt_iff_toList_lt, hcs]
    exact List.nil_lt_cons c cs
  have hgt : compare l.languageCode "" = .gt := compare_gt_iff_gt.mpr hlt
  show (compare l.languageCode "").then (compare l.regionCode none) = .gt
  rw [hgt]
  rfl

/-! ## The chain of a locale -/

theorem pairwise_chain (l : Locale) : l.chain.Pairwise fun a b => compare a b = .gt := by
  cases l with
  | root => exact List.pairwise_singleton _ _
  | language l => exact List.pairwise_pair.mpr (compare_root (by simp))
  | regional l r =>
    have hlanguage : compare (regional l r) (language l) = .gt := compare_of_regionCode rfl rfl
    refine List.pairwise_cons.mpr ⟨?_, List.pairwise_pair.mpr (compare_root (by simp))⟩
    rw [List.forall_mem_cons, List.forall_mem_singleton]
    exact ⟨hlanguage, compare_root (by simp)⟩

theorem nodup_chain (l : Locale) : l.chain.Nodup := by
  refine (pairwise_chain l).imp ?_
  rintro a b hgt rfl
  rw [compare_self] at hgt
  contradiction

theorem getLast?_chain (l : Locale) : l.chain.getLast? = some root := by
  cases l <;> rfl

/-- From each of its members on, a chain is the chain of that member. -/
theorem chain_of_chain_eq_append {l m : Locale} {as bs : List Locale}
    (h : l.chain = as ++ m :: bs) : m.chain = m :: bs := by
  -- the members in front of `m` are left one by one, each for its parent
  induction as generalizing l with
  | nil =>
    obtain ⟨rfl, -⟩ := List.cons.inj (l.chain_eq.symm.trans h)
    exact h
  | cons a as ih =>
    obtain ⟨-, htail⟩ := List.cons.inj (l.chain_eq.symm.trans h)
    cases hparent : l.parent? with
    | none => simp [hparent] at htail
    | some p =>
      rw [hparent] at htail
      exact ih htail

/-- **A locale is told by its written forms and by its chain.** Its tag, the end of its file names
and its codes read as it, so no two locales are written alike. Its chain starts with it, goes down
in the order of locales without naming one twice, ends with the root, and goes on from each member
as the chain of that member does. -/
theorem parse_forms_chain :
    Function.Injective tag ∧ Function.Injective suffix ∧
      ∀ l : Locale, parse l.tag = .ok l ∧ parse l.suffix = .ok l ∧
        ofCodes l.languageCode l.regionCode = .ok l ∧
        l.chain.head? = some l ∧
        (l.chain.Pairwise fun a b => compare a b = .gt) ∧ l.chain.Nodup ∧
        l.chain.getLast? = some root ∧
        ∀ as m bs, l.chain = as ++ m :: bs → m.chain = m :: bs := by
  refine ⟨injective_of_parse parse_tag, injective_of_parse parse_suffix, fun l => ?_⟩
  refine ⟨parse_tag l, parse_suffix l, ofCodes_codes l, ?_, pairwise_chain l, nodup_chain l,
    getLast?_chain l, fun as m bs h => chain_of_chain_eq_append h⟩
  rw [chain_eq, List.head?_cons]

end Captions.Locale
