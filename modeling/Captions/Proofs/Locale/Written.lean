import Captions.Locale.Basic
import Mathlib.Data.List.TakeWhile

/-!
# Locales in their written form

A locale can be written with either separator, and reads as itself: no character of a code is a
separator or a blank, so nothing is trimmed and the two codes are parted where they were joined.

Results:
* `ofChars?_of_no_separator`, `ofChars?_append_separator`: how a tag is parted into its codes.
* `parse_write`, `parse_tag`: a written locale reads as that locale.
-/

namespace Captions

/-! ## The characters of a code -/

namespace Text

/-- No blank stands between the space and the control characters behind ASCII. -/
theorem isBlank_eq_false_of_lt {c : Char} (h : 0x20 < c.toNat) (hlt : c.toNat < 0x85) :
    isBlank c = false := by
  simp only [isBlank, blankRanges, List.any_cons, List.any_nil, Bool.or_false, Bool.or_eq_false_iff,
    Bool.and_eq_false_iff, decide_eq_false_iff_not]
  omega

theorem trim_eq_self {cs : List Char} (h : ∀ c ∈ cs, isBlank c = false) : trim cs = cs := by
  have hdrop : ∀ l : List Char, (∀ c ∈ l, isBlank c = false) → l.dropWhile isBlank = l := by
    rintro (_ | ⟨c, l⟩) hl
    · rfl
    · exact List.dropWhile_cons_of_neg (by simp [hl c])
  rw [trim, hdrop cs h, hdrop cs.reverse fun c hc => h c (List.mem_reverse.mp hc),
    List.reverse_reverse]

end Text

namespace Locale

theorem toNat_of_isAlphanum {c : Char} (h : c.isAlphanum = true) :
    0x30 ≤ c.toNat ∧ c.toNat ≤ 0x7A ∧ c.toNat ≠ 0x5F := by
  have hkinds : (c.isUpper = true ∨ c.isLower = true) ∨ c.isDigit = true :=
    (Bool.or_eq_true_iff.mp h).imp_left Bool.or_eq_true_iff.mp
  have hrange : (0x41 ≤ c.toNat ∧ c.toNat ≤ 0x5A ∨ 0x61 ≤ c.toNat ∧ c.toNat ≤ 0x7A) ∨
      0x30 ≤ c.toNat ∧ c.toNat ≤ 0x39 := by
    refine hkinds.imp (Or.imp (fun hupper => ?_) fun hlower => ?_) fun hdigit => ?_
    · exact of_decide_eq_true hupper
    · obtain ⟨hge, hle⟩ := Bool.and_eq_true_iff.mp hlower
      exact ⟨of_decide_eq_true hge, of_decide_eq_true hle⟩
    · obtain ⟨hge, hle⟩ := Bool.and_eq_true_iff.mp hdigit
      exact ⟨of_decide_eq_true hge, of_decide_eq_true hle⟩
  omega

theorem isBlank_eq_false_of_isAlphanum {c : Char} (h : c.isAlphanum = true) :
    Text.isBlank c = false := by
  have hrange := toNat_of_isAlphanum h
  exact Text.isBlank_eq_false_of_lt (by omega) (by omega)

theorem isSeparator_eq_false_of_isAlphanum {c : Char} (h : c.isAlphanum = true) :
    isSeparator c = false := by
  have hrange := toNat_of_isAlphanum h
  rw [isSeparator, Bool.or_eq_false_iff, decide_eq_false_iff_not, decide_eq_false_iff_not]
  constructor
  · rintro rfl
    simp at hrange
  · rintro rfl
    simp at hrange

theorem isBlank_eq_false_of_isSeparator {c : Char} (h : isSeparator c = true) :
    Text.isBlank c = false := by
  rw [isSeparator, Bool.or_eq_true, decide_eq_true_eq, decide_eq_true_eq] at h
  rcases h with rfl | rfl <;> rfl

theorem isAlphanum_of_mem_language {l : Language} {c : Char} (h : c ∈ l.code.toList) :
    c.isAlphanum = true :=
  have halpha : c.isAlpha = true := Bool.or_eq_true_iff.mpr (.inr (l.lower c h))
  Bool.or_eq_true_iff.mpr (.inl halpha)

theorem isAlphanum_of_mem_region {r : Region} {c : Char} (h : c ∈ r.code.toList) :
    c.isAlphanum = true := by
  rcases r.isRegionCode with ⟨-, hupper⟩ | ⟨-, hdigit⟩
  · have halpha : c.isAlpha = true := Bool.or_eq_true_iff.mpr (.inl (hupper c h))
    exact Bool.or_eq_true_iff.mpr (.inl halpha)
  · exact Bool.or_eq_true_iff.mpr (.inr (hdigit c h))

theorem not_isSeparator_of_mem_language {l : Language} :
    ∀ c ∈ l.code.toList, (!isSeparator c) = true := fun c hc => by
  rw [isSeparator_eq_false_of_isAlphanum (isAlphanum_of_mem_language hc)]
  rfl

theorem isBlank_eq_false_of_mem_write {separator : Char} (h : isSeparator separator = true)
    (l : Locale) : ∀ c ∈ (l.write (String.singleton separator)).toList, Text.isBlank c = false := by
  intro c hc
  cases l with
  | root => simp [write] at hc
  | language l => exact isBlank_eq_false_of_isAlphanum (isAlphanum_of_mem_language hc)
  | regional l r =>
    simp only [write, String.toList_append, String.toList_singleton, List.mem_append,
      List.mem_singleton] at hc
    rcases hc with (hc | rfl) | hc
    · exact isBlank_eq_false_of_isAlphanum (isAlphanum_of_mem_language hc)
    · exact isBlank_eq_false_of_isSeparator h
    · exact isBlank_eq_false_of_isAlphanum (isAlphanum_of_mem_region hc)

/-! ## Reading what was written -/

/-- Without a separator the whole text is the language. -/
theorem ofChars?_of_no_separator {cs : List Char} (hne : cs ≠ [])
    (hcs : ∀ c ∈ cs, (!isSeparator c) = true) :
    ofChars? cs = (Language.parse? cs).map .language := by
  have hempty : cs.isEmpty = false := by simpa using hne
  rw [ofChars?, hempty, List.takeWhile_eq_self_iff.mpr hcs, List.dropWhile_eq_nil_iff.mpr hcs]
  cases Language.parse? cs with
  | none => rfl
  | some l => rfl

/-- The first separator parts the language from the region. -/
theorem ofChars?_append_separator {as : List Char} (has : ∀ c ∈ as, (!isSeparator c) = true)
    {separator : Char} (h : isSeparator separator = true) (bs : List Char) :
    ofChars? (as ++ separator :: bs) =
      (Language.parse? as).bind fun l => (Region.parse? bs).map (.regional l) := by
  have hstop : ¬ (!isSeparator separator) = true := by simp [h]
  have hempty : (as ++ separator :: bs).isEmpty = false := by simp
  rw [ofChars?, hempty, List.takeWhile_append_of_pos has, List.dropWhile_append_of_pos has,
    List.takeWhile_cons_of_neg (p := (!isSeparator ·)) hstop,
    List.dropWhile_cons_of_neg (p := (!isSeparator ·)) hstop, List.append_nil]
  cases Language.parse? as with
  | none => rfl
  | some l => rfl

theorem language_code_ne_nil (l : Language) : l.code.toList ≠ [] := by
  intro hnil
  have := l.two_le
  simp [hnil] at this

theorem ofChars?_language (l : Language) : ofChars? l.code.toList = some (.language l) := by
  rw [ofChars?_of_no_separator (language_code_ne_nil l) not_isSeparator_of_mem_language,
    Language.parse?_code]
  rfl

theorem ofChars?_regional (l : Language) {separator : Char} (h : isSeparator separator = true)
    (r : Region) :
    ofChars? (l.code.toList ++ separator :: r.code.toList) = some (.regional l r) := by
  rw [ofChars?_append_separator not_isSeparator_of_mem_language h, Language.parse?_code,
    Region.parse?_code]
  rfl

/-- **A written locale reads as that locale**, with either separator. -/
theorem parse_write {separator : Char} (h : isSeparator separator = true) (l : Locale) :
    parse (l.write (String.singleton separator)) = .ok l := by
  have hread : ofChars? (l.write (String.singleton separator)).toList = some l := by
    cases l with
    | root => rfl
    | language l => exact ofChars?_language l
    | regional l r => simpa [write] using ofChars?_regional l h r
  simp only [parse, Text.trim_eq_self (isBlank_eq_false_of_mem_write h l), hread]

theorem parse_tag (l : Locale) : parse l.tag = .ok l :=
  parse_write (show isSeparator '-' = true from rfl) l

end Locale

end Captions
