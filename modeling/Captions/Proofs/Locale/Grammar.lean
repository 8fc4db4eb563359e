import Captions.Proofs.Locale.Written
import Mathlib.Data.List.Basic

/-!
# The tags of locales

Which texts name a locale, and which locale each of them names, said without a way to find it out:
a tag is put together from a language, a separator and a region, and stands for their one written
form. Blanks around a tag do not count, and neither do the case of its letters and the kind of its
separator.

Results:
* `trim_eq_iff`: what is left of a text without the blanks around it.
* `Language.parse?_eq_some_iff`, `Region.parse?_eq_some_iff`: the texts of the codes.
* `ofChars?_eq_some_iff`: the locales that texts without blanks around them name.
* `eq_iff_map_fold_eq`: two tags name one locale exactly when they are the same but for case and
  separator.
* `parse_grammar`: reading accepts the tags, gives the locale that each of them names, and refuses
  every other text with what is left of it.
-/

namespace Captions

/-! ## Blanks around a text -/

namespace Text

/-- `core` stands in `cs` with nothing but blanks around it, and has none at its ends. -/
structure IsTrimmed (cs core : List Char) : Prop where
  surrounded : ∃ front back, cs = front ++ (core ++ back) ∧
    (∀ c ∈ front, isBlank c = true) ∧ ∀ c ∈ back, isBlank c = true
  head? : ∀ c ∈ core.head?, isBlank c = false
  getLast? : ∀ c ∈ core.getLast?, isBlank c = false

theorem dropWhile_isBlank_append {front cs : List Char} (hfront : ∀ c ∈ front, isBlank c = true)
    (hcs : ∀ c ∈ cs.head?, isBlank c = false) : (front ++ cs).dropWhile isBlank = cs := by
  rw [List.dropWhile_append_of_pos hfront]
  cases cs with
  | nil => rfl
  | cons c cs => exact List.dropWhile_cons_of_neg (by simp [hcs c rfl])

theorem isTrimmed_trim (cs : List Char) : IsTrimmed cs (trim cs) := by
  have hfront := List.takeWhile_append_dropWhile (p := isBlank) (l := cs)
  have hback := List.takeWhile_append_dropWhile (p := isBlank)
    (l := (cs.dropWhile isBlank).reverse)
  have hhead : ∀ l : List Char, ∀ c ∈ (l.dropWhile isBlank).head?, isBlank c = false := by
    intro l c hc
    have := List.head?_dropWhile_not isBlank l
    rw [hc] at this
    simpa using this
  have hrest : cs.dropWhile isBlank =
      trim cs ++ ((cs.dropWhile isBlank).reverse.takeWhile isBlank).reverse := by
    rw [trim, ← List.reverse_append, hback, List.reverse_reverse]
  refine ⟨⟨cs.takeWhile isBlank, ((cs.dropWhile isBlank).reverse.takeWhile isBlank).reverse,
    ?_, ?_, ?_⟩, ?_, ?_⟩
  · rw [← hrest, hfront]
  · intro c hc
    exact List.mem_takeWhile_imp hc
  · intro c hc
    exact List.mem_takeWhile_imp (List.mem_reverse.mp hc)
  · intro c hc
    apply hhead cs c
    rw [hrest]
    exact List.mem_head?_append_of_mem_head? hc
  · intro c hc
    apply hhead (cs.dropWhile isBlank).reverse c
    rwa [trim, List.getLast?_reverse] at hc

/-- What is left of a text without the blanks around it. -/
theorem trim_eq_iff {cs core : List Char} : trim cs = core ↔ IsTrimmed cs core := by
  constructor
  · rintro rfl
    exact isTrimmed_trim cs
  · rintro ⟨⟨front, back, rfl, hfront, hback⟩, hhead, hlast⟩
    by_cases hnil : core = []
    · subst hnil
      rw [trim_eq_nil_iff]
      simpa [or_imp, forall_and] using ⟨hfront, hback⟩
    · have hhead' : ∀ c ∈ (core ++ back).head?, isBlank c = false := by
        intro c hc
        rw [List.head?_append_of_ne_nil _ hnil] at hc
        exact hhead c hc
      have hlast' : ∀ c ∈ core.reverse.head?, isBlank c = false := by
        intro c hc
        rw [List.head?_reverse] at hc
        exact hlast c hc
      have hback' : ∀ c ∈ back.reverse, isBlank c = true := by simpa using hback
      rw [trim, dropWhile_isBlank_append hfront hhead', List.reverse_append,
        dropWhile_isBlank_append hback' hlast', List.reverse_reverse]

end Text

/-! ## Codes -/

/-- Two to eight ASCII letters. -/
structure IsLanguageText (cs : List Char) : Prop where
  two_le : 2 ≤ cs.length
  le_eight : cs.length ≤ 8
  isAlpha : ∀ c ∈ cs, c.isAlpha = true

/-- Two ASCII letters or three ASCII digits. -/
def IsRegionText (cs : List Char) : Prop :=
  (cs.length = 2 ∧ ∀ c ∈ cs, c.isAlpha = true) ∨ (cs.length = 3 ∧ ∀ c ∈ cs, c.isDigit = true)

theorem toNat_lt_of_isDigit {c : Char} (h : c.isDigit = true) : c.toNat < 128 := by
  simp only [Char.isDigit, UInt32.le_iff_toNat_le, Bool.and_eq_true, decide_eq_true_eq] at h
  exact Nat.lt_of_le_of_lt h.2 (by decide)

theorem toUpper_eq_self_of_isDigit {c : Char} (h : c.isDigit = true) : c.toUpper = c :=
  ascii_induction (P := fun c => c.isDigit = true → c.toUpper = c) (by decide) c
    (toNat_lt_of_isDigit h) h

theorem toLower_eq_self_of_isDigit {c : Char} (h : c.isDigit = true) : c.toLower = c :=
  ascii_induction (P := fun c => c.isDigit = true → c.toLower = c) (by decide) c
    (toNat_lt_of_isDigit h) h

/-- Only ASCII characters have another case. -/
theorem char_induction {P : Char → Prop} (hascii : ∀ n : Nat, n < 128 → P (Char.ofNat n))
    (hother : ∀ c : Char, c.toLower = c → c.toUpper = c → P c) (c : Char) : P c := by
  by_cases hc : c.toNat < 128
  · exact ascii_induction hascii c hc
  · have hlower : ¬ (c.val ≥ 'A'.val ∧ c.val ≤ 'Z'.val) := fun h =>
      hc (Nat.lt_of_le_of_lt (UInt32.le_iff_toNat_le.mp h.2) (by decide))
    have hupper : ¬ (c.val ≥ 'a'.val ∧ c.val ≤ 'z'.val) := fun h =>
      hc (Nat.lt_of_le_of_lt (UInt32.le_iff_toNat_le.mp h.2) (by decide))
    exact hother c (dif_neg hlower) (dif_neg hupper)

theorem map_toLower_map_toLower (cs : List Char) :
    (cs.map Char.toLower).map Char.toLower = cs.map Char.toLower := by
  have htwice : ∀ c : Char, c.toLower.toLower = c.toLower :=
    char_induction (by decide) fun c hlower _ => by rw [hlower, hlower]
  rw [List.map_map]
  exact List.map_congr_left fun c _ => htwice c

theorem map_toLower_map_toUpper (cs : List Char) :
    (cs.map Char.toUpper).map Char.toLower = cs.map Char.toLower := by
  have hlast : ∀ c : Char, c.toUpper.toLower = c.toLower :=
    char_induction (by decide) fun c _ hupper => by rw [hupper]
  rw [List.map_map]
  exact List.map_congr_left fun c _ => hlast c

theorem map_toUpper_map_toLower (cs : List Char) :
    (cs.map Char.toLower).map Char.toUpper = cs.map Char.toUpper := by
  have hlast : ∀ c : Char, c.toLower.toUpper = c.toUpper :=
    char_induction (by decide) fun c hlower _ => by rw [hlower]
  rw [List.map_map]
  exact List.map_congr_left fun c _ => hlast c

theorem IsLanguageText.ne_nil {cs : List Char} (h : IsLanguageText cs) : cs ≠ [] := by
  rintro rfl
  have := h.two_le
  simp at this

theorem IsLanguageText.map_toLower {cs : List Char} (h : IsLanguageText cs) :
    IsLanguageText (cs.map Char.toLower) := by
  refine ⟨by simpa using h.two_le, by simpa using h.le_eight, ?_⟩
  rw [List.forall_mem_map]
  intro c hc
  exact isAlpha_of_isLower (isLower_toLower (h.isAlpha c hc))

theorem IsRegionText.map_toLower {cs : List Char} (h : IsRegionText cs) :
    IsRegionText (cs.map Char.toLower) := by
  rcases h with ⟨hlength, halpha⟩ | ⟨hlength, hdigit⟩
  · refine .inl ⟨by simpa using hlength, ?_⟩
    rw [List.forall_mem_map]
    intro c hc
    exact isAlpha_of_isLower (isLower_toLower (halpha c hc))
  · refine .inr ⟨by simpa using hlength, ?_⟩
    rw [List.forall_mem_map]
    intro c hc
    rw [toLower_eq_self_of_isDigit (hdigit c hc), hdigit c hc]

theorem Language.eq_iff_code_eq {l l' : Language} : l = l' ↔ l.code.toList = l'.code.toList := by
  cases l
  cases l'
  simp [String.toList_inj]

theorem Region.eq_iff_code_eq {r r' : Region} : r = r' ↔ r.code.toList = r'.code.toList := by
  cases r
  cases r'
  simp [String.toList_inj]

theorem Language.parse?_eq_some_iff {cs : List Char} {l : Language} :
    Language.parse? cs = some l ↔ IsLanguageText cs ∧ l.code.toList = cs.map Char.toLower := by
  unfold Language.parse?
  split
  · next h =>
    have htext : IsLanguageText cs := ⟨h.1, h.2.1, List.all_eq_true.mp h.2.2⟩
    rw [Option.some_inj, Language.eq_iff_code_eq, String.toList_ofList, eq_comm]
    exact (and_iff_right htext).symm
  · next h =>
    refine ⟨fun hnone => by simp at hnone, ?_⟩
    rintro ⟨htext, -⟩
    exact absurd ⟨htext.two_le, htext.le_eight, List.all_eq_true.mpr htext.isAlpha⟩ h

theorem Region.parse?_eq_some_iff {cs : List Char} {r : Region} :
    Region.parse? cs = some r ↔ IsRegionText cs ∧ r.code.toList = cs.map Char.toUpper := by
  unfold Region.parse?
  split
  · next h =>
    have htext : IsRegionText cs := .inl ⟨h.1, List.all_eq_true.mp h.2⟩
    rw [Option.some_inj, Region.eq_iff_code_eq, String.toList_ofList, eq_comm]
    exact (and_iff_right htext).symm
  · next hletters =>
    split
    · next h =>
      have hdigits : ∀ c ∈ cs, c.isDigit = true := List.all_eq_true.mp h.2
      have hupper : cs.map Char.toUpper = cs :=
        List.map_congr_left (fun c hc => toUpper_eq_self_of_isDigit (hdigits c hc))
          |>.trans (List.map_id cs)
      rw [Option.some_inj, Region.eq_iff_code_eq, String.toList_ofList, hupper, eq_comm]
      exact (and_iff_right (.inr ⟨h.1, hdigits⟩)).symm
    · next hdigits =>
      refine ⟨fun hnone => by simp at hnone, ?_⟩
      rintro ⟨⟨hlength, hall⟩ | ⟨hlength, hall⟩, -⟩
      · exact absurd ⟨hlength, List.all_eq_true.mpr hall⟩ hletters
      · exact absurd ⟨hlength, List.all_eq_true.mpr hall⟩ hdigits

theorem IsLanguageText.exists_code {cs : List Char} (h : IsLanguageText cs) :
    ∃ l : Language, l.code.toList = cs.map Char.toLower := by
  have hparse : ∃ l, Language.parse? cs = some l :=
    ⟨_, dif_pos ⟨h.two_le, h.le_eight, List.all_eq_true.mpr h.isAlpha⟩⟩
  obtain ⟨l, hl⟩ := hparse
  exact ⟨l, (Language.parse?_eq_some_iff.mp hl).2⟩

theorem IsRegionText.exists_code {cs : List Char} (h : IsRegionText cs) :
    ∃ r : Region, r.code.toList = cs.map Char.toUpper := by
  have hparse : ∃ r, Region.parse? cs = some r := by
    unfold Region.parse?
    split
    · exact ⟨_, rfl⟩
    · next hletters =>
      rcases h with ⟨hlength, halpha⟩ | ⟨hlength, hdigit⟩
      · exact absurd ⟨hlength, List.all_eq_true.mpr halpha⟩ hletters
      · exact ⟨_, dif_pos ⟨hlength, List.all_eq_true.mpr hdigit⟩⟩
  obtain ⟨r, hr⟩ := hparse
  exact ⟨r, (Region.parse?_eq_some_iff.mp hr).2⟩

namespace Locale

/-! ## Tags -/

/-- A tag without blanks around it, with what stands in it for the language and for the region. -/
inductive IsTag : List Char → List Char → Option (List Char) → Prop
  | root : IsTag [] [] none
  | language {as : List Char} : IsLanguageText as → IsTag as as none
  | regional {as bs : List Char} {separator : Char} : IsLanguageText as →
      isSeparator separator = true → IsRegionText bs → IsTag (as ++ separator :: bs) as (some bs)

/-- The locale has the written form of these codes: the language in lower case, the region in upper
case. -/
def HasCodes (l : Locale) (as : List Char) (bs : Option (List Char)) : Prop :=
  l.languageCode.toList = as.map Char.toLower ∧
    l.regionCode.map String.toList = bs.map (List.map Char.toUpper)

theorem not_isSeparator_of_isAlpha {cs : List Char} (h : ∀ c ∈ cs, c.isAlpha = true) :
    ∀ c ∈ cs, (!isSeparator c) = true := by
  intro c hc
  have halphanum : c.isAlphanum = true := Bool.or_eq_true_iff.mpr (.inl (h c hc))
  rw [isSeparator_eq_false_of_isAlphanum halphanum]
  rfl

/-- A text has no separator, or the first one parts it. -/
theorem exists_separator_or (cs : List Char) :
    (∀ c ∈ cs, (!isSeparator c) = true) ∨
      ∃ as separator bs, cs = as ++ separator :: bs ∧ isSeparator separator = true ∧
        ∀ c ∈ as, (!isSeparator c) = true := by
  have hparts := List.takeWhile_append_dropWhile (p := (!isSeparator ·)) (l := cs)
  have has : ∀ c ∈ cs.takeWhile (!isSeparator ·), (!isSeparator c) = true :=
    fun c hc => List.mem_takeWhile_imp (p := (!isSeparator ·)) hc
  cases hrest : cs.dropWhile (!isSeparator ·) with
  | nil =>
    rw [hrest, List.append_nil] at hparts
    exact .inl (hparts ▸ has)
  | cons separator bs =>
    rw [hrest] at hparts
    have hstop := List.head?_dropWhile_not (!isSeparator ·) cs
    rw [hrest] at hstop
    exact .inr ⟨_, separator, bs, hparts.symm, by simpa using hstop, has⟩

/-- A text names a locale exactly when it is a tag, and then the one with its codes. -/
theorem ofChars?_eq_some_iff {cs : List Char} {l : Locale} :
    ofChars? cs = some l ↔ ∃ as bs, IsTag cs as bs ∧ l.HasCodes as bs := by
  constructor
  · intro h
    by_cases hnil : cs = []
    · subst hnil
      obtain rfl : root = l := Option.some_inj.mp h
      exact ⟨[], none, .root, rfl, rfl⟩
    rcases exists_separator_or cs with hcs | ⟨as, separator, bs, rfl, hseparator, has⟩
    · rw [ofChars?_of_no_separator hnil hcs, Option.map_eq_some_iff] at h
      obtain ⟨language, hlanguage, rfl⟩ := h
      obtain ⟨htext, hcode⟩ := Language.parse?_eq_some_iff.mp hlanguage
      exact ⟨cs, none, .language htext, hcode, rfl⟩
    · rw [ofChars?_append_separator has hseparator, Option.bind_eq_some_iff] at h
      obtain ⟨language, hlanguage, h⟩ := h
      obtain ⟨region, hregion, rfl⟩ := Option.map_eq_some_iff.mp h
      obtain ⟨hlanguageText, hlanguageCode⟩ := Language.parse?_eq_some_iff.mp hlanguage
      obtain ⟨hregionText, hregionCode⟩ := Region.parse?_eq_some_iff.mp hregion
      exact ⟨as, some bs, .regional hlanguageText hseparator hregionText, hlanguageCode,
        congrArg some hregionCode⟩
  · rintro ⟨as, bs, htag, hlanguage, hregion⟩
    cases htag with
    | root =>
      cases l with
      | root => rfl
      | language l => exact absurd hlanguage (language_code_ne_nil l)
      | regional l r => simp [regionCode] at hregion
    | language htext =>
      rw [ofChars?_of_no_separator htext.ne_nil (not_isSeparator_of_isAlpha htext.isAlpha)]
      cases l with
      | root => exact absurd (List.map_eq_nil_iff.mp hlanguage.symm) htext.ne_nil
      | language l =>
        rw [Language.parse?_eq_some_iff.mpr ⟨htext, hlanguage⟩]
        rfl
      | regional l r => simp [regionCode] at hregion
    | @regional _ bs separator htext hseparator hregionText =>
      rw [ofChars?_append_separator (not_isSeparator_of_isAlpha htext.isAlpha) hseparator]
      cases l with
      | root => simp [regionCode] at hregion
      | language l => simp [regionCode] at hregion
      | regional l r =>
        have hcode : r.code.toList = bs.map Char.toUpper := Option.some_inj.mp hregion
        rw [Language.parse?_eq_some_iff.mpr ⟨htext, hlanguage⟩, Option.bind_some,
          Region.parse?_eq_some_iff.mpr ⟨hregionText, hcode⟩]
        rfl

/-! ## Case and separators -/

/-- The character without its case, and `-` for either separator. -/
def fold (c : Char) : Char := if isSeparator c then '-' else c.toLower

theorem fold_of_isAlphanum {c : Char} (h : c.isAlphanum = true) : fold c = c.toLower := by
  rw [fold, isSeparator_eq_false_of_isAlphanum h, if_neg Bool.false_ne_true]

theorem fold_of_isSeparator {c : Char} (h : isSeparator c = true) : fold c = '-' := by
  rw [fold, if_pos h]

theorem map_fold_of_isLanguageText {cs : List Char} (h : IsLanguageText cs) :
    cs.map fold = cs.map Char.toLower := by
  refine List.map_congr_left fun c hc => fold_of_isAlphanum ?_
  exact Bool.or_eq_true_iff.mpr (.inl (h.isAlpha c hc))

theorem map_fold_of_isRegionText {cs : List Char} (h : IsRegionText cs) :
    cs.map fold = cs.map Char.toLower := by
  refine List.map_congr_left fun c hc => fold_of_isAlphanum ?_
  rcases h with ⟨-, halpha⟩ | ⟨-, hdigit⟩
  · exact Bool.or_eq_true_iff.mpr (.inl (halpha c hc))
  · exact Bool.or_eq_true_iff.mpr (.inr (hdigit c hc))

/-- A tag stays one without its case. -/
theorem IsTag.map_fold {cs as : List Char} {bs : Option (List Char)} (h : IsTag cs as bs) :
    IsTag (cs.map fold) (as.map Char.toLower) (bs.map (List.map Char.toLower)) := by
  cases h with
  | root => exact .root
  | language htext =>
    rw [map_fold_of_isLanguageText htext]
    exact .language htext.map_toLower
  | regional htext hseparator hregion =>
    rw [List.map_append, List.map_cons, map_fold_of_isLanguageText htext,
      map_fold_of_isRegionText hregion, fold_of_isSeparator hseparator]
    exact .regional htext.map_toLower rfl hregion.map_toLower

theorem HasCodes.map_toLower {l : Locale} {as : List Char} {bs : Option (List Char)}
    (h : l.HasCodes as bs) :
    l.HasCodes (as.map Char.toLower) (bs.map (List.map Char.toLower)) := by
  refine ⟨?_, ?_⟩
  · rw [h.1, map_toLower_map_toLower]
  · rw [h.2, Option.map_map]
    congr 1
    funext bs
    exact (map_toUpper_map_toLower bs).symm

theorem toList_tag (l : Locale) :
    l.tag.toList =
      l.languageCode.toList ++ ((l.regionCode.map String.toList).map ('-' :: ·)).getD [] := by
  cases l with
  | root => rfl
  | language l => exact (List.append_nil _).symm
  | regional l r => simp [tag, write, languageCode, regionCode]

/-- A tag is the written form of its locale, but for case and separator. -/
theorem map_fold_eq_map_toLower_tag {cs as : List Char} {bs : Option (List Char)} {l : Locale}
    (htag : IsTag cs as bs) (hcodes : l.HasCodes as bs) :
    cs.map fold = l.tag.toList.map Char.toLower := by
  rw [toList_tag, hcodes.1, hcodes.2, List.map_append, map_toLower_map_toLower]
  cases htag with
  | root => rfl
  | language htext =>
    rw [map_fold_of_isLanguageText htext]
    exact (List.append_nil _).symm
  | regional htext hseparator hregion =>
    rw [List.map_append, List.map_cons, map_fold_of_isLanguageText htext,
      map_fold_of_isRegionText hregion, fold_of_isSeparator hseparator, Option.map_some,
      Option.map_some, Option.getD_some,
      List.map_cons, map_toLower_map_toUpper]
    rfl

/-- Two tags name one locale exactly when they are the same but for case and separator. -/
theorem eq_iff_map_fold_eq {cs cs' : List Char} {l l' : Locale} (h : ofChars? cs = some l)
    (h' : ofChars? cs' = some l') : l = l' ↔ cs.map fold = cs'.map fold := by
  obtain ⟨as, bs, htag, hcodes⟩ := ofChars?_eq_some_iff.mp h
  obtain ⟨as', bs', htag', hcodes'⟩ := ofChars?_eq_some_iff.mp h'
  constructor
  · rintro rfl
    rw [map_fold_eq_map_toLower_tag htag hcodes, map_fold_eq_map_toLower_tag htag' hcodes']
  · intro heq
    have hfold : ofChars? (cs.map fold) = some l :=
      ofChars?_eq_some_iff.mpr ⟨_, _, htag.map_fold, hcodes.map_toLower⟩
    have hfold' : ofChars? (cs'.map fold) = some l' :=
      ofChars?_eq_some_iff.mpr ⟨_, _, htag'.map_fold, hcodes'.map_toLower⟩
    rw [heq, hfold'] at hfold
    exact (Option.some_inj.mp hfold).symm

/-! ## Reading a tag -/

theorem parse_eq_ok_iff {tag : String} {l : Locale} :
    parse tag = .ok l ↔ ofChars? (Text.trim tag.toList) = some l := by
  unfold parse
  dsimp only
  split
  · next l' h => rw [h, Except.ok.injEq, Option.some_inj]
  · next h => simp [h]

theorem parse_eq_error_iff {tag : String} {e : TextError} :
    parse tag = .error e ↔ ofChars? (Text.trim tag.toList) = none ∧
      e = .invalidLocale (String.ofList (Text.trim tag.toList)) := by
  unfold parse
  dsimp only
  split
  · next l h => simp [h]
  · next h => rw [Except.error.injEq, eq_comm, and_iff_right h]

/-- The codes of every tag are those of a locale. -/
theorem IsTag.exists_hasCodes {cs as : List Char} {bs : Option (List Char)} (h : IsTag cs as bs) :
    ∃ l : Locale, l.HasCodes as bs := by
  cases h with
  | root => exact ⟨Locale.root, rfl, rfl⟩
  | language htext =>
    obtain ⟨l, hl⟩ := htext.exists_code
    exact ⟨.language l, hl, rfl⟩
  | regional htext _ hregion =>
    obtain ⟨l, hl⟩ := htext.exists_code
    obtain ⟨r, hr⟩ := IsRegionText.exists_code hregion
    exact ⟨.regional l r, hl, congrArg some hr⟩

theorem exists_ofChars?_eq_some_iff {cs : List Char} :
    (∃ l, ofChars? cs = some l) ↔ ∃ as bs, IsTag cs as bs := by
  constructor
  · rintro ⟨l, h⟩
    obtain ⟨as, bs, htag, -⟩ := ofChars?_eq_some_iff.mp h
    exact ⟨as, bs, htag⟩
  · rintro ⟨as, bs, htag⟩
    obtain ⟨l, hcodes⟩ := htag.exists_hasCodes
    exact ⟨l, ofChars?_eq_some_iff.mpr ⟨as, bs, htag, hcodes⟩⟩

/-- Nothing but blanks names the root. -/
theorem ofChars?_eq_root_iff {cs : List Char} : ofChars? cs = some root ↔ cs = [] := by
  constructor
  · intro h
    obtain ⟨as, bs, htag, hlanguage, -⟩ := ofChars?_eq_some_iff.mp h
    have hnil : as = [] := List.map_eq_nil_iff.mp hlanguage.symm
    cases htag with
    | root => rfl
    | language htext => exact absurd hnil htext.ne_nil
    | regional htext => exact absurd hnil htext.ne_nil
  · rintro rfl
    rfl

/-- **Reading accepts the tags and nothing else.** With `cs` for what is left of a text without the
blanks around it: the text is accepted exactly if `cs` is a tag, and then gives the locale with the
codes of the tag, the root if `cs` is empty; otherwise it is refused with `cs`. Two accepted texts
give one locale exactly if what is left of them is the same but for case and separator. -/
theorem parse_grammar (tag : String) :
    let cs := Text.trim tag.toList
    (∀ core, Text.IsTrimmed tag.toList core ↔ core = cs) ∧
      ((∃ l, parse tag = .ok l) ↔ ∃ as bs, IsTag cs as bs) ∧
      (∀ l, parse tag = .ok l ↔ ∃ as bs, IsTag cs as bs ∧ l.HasCodes as bs) ∧
      (parse tag = .ok root ↔ cs = []) ∧
      (∀ e, parse tag = .error e ↔
        (¬ ∃ as bs, IsTag cs as bs) ∧ e = .invalidLocale (String.ofList cs)) ∧
      ∀ tag' l l', parse tag = .ok l → parse tag' = .ok l' →
        (l = l' ↔ cs.map fold = (Text.trim tag'.toList).map fold) := by
  intro cs
  refine ⟨fun core => ?_, ?_, fun l => ?_, ?_, fun e => ?_, fun tag' l l' h h' => ?_⟩
  · rw [← Text.trim_eq_iff, eq_comm]
  · rw [← exists_ofChars?_eq_some_iff]
    exact exists_congr fun l => parse_eq_ok_iff
  · rw [parse_eq_ok_iff, ofChars?_eq_some_iff]
  · rw [parse_eq_ok_iff, ofChars?_eq_root_iff]
  · rw [parse_eq_error_iff, ← exists_ofChars?_eq_some_iff, ← Option.ne_none_iff_exists', not_not]
  · exact eq_iff_map_fold_eq (parse_eq_ok_iff.mp h) (parse_eq_ok_iff.mp h')

/-- Blanks around a tag, mixed case and either separator. -/
theorem parse_grammar_mixed :
    parse "\u3000eN_uS\n" = parse "EN-us" ∧ (∃ l, parse "EN-us" = .ok l) ∧
      (Text.trim "\u3000eN_uS\n".toList).map fold = (Text.trim "EN-us".toList).map fold := by
  have hlanguage : IsLanguageText "EN".toList :=
    ⟨by decide, by decide, List.all_eq_true.mp (by decide +kernel)⟩
  have hregion : IsRegionText "us".toList := .inl ⟨rfl, List.all_eq_true.mp (by decide +kernel)⟩
  have htrim : Text.trim "EN-us".toList = "EN".toList ++ '-' :: "us".toList := by decide +kernel
  have htag : IsTag (Text.trim "EN-us".toList) "EN".toList (some "us".toList) := by
    rw [htrim]
    exact .regional hlanguage rfl hregion
  obtain ⟨-, hok, -⟩ := parse_grammar "EN-us"
  obtain ⟨l, hl⟩ := hok.mpr ⟨_, _, htag⟩
  have hread : parse "\u3000eN_uS\n" = parse "EN-us" := by decide +kernel
  obtain ⟨-, -, -, -, -, hsame⟩ := parse_grammar "\u3000eN_uS\n"
  exact ⟨hread, ⟨l, hl⟩, (hsame "EN-us" l l (hread.trans hl) hl).mp rfl⟩

/-- Two separators in a row leave an empty region, which is none. -/
example : parse " en--us" = .error (.invalidLocale "en--us") := by
  decide +kernel

end Locale

end Captions
