/-!
# Language and region codes

The two parts of a locale tag. Both types hold codes in their one written form, lower case for a
language and upper case for a region, so two codes are equal exactly when their texts are.

Results:
* `Language.parse?_code`, `Region.parse?_code`: the text of a code reads as that code.
-/

namespace Captions

/-! ## Letters -/

theorem ascii_induction {P : Char → Prop} (h : ∀ n : Nat, n < 128 → P (Char.ofNat n))
    (c : Char) (hc : c.toNat < 128) : P c := by
  have := h c.toNat hc
  rwa [Char.ofNat_toNat] at this

private theorem toNat_le_of_isUpper {c : Char} (h : c.isUpper = true) : c.toNat ≤ 'Z'.toNat :=
  UInt32.le_iff_toNat_le.mp (of_decide_eq_true h).2

private theorem toNat_le_of_isLower {c : Char} (h : c.isLower = true) : c.toNat ≤ 'z'.toNat :=
  have hand : decide (c.val ≥ 'a'.val) = true ∧ decide (c.val ≤ 'z'.val) = true :=
    Bool.and_eq_true_iff.mp h
  UInt32.le_iff_toNat_le.mp (of_decide_eq_true hand.2)

private theorem toNat_lt_of_isAlpha {c : Char} (h : c.isAlpha = true) : c.toNat < 128 := by
  have hor : c.isUpper = true ∨ c.isLower = true := Bool.or_eq_true_iff.mp h
  rcases hor with h | h
  · exact Nat.lt_of_le_of_lt (toNat_le_of_isUpper h) (by decide)
  · exact Nat.lt_of_le_of_lt (toNat_le_of_isLower h) (by decide)

theorem isAlpha_of_isLower {c : Char} (h : c.isLower = true) : c.isAlpha = true :=
  Bool.or_eq_true_iff.mpr (.inr h)

theorem isAlpha_of_isUpper {c : Char} (h : c.isUpper = true) : c.isAlpha = true :=
  Bool.or_eq_true_iff.mpr (.inl h)

theorem isLower_toLower {c : Char} (h : c.isAlpha = true) : c.toLower.isLower = true :=
  ascii_induction (P := fun c => c.isAlpha = true → c.toLower.isLower = true) (by decide) c
    (toNat_lt_of_isAlpha h) h

theorem isUpper_toUpper {c : Char} (h : c.isAlpha = true) : c.toUpper.isUpper = true :=
  ascii_induction (P := fun c => c.isAlpha = true → c.toUpper.isUpper = true) (by decide) c
    (toNat_lt_of_isAlpha h) h

private theorem toLower_eq_self {c : Char} (h : c.isLower = true) : c.toLower = c :=
  ascii_induction (P := fun c => c.isLower = true → c.toLower = c) (by decide) c
    (toNat_lt_of_isAlpha (isAlpha_of_isLower h)) h

private theorem toUpper_eq_self {c : Char} (h : c.isUpper = true) : c.toUpper = c :=
  ascii_induction (P := fun c => c.isUpper = true → c.toUpper = c) (by decide) c
    (toNat_lt_of_isAlpha (isAlpha_of_isUpper h)) h

/-! ## Languages -/

/-- A language: two to eight lower-case ASCII letters. -/
structure Language where
  code : String
  two_le : 2 ≤ code.toList.length
  le_eight : code.toList.length ≤ 8
  lower : ∀ c ∈ code.toList, c.isLower = true
deriving DecidableEq

/-- The language written as two to eight ASCII letters of either case. -/
def Language.parse? (cs : List Char) : Option Language :=
  if h : 2 ≤ cs.length ∧ cs.length ≤ 8 ∧ cs.all Char.isAlpha = true then
    some {
      code := String.ofList (cs.map Char.toLower)
      two_le := by simpa using h.1
      le_eight := by simpa using h.2.1
      lower := by
        intro c hc
        rw [String.toList_ofList, List.mem_map] at hc
        obtain ⟨d, hd, rfl⟩ := hc
        exact isLower_toLower (List.all_eq_true.mp h.2.2 d hd) }
  else none

theorem Language.parse?_code (l : Language) : Language.parse? l.code.toList = some l := by
  have alpha : l.code.toList.all Char.isAlpha = true :=
    List.all_eq_true.mpr fun c hc => isAlpha_of_isLower (l.lower c hc)
  have same : l.code.toList.map Char.toLower = l.code.toList :=
    (List.map_congr_left fun c hc => toLower_eq_self (l.lower c hc)).trans (List.map_id _)
  rw [Language.parse?, dif_pos ⟨l.two_le, l.le_eight, alpha⟩]
  cases l
  simp_all

/-! ## Regions -/

/-- What a region code may be: two upper-case ASCII letters or three ASCII digits. -/
def IsRegionCode (cs : List Char) : Prop :=
  (cs.length = 2 ∧ ∀ c ∈ cs, c.isUpper = true) ∨ (cs.length = 3 ∧ ∀ c ∈ cs, c.isDigit = true)

/-- A region. -/
structure Region where
  code : String
  isRegionCode : IsRegionCode code.toList
deriving DecidableEq

/-- The region written as two ASCII letters of either case or as three ASCII digits. -/
def Region.parse? (cs : List Char) : Option Region :=
  if h : cs.length = 2 ∧ cs.all Char.isAlpha = true then
    some {
      code := String.ofList (cs.map Char.toUpper)
      isRegionCode := by
        refine .inl ⟨by simpa using h.1, fun c hc => ?_⟩
        rw [String.toList_ofList, List.mem_map] at hc
        obtain ⟨d, hd, rfl⟩ := hc
        exact isUpper_toUpper (List.all_eq_true.mp h.2 d hd) }
  else if h : cs.length = 3 ∧ cs.all Char.isDigit = true then
    some { code := String.ofList cs, isRegionCode := .inr (by simpa using h) }
  else none

theorem Region.parse?_code (r : Region) : Region.parse? r.code.toList = some r := by
  rcases r.isRegionCode with ⟨hlen, hupper⟩ | ⟨hlen, hdigit⟩
  · have alpha : r.code.toList.all Char.isAlpha = true :=
      List.all_eq_true.mpr fun c hc => isAlpha_of_isUpper (hupper c hc)
    have same : r.code.toList.map Char.toUpper = r.code.toList :=
      (List.map_congr_left fun c hc => toUpper_eq_self (hupper c hc)).trans (List.map_id _)
    rw [Region.parse?, dif_pos ⟨hlen, alpha⟩]
    cases r
    simp_all
  · rw [Region.parse?, dif_neg (by omega), dif_pos ⟨hlen, List.all_eq_true.mpr hdigit⟩]
    cases r
    simp_all

end Captions
