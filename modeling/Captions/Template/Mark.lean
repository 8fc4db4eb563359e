import Mathlib.Data.List.Basic

/-!
# The first mark in a text

Results:
* `splitMark?_eq_some_iff`, `splitMark?_eq_none_iff`: where the first mark stands, and when there is
  none.
-/

namespace Captions.Template

/-- The text before the first `mark` and the text after it. -/
def splitMark? (mark : List Char) : List Char → Option (List Char × List Char)
  | [] => none
  | c :: cs =>
    if mark.isPrefixOf (c :: cs) then some ([], (c :: cs).drop mark.length)
    else (splitMark? mark cs).map fun (before, after) => (c :: before, after)

section FirstMark

variable {mark : List Char}

theorem splitMark?_eq_some_iff (hmark : mark ≠ []) {cs before after : List Char} :
    splitMark? mark cs = some (before, after) ↔
      cs = before ++ (mark ++ after) ∧
        ∀ v, v ≠ [] → v <:+ before → ¬ mark <+: v ++ (mark ++ after) := by
  induction cs generalizing before with
  | nil => simp [splitMark?, hmark]
  | cons c cs ih =>
    rw [splitMark?]
    by_cases hstart : mark <+: c :: cs
    · rw [if_pos (List.isPrefixOf_iff_prefix.mpr hstart)]
      obtain ⟨rest, hrest⟩ := hstart
      rw [← hrest, List.drop_left, Option.some_inj, Prod.mk.injEq]
      constructor
      · rintro ⟨rfl, rfl⟩
        exact ⟨rfl, fun v hne hv => absurd (List.suffix_nil.mp hv) hne⟩
      · rintro ⟨heq, hfirst⟩
        -- The mark at the head is the first one, so nothing stands before it.
        have hbefore : before = [] := by
          by_contra hne
          exact hfirst before hne List.suffix_rfl (heq ▸ List.prefix_append mark rest)
        subst hbefore
        exact ⟨rfl, List.append_cancel_left heq⟩
    · rw [if_neg (mt List.isPrefixOf_iff_prefix.mp hstart), Option.map_eq_some_iff]
      constructor
      · rintro ⟨⟨b, a⟩, hb, heq⟩
        obtain ⟨rfl, rfl⟩ := Prod.mk.inj heq
        obtain ⟨rfl, hfirst⟩ := ih.mp hb
        refine ⟨rfl, fun v hne hv => ?_⟩
        rcases List.suffix_cons_iff.mp hv with rfl | hv
        · exact hstart
        · exact hfirst v hne hv
      · rintro ⟨heq, hfirst⟩
        cases before with
        | nil => exact absurd ⟨after, heq.symm⟩ hstart
        | cons d b =>
          obtain ⟨rfl, rfl⟩ := List.cons.inj heq
          refine ⟨(b, after), ih.mpr ⟨rfl, fun v hne hv => ?_⟩, rfl⟩
          exact hfirst v hne (hv.trans (List.suffix_cons c b))

theorem splitMark?_eq_none_iff (hmark : mark ≠ []) {cs : List Char} :
    splitMark? mark cs = none ↔ ¬ mark <:+: cs := by
  induction cs with
  | nil => simp [splitMark?, hmark]
  | cons c cs ih =>
    rw [splitMark?, List.infix_cons_iff, not_or, ← ih]
    by_cases hstart : mark <+: c :: cs
    · rw [if_pos (List.isPrefixOf_iff_prefix.mpr hstart)]
      simp [hstart]
    · rw [if_neg (mt List.isPrefixOf_iff_prefix.mp hstart), Option.map_eq_none_iff]
      simp [hstart]

end FirstMark

end Captions.Template
