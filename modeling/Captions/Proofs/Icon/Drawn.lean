import Captions.Proofs.Icon.Names

/-!
# Captions that stay as written

Resolving changes a caption only where it draws a glyph, and a glyph is always shorter than the slot
that it stands for. So a caption stays as written exactly when no icon slot of it has its icon in
the table, or when icons are switched off.

Results:
* `hasGlyphs_resolution_iff`: whether a resolved caption has glyphs is told from the caption.
* `length_shown_map_fragment_le`: nothing is shown longer than it is written.
* `text_resolution_eq_iff`: a caption stays as written exactly when nothing is drawn.
-/

namespace Captions.Icons

open Template (Token iconNames iconTokens sources)

/-- Some icon slot of the caption becomes a glyph. -/
def Draws (icons : Icons) (caption : String) : Prop :=
  icons.enabled = true ∧
    ∃ name ∈ iconNames (iconTokens caption.toList),
      (icons.table.get? (String.ofList name)).isSome = true

instance (icons : Icons) (caption : String) : Decidable (icons.Draws caption) :=
  inferInstanceAs (Decidable (_ ∧ _))

theorem not_draws_of_disabled {icons : Icons} (h : icons.enabled = false) (caption : String) :
    ¬ icons.Draws caption := by
  rintro ⟨henabled, -⟩
  rw [h] at henabled
  contradiction

theorem hasGlyphs_resolution_iff {icons : Icons} {caption : String} :
    (icons.resolution caption).hasGlyphs = true ↔ icons.Draws caption := by
  cases henabled : icons.enabled with
  | false =>
    rw [resolution_disabled henabled]
    exact iff_of_false Bool.false_ne_true (not_draws_of_disabled henabled caption)
  | true =>
    have hnames := congrArg List.isEmpty (names_spans_resolution henabled caption)
    rw [List.isEmpty_map] at hnames
    rw [Resolved.hasGlyphs, hnames, Draws]
    simp [henabled, Option.isSome_iff_ne_none]

/-! ## Lengths -/

section Lengths

variable {table : GlyphTable}

/-- A token is shown as it is written unless a glyph stands for it. -/
theorem shown_fragment_of_no_glyph {t : Token}
    (h : ∀ name, t = .icon name → (table.get? (String.ofList name)).isSome = false) :
    (fragment table t).shown = t.source := by
  rcases fragment_cases table t with ⟨-, ht⟩ | ⟨name, c, rfl, hget, -⟩ | ⟨name, rfl, -, ht⟩
  · rw [ht, Fragment.shown]
  · have hnone := h name rfl
    rw [hget] at hnone
    contradiction
  · rw [ht, Fragment.shown, String.toList_ofList]

/-- A glyph is shorter than its slot. -/
theorem length_shown_fragment_lt {name : List Char}
    (h : (table.get? (String.ofList name)).isSome = true) :
    (fragment table (.icon name)).shown.length < (Token.icon name).source.length := by
  obtain ⟨c, hget⟩ := Option.isSome_iff_exists.mp h
  have hslot : 1 < (Token.icon name).source.length := by
    simp [Token.source, Template.iconOpening, Template.opening]
  rw [fragment, hget]
  exact hslot

/-- Nothing is shown longer than it is written. -/
theorem length_shown_map_fragment_le (table : GlyphTable) (ts : List Token) :
    ((ts.map (fragment table)).flatMap Fragment.shown).length ≤ (sources ts).length := by
  induction ts with
  | nil => exact Nat.le_refl 0
  | cons t ts ih =>
    have ht : (fragment table t).shown.length ≤ t.source.length := by
      by_cases h : ∀ name, t = .icon name → (table.get? (String.ofList name)).isSome = false
      · exact Nat.le_of_eq (congrArg List.length (shown_fragment_of_no_glyph h))
      · simp only [not_forall, Bool.not_eq_false] at h
        obtain ⟨name, rfl, hsome⟩ := h
        exact Nat.le_of_lt (length_shown_fragment_lt hsome)
    rw [sources] at ih ⊢
    rw [List.map_cons, List.flatMap_cons, List.flatMap_cons, List.length_append,
      List.length_append]
    exact Nat.add_le_add ht ih

end Lengths

/-! ## Captions -/

theorem text_resolution_of_not_draws {icons : Icons} {caption : String}
    (h : ¬ icons.Draws caption) : (icons.resolution caption).text = caption := by
  cases henabled : icons.enabled with
  | false => rw [resolution_disabled henabled, Resolved.plain]
  | true =>
    have hshown : ∀ t ∈ iconTokens caption.toList, (fragment icons.table t).shown = t.source := by
      refine fun t ht => shown_fragment_of_no_glyph fun name hname => ?_
      refine Bool.eq_false_iff.mpr fun hsome => h ⟨henabled, name, ?_, hsome⟩
      exact Template.mem_iconNames_iff.mpr (hname ▸ ht)
    have hsources : (fragments icons.table caption.toList).flatMap Fragment.shown =
        sources (iconTokens caption.toList) := by
      rw [fragments, List.flatMap_map, List.flatMap_congr hshown, sources]
    rw [resolution, if_pos henabled]
    exact (congrArg String.ofList (hsources.trans (Template.sources_iconTokens _))).trans
      String.ofList_toList

theorem text_resolution_ne_of_draws {icons : Icons} {caption : String}
    (h : icons.Draws caption) : (icons.resolution caption).text ≠ caption := by
  obtain ⟨henabled, name, hname, hsome⟩ := h
  obtain ⟨as, bs, htokens⟩ := List.append_of_mem (Template.mem_iconNames_iff.mp hname)
  have hcaption : caption.toList = sources (as ++ .icon name :: bs) := by
    rw [← htokens, Template.sources_iconTokens]
  intro htext
  rw [resolution, if_pos henabled, fragments, htokens] at htext
  -- The glyph of `name` makes the text shorter than the caption.
  have hlength := congrArg (fun text => text.toList.length) htext
  have has := length_shown_map_fragment_le icons.table as
  have hbs := length_shown_map_fragment_le icons.table bs
  have hglyph := length_shown_fragment_lt hsome
  simp only [ofFragments, String.toList_ofList, hcaption, sources, List.map_append, List.map_cons,
    List.flatMap_append, List.flatMap_cons, List.length_append] at hlength has hbs
  omega

/-- A caption stays as written exactly when nothing is drawn. -/
theorem text_resolution_eq_iff {icons : Icons} {caption : String} :
    (icons.resolution caption).text = caption ↔ ¬ icons.Draws caption :=
  ⟨fun htext hdraws => text_resolution_ne_of_draws hdraws htext, text_resolution_of_not_draws⟩

end Captions.Icons
