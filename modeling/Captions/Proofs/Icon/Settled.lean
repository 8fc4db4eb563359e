import Captions.Proofs.Icon.Correspondence
import Captions.Proofs.Icon.Drawn

/-!
# Resolving once is enough

A resolved caption holds the slots whose icons are unknown and no other slot. The text around them
has changed, for a glyph stands where a slot was. But a glyph that is no ASCII character has no part
in any mark, and an opening mark that was left open in front of a slot has a line end behind it,
which no change behind the line can take away. So to resolve a resolved caption changes nothing.

Results:
* `Cuts.no_slot_at_mark`: an opening mark in a plain stretch opens no slot, whatever is put in place
  of the text behind the stretch.
* `no_slot_in_shown`: no slot begins in the plain text of a resolved caption.
* `slotInners_shown`: the slots of a resolved caption are those with an unknown icon.
* `resolve_text_resolve`: resolving a resolved caption changes nothing.
-/

namespace Captions

open Template

/-! ## Marks that are left open -/

namespace Template

/-- An opening mark in a plain stretch opens no slot, whatever is put in place of the text behind the
stretch. -/
theorem Cuts.no_slot_at_mark {opening cs text v rest : List Char} {ps : List Piece}
    (h : Cuts opening cs (.plain text :: ps)) (hopening : OneLine opening) (hne : v ≠ [])
    (hv : v <:+ text) (hmark : opening <+: v) (hrest : ps = [] → rest = []) :
    slot? opening (v ++ rest) = none := by
  cases h with
  | @plain _ behind _ _ hno hhead h =>
    have hnone := hno v hne hv
    cases h with
    | nil => rwa [hrest rfl]
    | @plain text' => exact absurd rfl (hhead text')
    | @slot inner after _ hinner =>
      obtain ⟨mid, rfl⟩ := hmark
      have hmid := not_oneLine_of_no_slot hopening hinner hnone
      by_contra hsome
      obtain ⟨⟨inner', after'⟩, hslot⟩ := Option.ne_none_iff_exists'.mp hsome
      -- The slot would reach over the end of the stretch, and so over the end of the line.
      obtain ⟨m, -, hreach, -⟩ := exists_of_slot?_append (slot?_eq_none_of_append hnone) hslot
      rw [List.append_assoc, List.append_cancel_left_eq] at hreach
      have hline : OneLine (mid ++ m) := by
        rw [hreach]
        exact oneLine_append.mpr ⟨(slot?_eq_some_iff.mp hslot).2.oneLine, oneLine_closing⟩
      exact hmid (oneLine_append.mp hline).1

/-- A character that is not in the mark ends what can be read of it. -/
theorem prefix_of_append_cons {mark front a b : List Char} {c : Char} (hc : c ∉ mark)
    (h : front ++ c :: a = mark ++ b) : mark <+: front := by
  rcases List.append_eq_append_iff.mp h with ⟨m, rfl, hm⟩ | ⟨m, rfl, -⟩
  · cases m with
    | nil => simp
    | cons d m =>
      obtain ⟨rfl, -⟩ := List.cons.inj hm
      simp at hc
  · exact List.prefix_append mark m

end Template

/-! ## Glyphs beyond ASCII -/

/-- No glyph of the table is an ASCII character. -/
def GlyphTable.IsBeyondAscii (table : GlyphTable) : Prop :=
  ∀ name glyph, table.get? name = some glyph → 0x80 ≤ glyph.toNat

namespace GlyphTable.IsBeyondAscii

variable {table : GlyphTable} (h : table.IsBeyondAscii)

include h

theorem insert {glyph : Char} (hglyph : 0x80 ≤ glyph.toNat) (name : String) :
    (table.insert name glyph).IsBeyondAscii := by
  intro other c hget
  rw [get?_insert] at hget
  split at hget
  · rwa [← Option.some.inj hget]
  · exact h other c hget

theorem foldl_insert (icons : List (String × Char)) (hicons : ∀ icon ∈ icons, 0x80 ≤ icon.2.toNat) :
    (icons.foldl (fun table (name, glyph) => table.insert name glyph) table).IsBeyondAscii := by
  induction icons generalizing table with
  | nil => exact h
  | cons icon icons ih =>
    obtain ⟨hicon, hicons⟩ := List.forall_mem_cons.mp hicons
    exact ih (h.insert hicon icon.1) hicons

end GlyphTable.IsBeyondAscii

theorem GlyphTable.isBeyondAscii_empty : empty.IsBeyondAscii := fun _ _ hget => by
  rw [get?_empty] at hget
  contradiction

/-- The bundled glyphs lie in a private range far beyond ASCII. -/
theorem GlyphTable.isBeyondAscii_materialDesign : materialDesign.IsBeyondAscii :=
  isBeyondAscii_empty.foldl_insert materialDesignIcons (by decide)

theorem not_mem_iconOpening {c : Char} (h : 0x80 ≤ c.toNat) : c ∉ iconOpening := by
  have hascii : iconOpening.all (·.toNat < 0x80) = true := rfl
  intro hc
  have := of_decide_eq_true (List.all_eq_true.mp hascii c hc)
  omega

/-- At a glyph no slot begins. -/
theorem no_slot_at_glyph {c : Char} (h : 0x80 ≤ c.toNat) (rest : List Char) :
    slot? iconOpening (c :: rest) = none := by
  refine slot?_eq_none_of_not_prefix ?_
  rintro ⟨b, hb⟩
  have hmark : iconOpening <+: [] := prefix_of_append_cons (not_mem_iconOpening h) hb.symm
  exact absurd (List.prefix_nil.mp hmark) (by decide)

/-! ## Slots of a resolved caption -/

namespace Icons

/-- What is shown for the pieces of a caption. -/
def shown (table : GlyphTable) (ps : List Piece) : List Char :=
  ps.flatMap fun p => (fragment table p.toIconToken).shown

variable {table : GlyphTable} {cs : List Char} {ps : List Piece}

theorem shown_slot_of_get?_eq_some {inner : List Char} {c : Char}
    (h : table.get? (String.ofList inner) = some c) (ps : List Piece) :
    shown table (.slot inner :: ps) = c :: shown table ps := by
  rw [shown, List.flatMap_cons, Piece.toIconToken, fragment, h]
  rfl

theorem shown_slot_of_get?_eq_none {inner : List Char}
    (h : table.get? (String.ofList inner) = none) (ps : List Piece) :
    shown table (.slot inner :: ps) =
      iconOpening ++ (inner ++ (closing ++ shown table ps)) := by
  rw [shown, List.flatMap_cons, Piece.toIconToken, fragment, h, ← source_icon_append]
  simp [Fragment.shown, shown]

/-- Whatever becomes of the slot behind a plain stretch, no slot begins in the stretch. -/
theorem no_slot_in_shown (htable : table.IsBeyondAscii) {text v : List Char}
    (h : Cuts iconOpening cs (.plain text :: ps)) (hne : v ≠ []) (hv : v <:+ text) :
    slot? iconOpening (v ++ shown table ps) = none := by
  by_contra hsome
  obtain ⟨⟨name, after⟩, hslot⟩ := Option.ne_none_iff_exists'.mp hsome
  obtain ⟨heq, -⟩ := slot?_eq_some_iff.mp hslot
  have hmark : iconOpening <+: v := by
    rcases ps with _ | ⟨text' | inner, ps⟩
    · exact ⟨_, by simpa [shown] using heq.symm⟩
    · simpa [Piece.isPlain] using h.separated
    · cases hget : table.get? (String.ofList inner) with
      | some c =>
        rw [shown_slot_of_get?_eq_some hget] at heq
        exact prefix_of_append_cons (not_mem_iconOpening (htable _ c hget)) heq
      | none =>
        rw [shown_slot_of_get?_eq_none hget] at heq
        exact iconOpening_prefix_of_append hne heq
  refine hsome (h.no_slot_at_mark oneLine_iconOpening hne hv hmark ?_)
  rintro rfl
  rfl

/-- The slots of a resolved caption are those with an unknown icon. -/
theorem slotInners_shown (htable : table.IsBeyondAscii) (h : Cuts iconOpening cs ps) :
    slotInners iconOpening (shown table ps) =
      (ps.filterMap Piece.inner?).filter fun name =>
        (table.get? (String.ofList name)).isNone := by
  induction h with
  | nil => exact slotInners_nil
  | @slot inner rest ps hinner _ ih =>
    have hname : (Piece.slot inner).inner? = some inner := rfl
    rw [List.filterMap_cons_some hname]
    cases hget : table.get? (String.ofList inner) with
    | some c =>
      have hno : ∀ v, v ≠ [] → v <:+ [c] → slot? iconOpening (v ++ shown table ps) = none := by
        intro v hne hv
        obtain rfl : v = [c] := (List.suffix_cons_iff.mp hv).resolve_right (by simp [hne])
        exact no_slot_at_glyph (htable _ c hget) _
      rw [shown_slot_of_get?_eq_some hget, List.filter_cons_of_neg (by simp [hget]), ← ih]
      exact slotInners_append_of_no_slot hno
    | none =>
      have hslot : slot? iconOpening (iconOpening ++ (inner ++ (closing ++ shown table ps))) =
          some (inner, shown table ps) := slot?_eq_some_iff.mpr ⟨rfl, hinner⟩
      rw [shown_slot_of_get?_eq_none hget, List.filter_cons_of_pos (by simp [hget]), ← ih]
      exact slotInners_of_slot? hslot
  | plain hne hno hhead h ih =>
    rw [List.filterMap_cons_none rfl, ← ih]
    exact slotInners_append_of_no_slot fun v hv hrear =>
      no_slot_in_shown htable (.plain hne hno hhead h) hv hrear

section Enabled

variable {icons : Icons} (henabled : icons.enabled = true) (htable : icons.table.IsBeyondAscii)
  (caption : String)

include henabled

theorem toList_text_resolution :
    (icons.resolution caption).text.toList =
      shown icons.table (pieces iconOpening caption.toList) := by
  rw [resolution, if_pos henabled]
  simp only [ofFragments, fragments, iconTokens, shown, List.map_map, List.flatMap_map,
    String.toList_ofList]
  rfl

include htable

/-- The icons named in a resolved caption are the ones reported for it. -/
theorem iconNames_text_resolution :
    (iconNames (iconTokens (icons.resolution caption).text.toList)).map String.ofList =
      (icons.resolution caption).unresolved := by
  rw [unresolved_resolution henabled, toList_text_resolution henabled, iconNames_iconTokens,
    iconNames_iconTokens, slotInners_shown htable (cuts_pieces iconOpening caption.toList),
    List.filter_map]
  rfl

/-- A resolved caption draws nothing any more. -/
theorem not_draws_text_resolution : ¬ icons.Draws (icons.resolution caption).text := by
  rintro ⟨-, name, hname, hsome⟩
  have hmem : String.ofList name ∈ (icons.resolution caption).unresolved := by
    rw [← iconNames_text_resolution henabled htable]
    exact List.mem_map_of_mem hname
  rw [unresolved_resolution henabled, List.mem_filter, Option.isNone_iff_eq_none] at hmem
  rw [hmem.2] at hsome
  contradiction

theorem resolution_text_resolution :
    icons.resolution (icons.resolution caption).text =
      { text := (icons.resolution caption).text
        spans := []
        unresolved := (icons.resolution caption).unresolved } := by
  have hdraws := not_draws_text_resolution henabled htable caption
  have hspans : (icons.resolution (icons.resolution caption).text).spans = [] := by
    have hglyphs := Bool.eq_false_iff.mpr (mt hasGlyphs_resolution_iff.mp hdraws)
    simpa [Resolved.hasGlyphs] using hglyphs
  have hunresolved : (icons.resolution (icons.resolution caption).text).unresolved =
      (icons.resolution caption).unresolved := by
    rw [unresolved_resolution henabled, iconNames_text_resolution henabled htable,
      unresolved_resolution henabled, List.filter_filter]
    simp only [Bool.and_self]
  rw [Resolved.mk.injEq]
  exact ⟨text_resolution_of_not_draws hdraws, hspans, hunresolved⟩

end Enabled

/-- **Resolving once is enough.** With glyphs beyond ASCII, the icons named in a resolved caption are
just those reported for it, in order. So it stays as it is when it is resolved again, shows no glyph
and has the same icons reported. -/
theorem resolve_text_resolve {icons : Icons} (henabled : icons.enabled = true)
    (htable : icons.table.IsBeyondAscii) (caption : String) :
    let resolved := (icons.resolve caption).value
    (iconNames (iconTokens resolved.text.toList)).map String.ofList = resolved.unresolved ∧
      (icons.resolve resolved.text).value =
        { text := resolved.text, spans := [], unresolved := resolved.unresolved } := by
  simp only [value_resolve]
  exact ⟨iconNames_text_resolution henabled htable caption,
    resolution_text_resolution henabled htable caption⟩

/-- Two opening marks without a slot, the first of them in front of slots on the next line, and an
unknown icon between two known ones. -/
theorem resolve_text_resolve_mixed :
    let icons := Icons.ofTable .materialDesign
    let caption := "\x7b\x7bicon:\n{{icon:undo}}{{icon:x}}{{icon:redo}}\x7b\x7bicon:"
    let resolved := (icons.resolve caption).value
    icons.enabled = true ∧ icons.table.IsBeyondAscii ∧ resolved.spans.length = 2 ∧
      resolved.unresolved = ["x"] ∧
      (iconNames (iconTokens resolved.text.toList)).map String.ofList = resolved.unresolved ∧
      (icons.resolve resolved.text).value =
        { text := resolved.text, spans := [], unresolved := resolved.unresolved } :=
  ⟨rfl, GlyphTable.isBeyondAscii_materialDesign, by decide +kernel, by decide +kernel,
    resolve_text_resolve rfl GlyphTable.isBeyondAscii_materialDesign _⟩

/-- An opening brace as a glyph can make a slot with the braces around it. -/
example :
    let icons := Icons.ofTable (GlyphTable.empty.insert "brace" '{')
    (icons.resolution "{{icon:brace}}{icon:brace}\x7d").text = "{{icon:brace}}" := by
  decide +kernel

end Icons

end Captions
