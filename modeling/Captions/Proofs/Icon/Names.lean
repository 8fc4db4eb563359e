import Captions.Proofs.Icon.Fragments
import Mathlib.Data.List.Basic

/-!
# Icons by name

What the icon slots of a caption come to is told from their names: a name in the table gives a
glyph, every other name is reported.

Results:
* `glyphs_resolution`: the glyphs of a resolved caption, from left to right.
* `names_spans_resolution`, `unresolved_resolution`: the icons shown are those in the table, the
  icons reported those that it lacks.
* `length_spans_add_length_unresolved`: every icon slot gives a glyph or a report.
-/

namespace Captions

open Template (Token iconTokens)

/-- The names of the icon slots, in order and with repetitions. -/
def Template.iconNames (ts : List Token) : List (List Char) := ts.filterMap Token.iconName?

theorem Template.mem_iconNames_iff {name : List Char} {ts : List Token} :
    name ∈ iconNames ts ↔ Token.icon name ∈ ts := by
  rw [iconNames, List.mem_filterMap]
  constructor
  · rintro ⟨t, ht, heq⟩
    cases t <;> simp_all [Token.iconName?]
  · exact fun h => ⟨_, h, rfl⟩

@[simp]
theorem Template.iconNames_cons_icon (name : List Char) (ts : List Token) :
    iconNames (.icon name :: ts) = name :: iconNames ts :=
  rfl

namespace Icons

/-- The icon with its glyph, if the table has it. -/
def glyphNamed? (table : GlyphTable) (name : List Char) : Option (String × Char) :=
  (table.get? (String.ofList name)).map fun c => (String.ofList name, c)

theorem map_spansFrom (scale : Float32) (offset : Nat) (table : GlyphTable) (ts : List Token) :
    (spansFrom scale offset (ts.map (fragment table))).map (fun s => (s.name, s.glyph)) =
      (Template.iconNames ts).filterMap (glyphNamed? table) := by
  induction ts generalizing offset with
  | nil => rfl
  | cons t ts ih =>
    rw [List.map_cons]
    rcases fragment_cases table t with
      ⟨hname, h⟩ | ⟨name, c, rfl, hget, h⟩ | ⟨name, rfl, hget, h⟩
    · simp only [h, spansFrom]
      rw [ih, Template.iconNames, Template.iconNames, List.filterMap_cons_none hname]
    · have hglyph : glyphNamed? table name = some (String.ofList name, c) := by
        rw [glyphNamed?, hget, Option.map_some]
      rw [h, spansFrom, List.map_cons, ih, Template.iconNames_cons_icon,
        List.filterMap_cons_some hglyph]
    · have hglyph : glyphNamed? table name = none := by
        rw [glyphNamed?, hget, Option.map_none]
      simp only [h, spansFrom]
      rw [ih, Template.iconNames_cons_icon, List.filterMap_cons_none hglyph]

/-- The names reported are those without a glyph. -/
theorem unknownNames_map_fragment (table : GlyphTable) (ts : List Token) :
    (ts.map (fragment table)).filterMap Fragment.unknownName? =
      ((Template.iconNames ts).map String.ofList).filter fun name => (table.get? name).isNone := by
  rw [List.filterMap_map, Template.iconNames, List.map_filterMap, List.filter_filterMap]
  refine List.filterMap_congr fun t _ => ?_
  rw [Function.comp_apply]
  rcases fragment_cases table t with ⟨hname, h⟩ | ⟨name, c, rfl, hget, h⟩ | ⟨name, rfl, hget, h⟩
  · rw [h, hname]
    rfl
  · rw [h, Token.iconName?, Option.map_some, Option.filter_some, hget]
    rfl
  · rw [h, Token.iconName?, Option.map_some, Option.filter_some, hget]
    rfl

/-- The names with a glyph are those in the table. -/
theorem map_fst_filterMap_glyphNamed? (table : GlyphTable) (names : List (List Char)) :
    (names.filterMap (glyphNamed? table)).map Prod.fst =
      (names.map String.ofList).filter fun name => (table.get? name).isSome := by
  induction names with
  | nil => rfl
  | cons name names ih =>
    cases h : table.get? (String.ofList name) with
    | some c => simp [glyphNamed?, h, ← ih]
    | none => simp [glyphNamed?, h, ← ih]

section Enabled

variable {icons : Icons} (henabled : icons.enabled = true) (caption : String)

include henabled

/-- The glyphs of a resolved caption are those of its icon slots with a name in the table. -/
theorem glyphs_resolution :
    (icons.resolution caption).spans.map (fun s => (s.name, s.glyph)) =
      (Template.iconNames (iconTokens caption.toList)).filterMap (glyphNamed? icons.table) := by
  rw [resolution, if_pos henabled]
  exact map_spansFrom icons.scale 0 icons.table (iconTokens caption.toList)

/-- The same with the sizes of the glyphs. -/
theorem scaledGlyphs_resolution :
    (icons.resolution caption).spans.map (fun s => (s.name, s.glyph, s.scale)) =
      ((Template.iconNames (iconTokens caption.toList)).filterMap
        (glyphNamed? icons.table)).map fun p => (p.1, p.2, icons.scale) := by
  rw [← glyphs_resolution henabled, List.map_map]
  refine List.map_congr_left fun s hs => ?_
  rw [resolution, if_pos henabled] at hs
  obtain ⟨as, bs, -, -, -, hscale⟩ := exists_of_mem_spansFrom hs
  rw [Function.comp_apply, hscale]

/-- The icons shown are those of the caption that the table has. -/
theorem names_spans_resolution :
    (icons.resolution caption).spans.map (·.name) =
      ((Template.iconNames (iconTokens caption.toList)).map String.ofList).filter fun name =>
        (icons.table.get? name).isSome := by
  rw [← map_fst_filterMap_glyphNamed?, ← glyphs_resolution henabled, List.map_map]
  rfl

/-- The icons reported are those of the caption that the table lacks. -/
theorem unresolved_resolution :
    (icons.resolution caption).unresolved =
      ((Template.iconNames (iconTokens caption.toList)).map String.ofList).filter fun name =>
        (icons.table.get? name).isNone := by
  rw [resolution, if_pos henabled]
  exact unknownNames_map_fragment icons.table (iconTokens caption.toList)

/-- Every icon slot of a caption gives a glyph or a report. -/
theorem length_spans_add_length_unresolved :
    (icons.resolution caption).spans.length + (icons.resolution caption).unresolved.length =
      (Template.iconNames (iconTokens caption.toList)).length := by
  have hspans := congrArg List.length (names_spans_resolution henabled caption)
  rw [List.length_map] at hspans
  have hparts := ((Template.iconNames (iconTokens caption.toList)).map String.ofList)
    |>.length_eq_length_filter_add fun name => (icons.table.get? name).isSome
  simp only [List.length_map, Option.not_isSome] at hparts
  rw [hspans, unresolved_resolution henabled, hparts]

end Enabled

end Icons

end Captions
