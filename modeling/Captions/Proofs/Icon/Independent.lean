import Captions.Proofs.Icon.Names
import Captions.Proofs.Template.Filled
import Captions.Proofs.Template.IconSlots

/-!
# Icons do not depend on the arguments

Two fillings of one template give the same icons. What the arguments bring in changes the text
around the icons and so the places where they stand, but not which icons there are, in which order
and in which size, and not which names are reported as unknown.

Results:
* `slotInners_iconOpening_append`: the icon slots of a slot of a template, whatever is behind it.
* `iconNames_bind`: the icon names of a caption come from the slots that filling keeps.
* `resolve_bind_independent`: two fillings with as many arguments give the same icons.
-/

namespace Captions.Template

/-! ## Icon slots within a slot -/

theorem iconNames_iconTokens (cs : List Char) :
    iconNames (iconTokens cs) = slotInners iconOpening cs := by
  rw [iconTokens, slotInners, iconNames, List.filterMap_map]
  refine List.filterMap_congr fun p _ => ?_
  cases p <;> rfl

section Slots

variable {cs : List Char} {t : Token}

theorem oneLine_source_of_isSlot (ht : t ∈ tokens cs) (hslot : t.isSlot = true) :
    OneLine t.source := by
  have hinner : IsInner t.inner := isInner_of_mem_tokens ht (templateSlot_of_mem_tokens ht hslot)
  rw [Token.source_of_isSlot hslot, oneLine_append, oneLine_append]
  exact ⟨oneLine_opening, hinner.oneLine, oneLine_closing⟩

/-- An icon slot that begins in a slot of a template ends there too, unless an icon slot without a
name is written in the template. -/
theorem slot?_iconOpening_append {v : List Char} (ht : t ∈ tokens cs) (hslot : t.isSlot = true)
    (hempty : ¬ (Token.icon []).source <:+: cs) (hne : v ≠ []) (hv : v <:+ t.source)
    (hnone : slot? iconOpening v = none) (rest : List Char) :
    slot? iconOpening (v ++ rest) = none := by
  by_contra hsome
  obtain ⟨⟨inner, after⟩, hslot'⟩ := Option.ne_none_iff_exists'.mp hsome
  have hrear : v <:+ opening ++ t.inner ++ closing := by
    rwa [List.append_assoc, ← Token.source_of_isSlot hslot]
  obtain ⟨m, rfl, -⟩ :=
    exists_of_suffix_append_closing hne hrear (slot?_eq_some_iff.mp hslot').1
  by_cases hm : m = []
  · -- The mark stands right in front of the closing mark.
    subst hm
    exact hempty (hv.isInfix.trans (source_infix_of_mem_tokens ht))
  · have hline : OneLine m := fun c hc =>
      oneLine_source_of_isSlot ht hslot c (hv.subset (by simp [hc]))
    have hopens := slot?_ne_none hm hline iconOpening []
    rw [List.append_nil] at hopens
    exact hopens hnone

theorem slotInners_iconOpening_append (ht : t ∈ tokens cs) (hslot : t.isSlot = true)
    (hempty : ¬ (Token.icon []).source <:+: cs) (rest : List Char) :
    slotInners iconOpening (t.source ++ rest) =
      slotInners iconOpening t.source ++ slotInners iconOpening rest :=
  slotInners_append fun _ hne hv hnone => slot?_iconOpening_append ht hslot hempty hne hv hnone rest

end Slots

/-! ## Icons of a caption -/

/-- The icon names of a caption come from the slots that filling keeps, if no icon slot of the
template lacks a name. -/
theorem iconNames_bind {template : String} {args : List String}
    (hargs : ∀ arg ∈ args, '{' ∉ arg.toList)
    (hempty : ¬ (Token.icon []).source <:+: template.toList) :
    iconNames (iconTokens (bind template args).value.toList) =
      ((tokens template.toList).filter
        (Token.isKept ((argumentNames (tokens template.toList)).take args.length))).flatMap
          fun t => iconNames (iconTokens t.source) := by
  simp only [iconNames_iconTokens]
  exact slotInners_bind iconMark oneLine_iconMark hargs fun t ht hslot rest =>
    slotInners_iconOpening_append ht hslot hempty rest

/-- **The icons of a caption do not depend on the arguments**, but for their number: two fillings of
one template with as many arguments show the same glyphs, in the same order and size, and report the
same names. -/
theorem resolve_bind_independent {icons : Icons} (henabled : icons.enabled = true)
    (template : String) (hempty : ¬ (Token.icon []).source <:+: template.toList)
    (args args' : List String) (hlength : args.length = args'.length)
    (hargs : ∀ arg ∈ args, '{' ∉ arg.toList) (hargs' : ∀ arg ∈ args', '{' ∉ arg.toList) :
    (icons.resolve (bind template args).value).value.spans.map
        (fun s => (s.name, s.glyph, s.scale)) =
      (icons.resolve (bind template args').value).value.spans.map
        (fun s => (s.name, s.glyph, s.scale)) ∧
    (icons.resolve (bind template args).value).value.unresolved =
      (icons.resolve (bind template args').value).value.unresolved ∧
    (icons.resolve (bind template args).value).effects =
      (icons.resolve (bind template args').value).effects := by
  have hnames : iconNames (iconTokens (bind template args).value.toList) =
      iconNames (iconTokens (bind template args').value.toList) := by
    rw [iconNames_bind hargs hempty, iconNames_bind hargs' hempty, hlength]
  have hunresolved : (icons.resolution (bind template args).value).unresolved =
      (icons.resolution (bind template args').value).unresolved := by
    rw [Icons.unresolved_resolution henabled, Icons.unresolved_resolution henabled, hnames]
  simp only [Icons.resolve_eq]
  refine ⟨?_, hunresolved, ?_⟩
  · rw [Icons.scaledGlyphs_resolution henabled, Icons.scaledGlyphs_resolution henabled, hnames]
  · rw [Resolved.reports, Resolved.reports, hunresolved]

/-- Closing braces and a line end in a value, in front of an icon slot and of an argument slot with
an icon slot within. -/
theorem resolve_bind_independent_braces :
    let template := "{{a}}{{icon:undo}}{{b{{icon:x}}}}"
    let icons := Icons.ofTable .materialDesign
    icons.enabled = true ∧ ¬ (Token.icon []).source <:+: template.toList ∧
    ["1"].length = ["\x7d\x7d\n"].length ∧ (∀ arg ∈ ["1"], '{' ∉ arg.toList) ∧
    (∀ arg ∈ ["\x7d\x7d\n"], '{' ∉ arg.toList) ∧
    iconNames (iconTokens (bind template ["\x7d\x7d\n"]).value.toList) =
      ["undo".toList, "x".toList] ∧
    (icons.resolve (bind template ["1"]).value).value.spans.map
        (fun s => (s.name, s.glyph, s.scale)) =
      (icons.resolve (bind template ["\x7d\x7d\n"]).value).value.spans.map
        (fun s => (s.name, s.glyph, s.scale)) ∧
    (icons.resolve (bind template ["1"]).value).value.unresolved =
      (icons.resolve (bind template ["\x7d\x7d\n"]).value).value.unresolved ∧
    (icons.resolve (bind template ["1"]).value).effects =
      (icons.resolve (bind template ["\x7d\x7d\n"]).value).effects :=
  ⟨rfl, by decide +kernel, rfl, by decide, by decide, by decide +kernel,
    resolve_bind_independent rfl "{{a}}{{icon:undo}}{{b{{icon:x}}}}" (by decide +kernel)
      ["1"] ["\x7d\x7d\n"] rfl (by decide) (by decide)⟩

end Captions.Template
