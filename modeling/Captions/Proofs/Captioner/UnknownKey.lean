import Captions.Proofs.Captioner.Applied
import Captions.Proofs.Icon.Drawn
import Captions.Session

/-!
# Keys that no bundle has

A key that the catalog lacks stands for itself. Its arguments are left unused, and without a tooltip
of its own in the catalog none is shown. But it goes through the icons like every other caption, so
a key that is written like an icon slot shows a glyph, and a widget with such a key is switched to
the icon face.

Results:
* `text_of_get?_eq_none`: an unknown key stands for itself.
* `value_tooltip?_of_get?_eq_none`: an unknown tooltip is none.
* `value_apply_of_unknown`: what an unknown key puts on a widget.
* `updates_apply_of_unknown`: an unknown key is shown as written unless it draws a glyph.
-/

namespace Captions.Captioner

variable {c : Captioner} {key : String}

/-- An unknown key stands for itself. -/
theorem text_of_get?_eq_none (h : c.catalog.get? key = none) (args : List String) :
    c.text key args = pure key := by
  rw [text, h]

theorem value_resolve_of_get?_eq_none (h : c.catalog.get? key = none) (args : List String) :
    (c.resolve key args).value = c.icons.resolution key := by
  rw [resolve, text_of_get?_eq_none h, Traced.value_bind, Icons.value_resolve, Traced.value_pure]

/-- What is found for an unknown tooltip reads like its key, and so counts as no tooltip. -/
theorem value_tooltip?_of_get?_eq_none (h : c.catalog.get? (key ++ c.tooltipSuffix) = none)
    (args : List String) : (c.tooltip? key args).value = none := by
  rw [tooltip?, text_of_get?_eq_none h]
  exact if_pos (.inr rfl)

/-- An unknown key brings itself with its icons resolved, and no tooltip. -/
theorem value_apply_of_unknown (hkey : c.catalog.get? key = none)
    (htooltip : c.catalog.get? (key ++ c.tooltipSuffix) = none) (args : List String)
    (widget : Widget) :
    (c.apply widget key args).value =
      .ofValues (if widget.parts.text then some (c.icons.resolution key).text else none) none
        (if widget.parts.font && (c.icons.resolution key).hasGlyphs then
          c.iconFace.map fun face => face.fontFor widget.font c.icons.scale
        else none) := by
  rw [value_apply, value_resolve_of_get?_eq_none hkey, value_tooltip?_of_get?_eq_none htooltip,
    ite_self]

/-- **Unknown keys stand for themselves, up to their icons.** The text of an unknown key is the key
itself, whatever the arguments, and it has no tooltip. On a widget it is put as written, and nothing
else is changed, unless the key draws a glyph and the widget has a part to show it: its text, or its
font with a face at hand. -/
theorem updates_apply_of_unknown (hkey : c.catalog.get? key = none)
    (htooltip : c.catalog.get? (key ++ c.tooltipSuffix) = none) (args : List String)
    (widget : Widget) :
    c.text key args = pure key ∧
      (∀ tooltip, .tooltip tooltip ∉ (c.apply widget key args).value.updates) ∧
      ((c.apply widget key args).value.updates =
          (if widget.parts.text then [.text key] else []) ↔
        ¬ (c.icons.Draws key ∧
          (widget.parts.text = true ∨ widget.parts.font = true ∧ c.iconFace.isSome = true))) := by
  rw [value_apply_of_unknown hkey htooltip]
  refine ⟨text_of_get?_eq_none hkey args, fun tooltip => by simp, ?_⟩
  by_cases hdraws : c.icons.Draws key
  · have htext := mt Icons.text_resolution_eq_iff.mp (not_not_intro hdraws)
    rw [Icons.hasGlyphs_resolution_iff.mpr hdraws]
    cases widget.parts.text with
    | true => simp [Application.ofValues, htext, hdraws]
    | false => cases widget.parts.font <;> cases c.iconFace <;> simp [Application.ofValues, hdraws]
  · have hglyphs := Bool.eq_false_iff.mpr (mt Icons.hasGlyphs_resolution_iff.mp hdraws)
    rw [hglyphs, Icons.text_resolution_eq_iff.mpr hdraws]
    cases widget.parts.text <;> simp [Application.ofValues, hdraws]

/-- A captioner with a face for its icons and nothing in its catalog. -/
def withoutBundles : Captioner :=
  (Session.ofStore BundleList.empty.toStore (.offering "Icons") "app" .root).value.captioner

/-- A label with all three parts. -/
def blankLabel : Widget := ⟨"Label", ⟨true, true, true⟩, none, none, ⟨"Sans", .plain, 10⟩⟩

/-- Neither an argument slot nor an unknown icon is touched. -/
theorem updates_apply_of_unknown_slots :
    withoutBundles.catalog.get? "{{x}} {{icon:none}}" = none ∧
      withoutBundles.catalog.get? ("{{x}} {{icon:none}}" ++ withoutBundles.tooltipSuffix) = none ∧
      withoutBundles.text "{{x}} {{icon:none}}" ["1"] = pure "{{x}} {{icon:none}}" ∧
      (withoutBundles.apply blankLabel "{{x}} {{icon:none}}" ["1"]).value.updates =
        [.text "{{x}} {{icon:none}}"] := by
  have hkey : withoutBundles.catalog.get? "{{x}} {{icon:none}}" = none := by decide +kernel
  have htooltip : withoutBundles.catalog.get?
      ("{{x}} {{icon:none}}" ++ withoutBundles.tooltipSuffix) = none := by decide +kernel
  have hdraws : ¬ withoutBundles.icons.Draws "{{x}} {{icon:none}}" := by decide +kernel
  obtain ⟨htext, -, hupdates⟩ := updates_apply_of_unknown hkey htooltip ["1"] blankLabel
  exact ⟨hkey, htooltip, htext, hupdates.mpr fun h => hdraws h.1⟩

/-- A key that is written like an icon slot is not shown as written, and changes the font. -/
theorem not_updates_apply_of_unknown :
    withoutBundles.catalog.get? "{{icon:undo}}" = none ∧
      withoutBundles.catalog.get? ("{{icon:undo}}" ++ withoutBundles.tooltipSuffix) = none ∧
      .text "{{icon:undo}}" ∉ (withoutBundles.apply blankLabel "{{icon:undo}}" []).value.updates ∧
      (∃ font, .font font ∈ (withoutBundles.apply blankLabel "{{icon:undo}}" []).value.updates) ∧
      (withoutBundles.apply blankLabel "{{icon:undo}}" []).value.applied.font = true := by
  have htext : (withoutBundles.resolve "{{icon:undo}}" []).value.text ≠ "{{icon:undo}}" := by
    decide +kernel
  have hglyphs : (withoutBundles.resolve "{{icon:undo}}" []).value.hasGlyphs = true := by
    decide +kernel
  have hface : withoutBundles.iconFace = some ⟨"Icons"⟩ := rfl
  refine ⟨by decide +kernel, by decide +kernel, ?_, ?_, by decide +kernel⟩
  · exact fun hmem => htext ((text_mem_updates_apply_iff ..).mp hmem).2
  · exact ⟨_, (font_mem_updates_apply_iff ..).mpr ⟨rfl, hglyphs, _, hface, rfl⟩⟩

end Captions.Captioner
