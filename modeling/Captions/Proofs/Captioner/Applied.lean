import Captions.Captioner

/-!
# What a caption puts on a widget

A caption reaches each part of a widget on its own: the text always, the tooltip if there is one,
the font if the caption has glyphs and there is a face to draw them in. A part that the widget lacks
gets nothing. The parts are updated one after the other, and each of them is noted after its update;
so what has been noted is always what has been updated, and the font that is read for the last
update is still the one that the widget came with.

Results:
* `putText_none`, `putTooltip_ofValues`, `value_putFont_ofValues`: one part after the other.
* `value_apply`: what is done to the widget.
* `receive_ofValues`, `receive_apply`: the widget afterwards.
* `text_mem_updates_apply_iff`, `tooltip_mem_updates_apply_iff`, `font_mem_updates_apply_iff`: which
  updates a caption makes.
-/

namespace Captions

/-! ## One part after the other -/

namespace Application

/-- Each part with a value is updated and noted once, the text first and the font last. -/
def ofValues (text tooltip : Option String) (font : Option Font) : Application where
  updates := text.toList.map .text ++ tooltip.toList.map .tooltip ++ font.toList.map .font
  applied := ⟨text.isSome, tooltip.isSome, font.isSome⟩

variable (widget : Widget) (text tooltip : Option String) (font : Option Font)

theorem putText_none (shown : String) :
    none.putText widget shown =
      ofValues (if widget.parts.text then some shown else .none) .none .none := by
  rw [putText]
  cases widget.parts.text with
  | true => rfl
  | false => rfl

theorem putTooltip_ofValues :
    (ofValues text .none .none).putTooltip widget tooltip =
      ofValues text (if widget.parts.tooltip then tooltip else .none) .none := by
  cases tooltip with
  | none =>
    rw [ite_self]
    rfl
  | some shown =>
    rw [putTooltip]
    cases widget.parts.tooltip with
    | true => simp [ofValues, call, note, Parts.insert]
    | false => rfl

theorem receive_ofValues :
    widget.receive (ofValues text tooltip font) =
      { widget with
        text := text <|> widget.text
        tooltip := tooltip <|> widget.tooltip
        font := font.getD widget.font } := by
  cases text <;> cases tooltip <;> cases font <;> rfl

@[simp]
theorem text_mem_updates_ofValues_iff {s : String} :
    .text s ∈ (ofValues text tooltip font).updates ↔ text = some s := by
  simp [ofValues]

@[simp]
theorem tooltip_mem_updates_ofValues_iff {s : String} :
    .tooltip s ∈ (ofValues text tooltip font).updates ↔ tooltip = some s := by
  simp [ofValues]

@[simp]
theorem font_mem_updates_ofValues_iff {f : Font} :
    .font f ∈ (ofValues text tooltip font).updates ↔ font = some f := by
  simp [ofValues]

end Application

namespace Captioner

variable (c : Captioner) (widget : Widget) (key : String) (args : List String)

/-- The updates of text and tooltip leave the font alone, from which the new one is made. -/
theorem value_putFont_ofValues (text tooltip : Option String) :
    (c.putFont (.ofValues text tooltip none) widget key).value =
      .ofValues text tooltip
        (c.iconFace.map fun face => face.fontFor widget.font c.icons.scale) := by
  rw [putFont, Application.receive_ofValues]
  cases c.iconFace with
  | some face => simp [Application.ofValues, Application.call, Application.note, Parts.insert]
  | none => rfl

/-! ## The whole caption -/

/-- A caption updates each part that it has a value for and that the widget has too, and notes it. A
widget without parts is no exception, though nothing is made for it. -/
theorem value_apply :
    (c.apply widget key args).value =
      .ofValues (if widget.parts.text then some (c.resolve key args).value.text else none)
        (if widget.parts.tooltip then (c.tooltip? key args).value else none)
        (if widget.parts.font && (c.resolve key args).value.hasGlyphs then
          c.iconFace.map fun face => face.fontFor widget.font c.icons.scale
        else none) := by
  rw [apply]
  by_cases hempty : widget.parts.isEmpty = true
  · have hparts : widget.parts = .none := of_decide_eq_true hempty
    rw [if_pos hempty, hparts]
    rfl
  · rw [if_neg hempty, Traced.value_bind, Traced.value_bind, Application.putText_none,
      Application.putTooltip_ofValues, Bool.and_comm]
    cases widget.parts.font && (c.resolve key args).value.hasGlyphs with
    | true => exact c.value_putFont_ofValues widget key _ _
    | false => rfl

theorem text_mem_updates_apply_iff {s : String} :
    .text s ∈ (c.apply widget key args).value.updates ↔
      widget.parts.text = true ∧ (c.resolve key args).value.text = s := by
  rw [value_apply, Application.text_mem_updates_ofValues_iff]
  cases widget.parts.text with
  | true => simp
  | false => simp

theorem tooltip_mem_updates_apply_iff {s : String} :
    .tooltip s ∈ (c.apply widget key args).value.updates ↔
      widget.parts.tooltip = true ∧ (c.tooltip? key args).value = some s := by
  rw [value_apply, Application.tooltip_mem_updates_ofValues_iff]
  cases widget.parts.tooltip with
  | true => simp
  | false => simp

theorem font_mem_updates_apply_iff {f : Font} :
    .font f ∈ (c.apply widget key args).value.updates ↔
      widget.parts.font = true ∧ (c.resolve key args).value.hasGlyphs = true ∧
        ∃ face, c.iconFace = some face ∧ face.fontFor widget.font c.icons.scale = f := by
  rw [value_apply, Application.font_mem_updates_ofValues_iff]
  cases widget.parts.font with
  | true => simp
  | false => simp

/-! ## The widget afterwards -/

/-- The font for a caption with glyphs on a widget with the given font. -/
def glyphFont (font : Font) : Font :=
  match c.iconFace with
  | some face => face.fontFor font c.icons.scale
  | none => font

theorem glyphFont_of_some {c : Captioner} {face : IconFace} (h : c.iconFace = some face) :
    c.glyphFont = fun font => face.fontFor font c.icons.scale := by
  funext font
  rw [glyphFont, h]

theorem glyphFont_of_none {c : Captioner} (h : c.iconFace = none) : c.glyphFont = id := by
  funext font
  rw [glyphFont, h]
  rfl

/-- The widget after a caption has been put on it. -/
theorem receive_apply :
    widget.receive (c.apply widget key args).value =
      { widget with
        text := if widget.parts.text then some (c.resolve key args).value.text else widget.text
        tooltip :=
          if widget.parts.tooltip then (c.tooltip? key args).value <|> widget.tooltip
          else widget.tooltip
        font :=
          if widget.parts.font && (c.resolve key args).value.hasGlyphs then
            c.glyphFont widget.font
          else widget.font } := by
  rw [value_apply, Application.receive_ofValues, Widget.mk.injEq]
  refine ⟨rfl, rfl, ?_, ?_, ?_⟩
  · cases widget.parts.text with
    | true => rfl
    | false => rfl
  · cases widget.parts.tooltip with
    | true => rfl
    | false => rfl
  · rw [glyphFont]
    cases widget.parts.font && (c.resolve key args).value.hasGlyphs with
    | true =>
      cases c.iconFace with
      | some face => rfl
      | none => rfl
    | false => rfl

end Captioner

end Captions
