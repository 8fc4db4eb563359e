import Captions.Proofs.Captioner.Applied
import Captions.Proofs.Captioner.UnknownKey

/-!
# What is changed is what is reported

A caption changes at most the three parts of a widget, each at most once: the text first, then the
tooltip, last the font, which is made from the font that the widget had before. The parts reported
are those that were changed, so each of them is one that the widget has and shows its new value;
whatever is not reported has stayed as it was.

Results:
* `differsOnlyIn_foldl_update`: a row of updates leaves every part alone that none of them changes.
* `value_tooltip?_eq_some_iff`: which tooltip a key has.
* `map_part_updates_apply`: a caption makes one update for each part that it notes, in order.
* `isExact_apply`: what a caption changes on a widget, what is reported and what stays.
-/

namespace Captions

/-! ## Parts one by one -/

/-- The parts in the order in which they are changed. -/
def Part.all : List Part := [.text, .tooltip, .font]

/-- Whether `part` is among the chosen parts. -/
def Parts.has (parts : Parts) : Part → Bool
  | .text => parts.text
  | .tooltip => parts.tooltip
  | .font => parts.font

/-- The chosen parts in order. -/
def Parts.toList (parts : Parts) : List Part := Part.all.filter parts.has

theorem Parts.mem_toList_iff {parts : Parts} {part : Part} :
    part ∈ parts.toList ↔ parts.has part = true := by
  rw [toList, List.mem_filter, and_iff_right]
  cases part <;> decide

/-- The part that an update changes. -/
def Update.part : Update → Part
  | text _ => .text
  | tooltip _ => .tooltip
  | font _ => .font

/-! ## What updates leave alone -/

namespace Widget

/-- The widget `after` is `before` up to the values of the `changed` parts. -/
structure DiffersOnlyIn (changed : List Part) (before after : Widget) : Prop where
  name_eq : after.name = before.name
  parts_eq : after.parts = before.parts
  text_eq : .text ∉ changed → after.text = before.text
  tooltip_eq : .tooltip ∉ changed → after.tooltip = before.tooltip
  font_eq : .font ∉ changed → after.font = before.font

theorem DiffersOnlyIn.refl (w : Widget) : DiffersOnlyIn [] w w :=
  ⟨rfl, rfl, fun _ => rfl, fun _ => rfl, fun _ => rfl⟩

theorem DiffersOnlyIn.trans {first second : List Part} {w w' w'' : Widget}
    (h : DiffersOnlyIn first w w') (h' : DiffersOnlyIn second w' w'') :
    DiffersOnlyIn (first ++ second) w w'' := by
  refine ⟨h'.name_eq.trans h.name_eq, h'.parts_eq.trans h.parts_eq, ?_, ?_, ?_⟩
  all_goals
    intro hnot
    rw [List.mem_append, not_or] at hnot
  · exact (h'.text_eq hnot.2).trans (h.text_eq hnot.1)
  · exact (h'.tooltip_eq hnot.2).trans (h.tooltip_eq hnot.1)
  · exact (h'.font_eq hnot.2).trans (h.font_eq hnot.1)

/-- An update changes its own part and no other. -/
theorem differsOnlyIn_update (w : Widget) (u : Update) :
    DiffersOnlyIn [u.part] w (w.update u) := by
  cases u with
  | text s => exact ⟨rfl, rfl, fun h => absurd List.mem_cons_self h, fun _ => rfl, fun _ => rfl⟩
  | tooltip s => exact ⟨rfl, rfl, fun _ => rfl, fun h => absurd List.mem_cons_self h, fun _ => rfl⟩
  | font f => exact ⟨rfl, rfl, fun _ => rfl, fun _ => rfl, fun h => absurd List.mem_cons_self h⟩

/-- A row of updates leaves every part alone that none of them changes. -/
theorem differsOnlyIn_foldl_update (w : Widget) (us : List Update) :
    DiffersOnlyIn (us.map Update.part) w (us.foldl update w) := by
  induction us generalizing w with
  | nil => exact .refl w
  | cons u us ih => exact (w.differsOnlyIn_update u).trans (ih (w.update u))

end Widget

/-! ## What a caption changes -/

theorem Application.map_part_updates_ofValues (text tooltip : Option String) (font : Option Font) :
    (ofValues text tooltip font).updates.map Update.part =
      (ofValues text tooltip font).applied.toList := by
  cases text <;> cases tooltip <;> cases font <;> rfl

namespace Captioner

variable (c : Captioner) (widget : Widget) (key : String) (args : List String)

/-- A key has a tooltip if the catalog has a template for it under the suffixed key, and what this
comes to is neither empty nor the suffixed key itself. -/
theorem value_tooltip?_eq_some_iff {tooltip : String} :
    (c.tooltip? key args).value = some tooltip ↔
      (∃ template, c.catalog.get? (key ++ c.tooltipSuffix) = some template ∧
        (Template.bind template args).value = tooltip) ∧
      tooltip ≠ "" ∧ tooltip ≠ key ++ c.tooltipSuffix := by
  cases hget : c.catalog.get? (key ++ c.tooltipSuffix) with
  | none => simp [value_tooltip?_of_get?_eq_none hget]
  | some template =>
    have htext : c.text (key ++ c.tooltipSuffix) args = Template.bind template args := by
      rw [text, hget]
    rw [tooltip?, Traced.value_bind, Traced.value_pure, htext]
    simp only [Option.some.injEq, exists_eq_left']
    generalize (Template.bind template args).value = bound
    constructor
    · intro h
      split at h
      · contradiction
      · next hshown =>
        obtain rfl := Option.some.inj h
        exact ⟨rfl, not_or.mp hshown⟩
    · rintro ⟨rfl, hshown⟩
      exact if_neg (not_or.mpr hshown)

/-- A caption makes one update for each part that it notes, in order. -/
theorem map_part_updates_apply :
    (c.apply widget key args).value.updates.map Update.part =
      (c.apply widget key args).value.applied.toList := by
  rw [value_apply, Application.map_part_updates_ofValues]

/-- What is reported is among the parts of the widget. -/
theorem has_parts_of_has_applied {part : Part}
    (h : (c.apply widget key args).value.applied.has part = true) :
    widget.parts.has part = true := by
  rw [← Parts.mem_toList_iff, ← map_part_updates_apply, List.mem_map] at h
  obtain ⟨u, hu, rfl⟩ := h
  cases u with
  | text s => exact ((text_mem_updates_apply_iff c widget key args).mp hu).1
  | tooltip s => exact ((tooltip_mem_updates_apply_iff c widget key args).mp hu).1
  | font f => exact ((font_mem_updates_apply_iff c widget key args).mp hu).1

/-- What is reported has its new value. -/
theorem receive_apply_of_applied :
    widget.receive (c.apply widget key args).value =
      { widget with
        text :=
          if (c.apply widget key args).value.applied.text then
            some (c.resolve key args).value.text
          else widget.text
        tooltip :=
          if (c.apply widget key args).value.applied.tooltip then (c.tooltip? key args).value
          else widget.tooltip
        font :=
          if (c.apply widget key args).value.applied.font then c.glyphFont widget.font
          else widget.font } := by
  rw [receive_apply, value_apply, Widget.mk.injEq]
  refine ⟨rfl, rfl, ?_, ?_, ?_⟩
  · cases widget.parts.text with
    | true => rfl
    | false => rfl
  · cases widget.parts.tooltip with
    | true => cases (c.tooltip? key args).value <;> rfl
    | false => rfl
  · cases widget.parts.font && (c.resolve key args).value.hasGlyphs with
    | true => cases hface : c.iconFace <;> simp [Application.ofValues, glyphFont, hface]
    | false => rfl

/-- What is not reported stays as it was. -/
theorem differsOnlyIn_receive_apply :
    widget.DiffersOnlyIn (c.apply widget key args).value.applied.toList
      (widget.receive (c.apply widget key args).value) := by
  rw [← map_part_updates_apply]
  exact widget.differsOnlyIn_foldl_update _

/-- What putting the caption of `key` on `widget` has to be: which updates are made, which parts are
reported, what the widget shows afterwards, and what stays. -/
structure IsExact (a : Application) : Prop where
  text_mem_iff : ∀ s, .text s ∈ a.updates ↔
    widget.parts.text = true ∧ (c.resolve key args).value.text = s
  tooltip_mem_iff : ∀ s, .tooltip s ∈ a.updates ↔
    widget.parts.tooltip = true ∧ (c.tooltip? key args).value = some s
  /-- The font is made from the one that the widget had before. -/
  font_mem_iff : ∀ f, .font f ∈ a.updates ↔
    widget.parts.font = true ∧ (c.resolve key args).value.hasGlyphs = true ∧
      ∃ face, c.iconFace = some face ∧ face.fontFor widget.font c.icons.scale = f
  /-- Each part that is reported is changed once, the text first and the font last. -/
  map_part_updates : a.updates.map Update.part = a.applied.toList
  has_of_applied : ∀ part, a.applied.has part = true → widget.parts.has part = true
  /-- Each part that is reported has its new value, and no other part has changed. -/
  receive_eq : widget.receive a =
    { widget with
      text := if a.applied.text then some (c.resolve key args).value.text else widget.text
      tooltip := if a.applied.tooltip then (c.tooltip? key args).value else widget.tooltip
      font := if a.applied.font then c.glyphFont widget.font else widget.font }
  differsOnlyIn : widget.DiffersOnlyIn a.applied.toList (widget.receive a)

/-- **What is changed is what is reported.** A caption changes the text of a widget, its tooltip if
there is one, and its font if there are glyphs and a face for them, each if the widget has the part,
each once and in this order. It reports these parts, which show their new values afterwards, and
leaves everything else alone. -/
theorem isExact_apply :
    c.IsExact widget key args (c.apply widget key args).value ∧
      ∀ tooltip, (c.tooltip? key args).value = some tooltip ↔
        (∃ template, c.catalog.get? (key ++ c.tooltipSuffix) = some template ∧
          (Template.bind template args).value = tooltip) ∧
        tooltip ≠ "" ∧ tooltip ≠ key ++ c.tooltipSuffix where
  left := {
    text_mem_iff _ := text_mem_updates_apply_iff ..
    tooltip_mem_iff _ := tooltip_mem_updates_apply_iff ..
    font_mem_iff _ := font_mem_updates_apply_iff ..
    map_part_updates := map_part_updates_apply ..
    has_of_applied _ h := has_parts_of_has_applied c widget key args h
    receive_eq := receive_apply_of_applied ..
    differsOnlyIn := differsOnlyIn_receive_apply .. }
  right _ := value_tooltip?_eq_some_iff ..

end Captioner

end Captions
