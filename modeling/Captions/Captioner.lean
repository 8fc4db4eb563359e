import Captions.Catalog.Basic
import Captions.Icon.Resolve
import Captions.Template.Bind
import Captions.Widget

/-!
# Captioning widgets

The caption of a key is its template with the arguments filled in and the icons resolved; its
tooltip is the template of a second key, made from the first by a suffix. A caption is put on
whatever parts a widget has: one part after the other is updated, and noted as changed. A widget
draws its whole text in one font, so a caption with glyphs switches the widget to the icon face.
-/

namespace Captions

/-! ## What is done to a widget -/

/-- What has been done to a widget: its updates, and the parts that have been noted as changed. -/
structure Application where
  /-- The updates in the order in which they were made. -/
  updates : List Update
  /-- The parts noted. -/
  applied : Parts

namespace Application

/-- Nothing has been done. -/
def none : Application := ⟨[], .none⟩

/-- One more update is made. -/
def call (a : Application) (u : Update) : Application := { a with updates := a.updates ++ [u] }

/-- One more part is noted. -/
def note (a : Application) (part : Part) : Application :=
  { a with applied := a.applied.insert part }

end Application

/-- The widget after what has been done to it. -/
def Widget.receive (widget : Widget) (a : Application) : Widget :=
  a.updates.foldl Widget.update widget

namespace Application

/-- `text` is put on `widget`, if it has a text. -/
def putText (a : Application) (widget : Widget) (text : String) : Application :=
  if widget.parts.text then (a.call (.text text)).note .text else a

/-- The tooltip, if there is one, is put on `widget`, if it has one. -/
def putTooltip (a : Application) (widget : Widget) (tooltip? : Option String) : Application :=
  match tooltip? with
  | some tooltip =>
    if widget.parts.tooltip then (a.call (.tooltip tooltip)).note .tooltip else a
  | .none => a

end Application

/-- What captions are made from. -/
structure Captioner where
  catalog : Catalog
  icons : Icons
  /-- The face that glyphs are drawn in, if there is one. -/
  iconFace : Option IconFace
  /-- What is put behind a key to find its tooltip. -/
  tooltipSuffix : String

namespace Captioner

/-- The usual tooltip suffix. -/
def defaultTooltipSuffix : String := "_tooltip"

/-! ## Making a caption -/

/-- The template of `key` with its arguments filled in; an unknown key stands for itself. -/
def text (c : Captioner) (key : String) (args : List String) : Traced String :=
  match c.catalog.get? key with
  | some template => Template.bind template args
  | none => pure key

/-- The caption of `key` with its icons resolved. -/
def resolve (c : Captioner) (key : String) (args : List String) : Traced Resolved := do
  c.icons.resolve (← c.text key args)

/-- The tooltip of `key`, unless it is unknown or empty. A tooltip that reads like its own key
counts as unknown. -/
def tooltip? (c : Captioner) (key : String) (args : List String) : Traced (Option String) := do
  let tooltipKey := key ++ c.tooltipSuffix
  let tooltip ← c.text tooltipKey args
  return if tooltip = "" ∨ tooltip = tooltipKey then none else some tooltip

/-! ## Putting it on a widget -/

/-- The icon face is put on `widget`, in the scaled size of the font that it has by now. Without an
icon face the font stays. -/
def putFont (c : Captioner) (a : Application) (widget : Widget) (key : String) :
    Traced Application :=
  match c.iconFace with
  | some face =>
    let base := (widget.receive a).font
    return (a.call (.font (face.fontFor base c.icons.scale))).note .font
  | none => do
    Traced.report (.noIconFace key)
    return a

/-- What the caption and the tooltip of `key` do to `widget`. The tooltip is made even for a widget
without that part. A widget without parts is reported and left alone. -/
def apply (c : Captioner) (widget : Widget) (key : String) (args : List String) :
    Traced Application := do
  if widget.parts.isEmpty then
    Traced.report (.unsupportedWidget widget.name key)
    return .none
  let resolved ← c.resolve key args
  let withText := Application.none.putText widget resolved.text
  let tooltip ← c.tooltip? key args
  let withTooltip := withText.putTooltip widget tooltip
  if resolved.hasGlyphs && widget.parts.font then c.putFont withTooltip widget key
  else return withTooltip

end Captioner

end Captions
