import Captions.Font

/-!
# Widgets

What a caption can be put on: a widget with up to three parts, its text, its tooltip and its font.
-/

namespace Captions

/-! ## Parts -/

/-- One of the parts of a widget. -/
inductive Part where
  | text
  | tooltip
  | font
deriving DecidableEq, Repr

/-- A choice among the three parts of a widget. -/
structure Parts where
  text : Bool
  tooltip : Bool
  font : Bool
deriving DecidableEq, Repr

namespace Parts

def none : Parts := ⟨false, false, false⟩

def isEmpty (parts : Parts) : Bool := parts = none

/-- The choice with one more part. -/
def insert (parts : Parts) : Part → Parts
  | .text => { parts with text := true }
  | .tooltip => { parts with tooltip := true }
  | .font => { parts with font := true }

end Parts

/-! ## Widgets and updates -/

/-- A widget with the parts it lets be changed. -/
@[ext]
structure Widget where
  /-- The kind of widget, as it is named in events. -/
  name : String
  parts : Parts
  text : Option String
  tooltip : Option String
  font : Font

/-- A change of one part. -/
inductive Update where
  | text (text : String)
  | tooltip (tooltip : String)
  | font (font : Font)

namespace Widget

/-- The widget with one part changed. -/
def update (widget : Widget) : Update → Widget
  | .text text => { widget with text := some text }
  | .tooltip tooltip => { widget with tooltip := some tooltip }
  | .font font => { widget with font }

end Widget

end Captions
