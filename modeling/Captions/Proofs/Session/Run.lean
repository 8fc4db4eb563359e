import Captions.Proofs.Captioner.Applied
import Captions.Session
import Mathlib.Data.List.Induction
import Mathlib.Logic.Function.Iterate

/-!
# A widget over a whole run

While an application runs, the locale changes and captions are put on a widget in any order. What
the widget shows in the end is told from the captions alone, each made in the locale of its moment.
The three parts of a widget remember them in three ways: the text is that of the last caption, the
tooltip that of the last caption with one, and the font is scaled once for each caption with glyphs.

Results:
* `text_foldl_display`, `tooltip_foldl_display`, `font_foldl_display`: what each part of a widget
  keeps of a row of captions.
* `value_call_setText`: a call puts its caption on the widget.
* `widget_run_eq_foldl`: a run puts the captions that it makes on the widget one after the other.
* `widget_run`: the widget at the end of a run.
-/

namespace Captions

/-- What is asked of a session with a widget at hand. -/
inductive Call where
  | setLocale (locale : Locale)
  /-- The caption of `key` is to be put on the widget. -/
  | setText (key : String) (args : List String)
deriving DecidableEq

/-- A caption with its tooltip, if it has one. -/
structure Caption where
  resolved : Resolved
  tooltip : Option String

/-! ## Captions on a widget -/

namespace Captioner

/-- The caption of `key`. -/
def caption (c : Captioner) (key : String) (args : List String) : Caption :=
  ⟨(c.resolve key args).value, (c.tooltip? key args).value⟩

/-- The widget with a caption put on it. -/
def display (c : Captioner) (widget : Widget) (caption : Caption) : Widget :=
  { widget with
    text := if widget.parts.text then some caption.resolved.text else widget.text
    tooltip :=
      if widget.parts.tooltip then caption.tooltip <|> widget.tooltip else widget.tooltip
    font :=
      if widget.parts.font && caption.resolved.hasGlyphs then c.glyphFont widget.font
      else widget.font }

section Display

-- What a part keeps is decided by the captions at the end of the row, so the inductions on the
-- parts take the captions from the rear.
variable (c : Captioner) (widget : Widget) (captions : List Caption)

@[simp]
theorem name_foldl_display : (captions.foldl c.display widget).name = widget.name := by
  induction captions generalizing widget with
  | nil => rfl
  | cons caption captions ih => exact ih (c.display widget caption)

@[simp]
theorem parts_foldl_display : (captions.foldl c.display widget).parts = widget.parts := by
  induction captions generalizing widget with
  | nil => rfl
  | cons caption captions ih => exact ih (c.display widget caption)

/-- The text is that of the last caption. -/
theorem text_foldl_display :
    (captions.foldl c.display widget).text =
      if widget.parts.text then captions.getLast?.map (·.resolved.text) <|> widget.text
      else widget.text := by
  induction captions using List.reverseRecOn with
  | nil => simp
  | append_singleton captions caption ih =>
    rw [List.foldl_append, List.foldl_cons, List.foldl_nil, display, parts_foldl_display]
    cases h : widget.parts.text with
    | true => simp
    | false => simp [ih, h]

/-- The tooltip is that of the last caption with one. -/
theorem tooltip_foldl_display :
    (captions.foldl c.display widget).tooltip =
      if widget.parts.tooltip then (captions.filterMap (·.tooltip)).getLast? <|> widget.tooltip
      else widget.tooltip := by
  induction captions using List.reverseRecOn with
  | nil => simp
  | append_singleton captions caption ih =>
    rw [List.foldl_append, List.foldl_cons, List.foldl_nil, display, parts_foldl_display]
    cases h : widget.parts.tooltip with
    | true => cases ht : caption.tooltip <;> simp [ih, h, ht]
    | false => simp [ih, h]

/-- Each caption with glyphs changes the font once more. -/
theorem font_foldl_display :
    (captions.foldl c.display widget).font =
      if widget.parts.font then
        c.glyphFont^[captions.countP (·.resolved.hasGlyphs)] widget.font
      else widget.font := by
  induction captions using List.reverseRecOn with
  | nil => simp
  | append_singleton captions caption ih =>
    rw [List.foldl_append, List.foldl_cons, List.foldl_nil, display, parts_foldl_display, ih,
      List.countP_append, List.countP_singleton]
    cases h : widget.parts.font with
    | true =>
      cases caption.resolved.hasGlyphs with
      | true => simp [Function.iterate_succ_apply']
      | false => simp
    | false => simp

end Display

end Captioner

namespace Session

/-! ## Runs -/

/-- The session and the widget after a call. -/
def call (session : Session) (widget : Widget) : Call → Traced (Session × Widget)
  | .setLocale locale => do
    return (← session.setLocale locale, widget)
  | .setText key args => do
    return (session, widget.receive (← session.captioner.apply widget key args))

/-- The session and the widget after a row of calls. -/
def run (session : Session) (widget : Widget) : List Call → Traced (Session × Widget)
  | [] => pure (session, widget)
  | call :: calls => do
    let (session, widget) ← session.call widget call
    session.run widget calls

/-- The captions that a row of calls makes, each in the locale that is set at its moment. -/
def captions (session : Session) : List Call → List Caption
  | [] => []
  | .setLocale locale :: calls => (session.setLocale locale).value.captions calls
  | .setText key args :: calls => session.captioner.caption key args :: session.captions calls

theorem value_call_setText (session : Session) (widget : Widget) (key : String)
    (args : List String) :
    (session.call widget (.setText key args)).value =
      (session, session.captioner.display widget (session.captioner.caption key args)) :=
  congrArg (Prod.mk session) (Captioner.receive_apply session.captioner widget key args)

/-- A run puts the captions that it makes on the widget one after the other. A change of the locale
replaces the catalog alone, so the widget takes all of them in the same way. -/
theorem widget_run_eq_foldl (session : Session) (widget : Widget) (calls : List Call) :
    (session.run widget calls).value.2 =
      (session.captions calls).foldl session.captioner.display widget := by
  induction calls generalizing session widget with
  | nil => rfl
  | cons call calls ih =>
    cases call with
    | setLocale locale => exact ih (session.setLocale locale).value widget
    | setText key args =>
      rw [run, Traced.value_bind, value_call_setText, captions, List.foldl_cons]
      exact ih session _

/-- **A widget over a whole run.** At the end, the text is that of the last caption and the tooltip
that of the last caption with a tooltip. With an icon face the font has become plain and of its
family, and has been scaled once for each caption with glyphs. A part that the widget lacks stays as
it was. -/
theorem widget_run (session : Session) (widget : Widget) (calls : List Call) :
    (session.run widget calls).value.2 =
      { widget with
        text :=
          if widget.parts.text then
            (session.captions calls).getLast?.map (·.resolved.text) <|> widget.text
          else widget.text
        tooltip :=
          if widget.parts.tooltip then
            ((session.captions calls).filterMap (·.tooltip)).getLast? <|> widget.tooltip
          else widget.tooltip
        font :=
          match session.iconFace with
          | some face =>
            if widget.parts.font then
              (fun font : Font => ⟨face.family, .plain, font.size * session.icons.scale⟩)^[
                (session.captions calls).countP (·.resolved.hasGlyphs)] widget.font
            else widget.font
          | none => widget.font } := by
  rw [widget_run_eq_foldl]
  ext1
  · exact Captioner.name_foldl_display ..
  · exact Captioner.parts_foldl_display ..
  · exact Captioner.text_foldl_display ..
  · exact Captioner.tooltip_foldl_display ..
  · rw [Captioner.font_foldl_display]
    cases hface : session.iconFace with
    | some face =>
      rw [Captioner.glyphFont_of_some hface]
      rfl
    | none =>
      rw [Captioner.glyphFont_of_none hface, Function.iterate_id]
      exact ite_self _

end Session

end Captions
