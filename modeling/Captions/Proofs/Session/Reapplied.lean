import Captions.Proofs.Session.IconsInStep
import Captions.Proofs.Session.LocaleSwitch
import Captions.Proofs.Session.Run

/-!
# The same caption put on a widget again

A caption that is put on a widget for a second time, after changes of the locale that have come back
to the first one, brings the text and the tooltip that are there already. The font is made from the
one that the widget has, so it is the same if the caption has no glyphs, and scaled once more if it
has.

Results:
* `display_display`: a caption put on a widget twice.
* `captions_setLocale_append`, `captions_again`: changes of the locale that come back to the first
  one change no caption behind them.
* `run_again_eq`: the widget after the same caption has been put on it again.
-/

namespace Captions

/-! ## One caption twice -/

namespace Captioner

variable (c : Captioner) (widget : Widget) (caption : Caption)

/-- The second time, text and tooltip find themselves in place, and the font is made from the one of
the first time. -/
theorem display_display :
    c.display (c.display widget caption) caption =
      { c.display widget caption with
        font :=
          if widget.parts.font && caption.resolved.hasGlyphs then
            c.glyphFont (c.display widget caption).font
          else (c.display widget caption).font } := by
  ext1
  · rfl
  · rfl
  · cases h : widget.parts.text with
    | true => simp [display, h]
    | false => simp [display, h]
  · cases h : widget.parts.tooltip with
    | true => cases ht : caption.tooltip <;> simp [display, h, ht]
    | false => simp [display, h]
  · rfl

/-- A font that has been made for glyphs is made again by scaling it. -/
theorem glyphFont_glyphFont {face : IconFace} (h : c.iconFace = some face) (font : Font) :
    c.glyphFont (c.glyphFont font) =
      { c.glyphFont font with size := (c.glyphFont font).size * c.icons.scale } := by
  rw [glyphFont_of_some h]
  rfl

/-- With a face for its glyphs, a caption that is put on a widget again scales the font again. -/
theorem display_display_of_face
    (hface : caption.resolved.hasGlyphs = true → c.iconFace.isSome = true) :
    c.display (c.display widget caption) caption =
      { c.display widget caption with
        font :=
          if widget.parts.font && caption.resolved.hasGlyphs then
            { (c.display widget caption).font with
              size := (c.display widget caption).font.size * c.icons.scale }
          else (c.display widget caption).font } := by
  rw [display_display]
  cases hscaled : widget.parts.font && caption.resolved.hasGlyphs with
  | false => rfl
  | true =>
    obtain ⟨face, hsome⟩ := Option.isSome_iff_exists.mp (hface (Bool.and_eq_true_iff.mp hscaled).2)
    have hfont : (c.display widget caption).font = c.glyphFont widget.font := if_pos hscaled
    rw [if_pos rfl, if_pos rfl, hfont, c.glyphFont_glyphFont hsome]

/-- It leaves the widget as it is if and only if the scale does nothing to the font. -/
theorem display_display_eq_iff
    (hface : caption.resolved.hasGlyphs = true → c.iconFace.isSome = true) :
    c.display (c.display widget caption) caption = c.display widget caption ↔
      (widget.parts.font && caption.resolved.hasGlyphs) = true →
        (c.display widget caption).font.size * c.icons.scale =
          (c.display widget caption).font.size := by
  rw [display_display_of_face c widget caption hface]
  cases widget.parts.font && caption.resolved.hasGlyphs with
  | false => simp
  | true =>
    constructor
    · intro h _
      exact congrArg (·.font.size) h
    · intro h
      rw [if_pos rfl, h rfl]

end Captioner

namespace Session

variable {session : Session}

/-! ## Between the two times -/

/-- The captions behind a row of changes of the locale are those in the last one. -/
theorem captions_setLocale_append (h : session.IsLoaded) (locales : List Locale)
    (calls : List Call) :
    session.captions (locales.map .setLocale ++ calls) =
      (session.setLocale (locales.getLast?.getD session.catalog.locale)).value.captions calls := by
  induction locales generalizing session with
  | nil =>
    rw [List.map_nil, List.nil_append, List.getLast?_nil, Option.getD_none, h.setLocale_locale]
  | cons locale locales ih =>
    rw [List.map_cons, List.cons_append, captions, ih (isLoaded_setLocale session locale),
      setLocale_setLocale, locale_setLocale, List.getLast?_cons, Option.getD_some]

/-- Changes of the locale that come back to the first one make no other caption. -/
theorem captions_again (h : session.IsLoaded) {between : List Locale}
    (hback : between.getLast?.getD session.catalog.locale = session.catalog.locale) (key : String)
    (args : List String) :
    session.captions (.setText key args :: (between.map .setLocale ++ [.setText key args])) =
      [session.captioner.caption key args, session.captioner.caption key args] := by
  rw [captions, captions_setLocale_append h, hback, h.setLocale_locale]
  rfl

/-- The widget after the same caption has been put on it again. -/
theorem run_again_of_isLoaded (h : session.IsLoaded) {between : List Locale}
    (hback : between.getLast?.getD session.catalog.locale = session.catalog.locale)
    (widget : Widget) (key : String) (args : List String) :
    (session.run widget
        (.setText key args :: (between.map .setLocale ++ [.setText key args]))).value.2 =
      session.captioner.display
        (session.run widget [.setText key args]).value.2 (session.captioner.caption key args) := by
  rw [widget_run_eq_foldl, widget_run_eq_foldl, captions_again h hback]
  rfl

/-- **The same caption again.** When the caption of a key is put on a widget twice, with changes of
the locale between that come back to the first one, the second time changes neither the text nor
the tooltip. It changes the font of a widget that takes one if the caption has glyphs: the size is
scaled once more, and the font stays only if that does nothing to its size. -/
theorem run_again_eq {opening : Opening} {store : Store} {host : FontHost}
    (h : (opening.run store host).value = .ok session) (requests : List Request)
    (widget : Widget) (key : String) (args : List String) (between : List Locale)
    (hback : between.getLast?.getD (session.after requests).catalog.locale =
      (session.after requests).catalog.locale) :
    let current := session.after requests
    let once := (current.run widget [.setText key args]).value.2
    let twice :=
      (current.run widget
        (.setText key args :: (between.map .setLocale ++ [.setText key args]))).value.2
    let scaled := widget.parts.font && (current.captioner.resolve key args).value.hasGlyphs
    twice =
        { once with
          font :=
            if scaled then { once.font with size := once.font.size * current.icons.scale }
            else once.font } ∧
      (twice = once ↔
        (scaled = true → once.font.size * current.icons.scale = once.font.size)) := by
  intro current once twice scaled
  have hface : (current.captioner.resolve key args).value.hasGlyphs = true →
      current.iconFace.isSome = true := fun hglyphs => by
    rw [← ((isInStep_of_run h).after requests).enabled_eq]
    exact Icons.enabled_of_hasGlyphs hglyphs
  have honce : once = current.captioner.display widget (current.captioner.caption key args) :=
    widget_run_eq_foldl current widget [.setText key args]
  have htwice : twice = current.captioner.display once (current.captioner.caption key args) :=
    run_again_of_isLoaded ((Opening.isLoaded_of_run h).after requests) hback widget key args
  rw [htwice, honce]
  exact ⟨current.captioner.display_display_of_face widget _ hface,
    current.captioner.display_display_eq_iff widget _ hface⟩

/-- A session whose only caption draws a glyph. -/
def withUndo : Session :=
  (ofStore (BundleList.empty.insert "app" .root (.ofList [("undo", "{{icon:undo}} Undo")])).toStore
    (.offering "Icons") "app" .root).value

/-- A label with all three parts. -/
def plainLabel : Widget := ⟨"Label", ⟨true, true, true⟩, none, none, ⟨"Sans", .plain, 12⟩⟩

/-- A caption with a glyph, before and after a visit to another locale. -/
theorem run_again_eq_undo :
    let once := (withUndo.run plainLabel [.setText "undo" []]).value.2
    let twice :=
      (withUndo.run plainLabel
        [.setText "undo" [], .setLocale .german, .setLocale .root, .setText "undo" []]).value.2
    once.font.size = 18 ∧
      twice = { once with font := { once.font with size := once.font.size * 1.5 } } := by
  intro once twice
  have hopened : ((Opening.usual "app" .root).run withUndo.store (.offering "Icons")).value =
      .ok withUndo := rfl
  have hback : [Locale.german, .root].getLast?.getD withUndo.catalog.locale =
      withUndo.catalog.locale := by decide +kernel
  have hscaled : (plainLabel.parts.font &&
      (withUndo.captioner.resolve "undo" []).value.hasGlyphs) = true := by decide +kernel
  refine ⟨by decide +kernel, ?_⟩
  obtain ⟨htwice, -⟩ := run_again_eq hopened [] plainLabel "undo" [] [.german, .root] hback
  exact htwice.trans (congrArg (fun font => { once with font }) (if_pos hscaled))

/-- The same caption again changes the font of a label. -/
theorem font_run_again_ne :
    (withUndo.run plainLabel [.setText "undo" [], .setText "undo" []]).value.2.font ≠
      (withUndo.run plainLabel [.setText "undo" []]).value.2.font := by
  intro h
  have hsize := congrArg Font.size h
  revert hsize
  decide +kernel

end Session

end Captions
