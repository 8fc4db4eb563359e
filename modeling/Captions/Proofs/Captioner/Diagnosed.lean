import Captions.Proofs.Captioner.Reported

/-!
# What is logged of a caption

What putting a caption on a widget leaves in the log, told without the steps in which the caption is
made: line by line from the catalog, the arguments, the resolved caption and the widget's parts.
Nothing is asked of the store or of the font host on the way.

Results:
* `onlyReports_apply`: putting a caption on a widget has no effects but reports.
* `isSurplusLog_iff`: the log of surplus arguments for a key.
* `isFaceLog_iff`: the log of a missing icon face.
* `isLog_apply_iff`: the log of putting a caption on a widget, with nothing left out or added.
-/

namespace Captions

/-! ## Reports alone -/

namespace Traced

variable {α β : Type}

/-- There are no effects but reports. -/
def OnlyReports (x : Traced α) : Prop := x.effects = x.events.map .event

theorem onlyReports_pure (a : α) : (pure a : Traced α).OnlyReports := rfl

theorem onlyReports_report (e : Event) : (report e).OnlyReports := rfl

theorem OnlyReports.bind {x : Traced α} {f : α → Traced β} (h : x.OnlyReports)
    (h' : (f x.value).OnlyReports) : (x >>= f).OnlyReports := by
  rw [OnlyReports, effects_bind, events_bind, List.map_append, h, h']

end Traced

theorem Template.onlyReports_bind (template : String) (args : List String) :
    (bind template args).OnlyReports := by
  rw [Traced.OnlyReports, Traced.events, effects_bind]
  split <;> rfl

theorem Icons.onlyReports_resolve (icons : Icons) (caption : String) :
    (icons.resolve caption).OnlyReports := by
  rw [Traced.OnlyReports, events_resolve, effects_resolve, Resolved.reports, List.map_map]
  rfl

/-! ## Lines of the log -/

/-- A line of the log. -/
structure LogLine where
  severity : Severity
  message : String
  fields : List (String × String)
deriving DecidableEq, Repr

def Event.logLine (e : Event) : LogLine := ⟨e.severity, e.message, e.fields⟩

/-- The number of argument slots of a template, with repetitions. -/
def Template.slotCount (template : String) : Nat := (argumentNames (tokens template.toList)).length

theorem Template.surplus?_of_lt {template : String} {args : List String}
    (h : slotCount template < args.length) :
    surplus? template args = some (.surplusArguments args.length (slotCount template)) :=
  if_pos h

theorem Template.surplus?_of_le {template : String} {args : List String}
    (h : args.length ≤ slotCount template) : surplus? template args = none :=
  if_neg (Nat.not_lt.mpr h)

namespace Captioner

variable (c : Captioner) (widget : Widget) (key : String) (args : List String)

theorem onlyReports_text : (c.text key args).OnlyReports := by
  rw [text]
  cases c.catalog.get? key with
  | some template => exact Template.onlyReports_bind template args
  | none => exact Traced.onlyReports_pure key

theorem onlyReports_resolve : (c.resolve key args).OnlyReports :=
  (c.onlyReports_text key args).bind (Icons.onlyReports_resolve ..)

theorem onlyReports_tooltip? : (c.tooltip? key args).OnlyReports :=
  (c.onlyReports_text (key ++ c.tooltipSuffix) args).bind (Traced.onlyReports_pure _)

theorem onlyReports_putFont (a : Application) : (c.putFont a widget key).OnlyReports := by
  rw [putFont]
  cases c.iconFace with
  | some face => exact Traced.onlyReports_pure _
  | none => exact (Traced.onlyReports_report _).bind (Traced.onlyReports_pure _)

/-- Putting a caption on a widget has no effects but reports. -/
theorem onlyReports_apply : (c.apply widget key args).OnlyReports := by
  rw [apply]
  split
  · exact (Traced.onlyReports_report _).bind (Traced.onlyReports_pure _)
  · refine (c.onlyReports_resolve key args).bind ((c.onlyReports_tooltip? key args).bind ?_)
    dsimp only
    split
    · exact c.onlyReports_putFont widget key _
    · exact Traced.onlyReports_pure _

/-! ## The log of a caption -/

/-- What is logged of the arguments for `key`: that there are more of them than its template has
slots. A key without a template takes any arguments. -/
inductive IsSurplusLog : List LogLine → Prop where
  | surplus {template : String} : c.catalog.get? key = some template →
      Template.slotCount template < args.length →
      IsSurplusLog [⟨.debug, "template has fewer argument slots than supplied arguments",
        [("supplied", args.length.repr), ("consumed", (Template.slotCount template).repr)]⟩]
  | enough {template : String} : c.catalog.get? key = some template →
      args.length ≤ Template.slotCount template → IsSurplusLog []
  | unknown : c.catalog.get? key = none → IsSurplusLog []

/-- What is logged of the icon face: that there is none for the glyphs of a widget with a font. -/
inductive IsFaceLog : List LogLine → Prop where
  | missing : (c.resolve key args).value.hasGlyphs = true → widget.parts.font = true →
      c.iconFace = none →
      IsFaceLog [⟨.debug, "no icon font registered; widget font unchanged", [("key", key)]⟩]
  | withoutGlyphs : (c.resolve key args).value.hasGlyphs = false → IsFaceLog []
  | withoutFont : widget.parts.font = false → IsFaceLog []
  | provided : c.iconFace.isSome = true → IsFaceLog []

/-- What is logged of an unknown icon. -/
def unknownIconLine (name : String) : LogLine :=
  ⟨.error, "unknown icon; leaving placeholder in place", [("icon", name)]⟩

/-- The log of putting the caption of `key` on `widget`. -/
inductive IsLog : List LogLine → Prop where
  | unsupported : widget.parts = .none →
      IsLog [⟨.warning, "widget type is not supported; text not applied",
        [("widget", widget.name), ("key", key)]⟩]
  /-- The arguments of the caption, its icons, the arguments of the tooltip, whether or not it will
  be shown, and the face. -/
  | supported {caption tooltip face : List LogLine} : widget.parts ≠ .none →
      c.IsSurplusLog key args caption → c.IsSurplusLog (key ++ c.tooltipSuffix) args tooltip →
      c.IsFaceLog widget key args face →
      IsLog (caption ++ (c.resolve key args).value.unresolved.map unknownIconLine ++
        tooltip ++ face)

theorem isSurplusLog_iff {log : List LogLine} :
    c.IsSurplusLog key args log ↔ log = (c.surplus? key args).toList.map Event.logLine := by
  rw [surplus?]
  constructor
  · intro h
    cases h with
    | surplus hget hlt =>
      rw [hget, Option.bind_some, Template.surplus?_of_lt hlt]
      rfl
    | enough hget hle =>
      rw [hget, Option.bind_some, Template.surplus?_of_le hle]
      rfl
    | unknown hget =>
      rw [hget]
      rfl
  · rintro rfl
    cases hget : c.catalog.get? key with
    | some template =>
      rw [Option.bind_some]
      rcases Nat.lt_or_ge (Template.slotCount template) args.length with hlt | hle
      · rw [Template.surplus?_of_lt hlt]
        exact .surplus hget hlt
      · rw [Template.surplus?_of_le hle]
        exact .enough hget hle
    | none => exact .unknown hget

theorem isFaceLog_iff {log : List LogLine} :
    c.IsFaceLog widget key args log ↔
      log = (c.missingFace? widget key args).toList.map Event.logLine := by
  rw [missingFace?]
  constructor
  · intro h
    cases h with
    | missing hglyphs hfont hface =>
      rw [hglyphs, hfont, hface]
      rfl
    | withoutGlyphs hglyphs =>
      rw [hglyphs]
      rfl
    | withoutFont hfont =>
      rw [hfont, Bool.and_false]
      rfl
    | provided hface =>
      rw [Option.isNone_eq_false_iff.mpr hface, Bool.and_false]
      rfl
  · rintro rfl
    cases hglyphs : (c.resolve key args).value.hasGlyphs with
    | false => exact .withoutGlyphs hglyphs
    | true =>
      cases hfont : widget.parts.font with
      | false => exact .withoutFont hfont
      | true =>
        cases hface : c.iconFace with
        | none => exact .missing hglyphs hfont hface
        | some face => exact .provided (by rw [hface]; rfl)

theorem map_logLine_unknownIcon (names : List String) :
    (names.map Event.unknownIcon).map Event.logLine = names.map unknownIconLine := by
  rw [List.map_map]
  rfl

/-- **What is logged of a caption is told by its causes.** Putting a caption on a widget leaves one
line for a widget without parts, and else those of the arguments, of each unknown icon, of the
arguments of the tooltip and of the face, in this order. Beside these there are no effects. -/
theorem isLog_apply_iff :
    (c.apply widget key args).effects = (c.apply widget key args).events.map .event ∧
      ∀ log, c.IsLog widget key args log ↔
        log = (c.apply widget key args).events.map Event.logLine := by
  refine ⟨c.onlyReports_apply widget key args, fun log => ?_⟩
  rw [events_apply]
  by_cases hempty : widget.parts.isEmpty = true
  · have hparts : widget.parts = .none := of_decide_eq_true hempty
    rw [if_pos hempty]
    constructor
    · intro h
      cases h with
      | unsupported => rfl
      | supported hne => exact absurd hparts hne
    · rintro rfl
      exact .unsupported hparts
  · have hne : widget.parts ≠ .none := fun hparts => hempty (decide_eq_true hparts)
    rw [if_neg hempty, List.map_append, List.map_append, List.map_append, map_logLine_unknownIcon]
    constructor
    · intro h
      cases h with
      | unsupported hparts => exact absurd hparts hne
      | supported _ hcaption htooltip hface =>
        rw [(c.isSurplusLog_iff key args).mp hcaption,
          (c.isSurplusLog_iff (key ++ c.tooltipSuffix) args).mp htooltip,
          (c.isFaceLog_iff widget key args).mp hface]
    · rintro rfl
      exact .supported hne ((c.isSurplusLog_iff key args).mpr rfl)
        ((c.isSurplusLog_iff (key ++ c.tooltipSuffix) args).mpr rfl)
        ((c.isFaceLog_iff widget key args).mpr rfl)

end Captioner

end Captions
