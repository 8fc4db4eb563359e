import Captions.Captioner
import Captions.Proofs.Icon.Fragments

/-!
# What is reported on the way to a caption

Each step towards a caption reports its own fault and nothing more: filling a template reports
surplus arguments, resolving the icons each unknown one, and the font a missing icon face.

Results:
* `events_text`, `events_resolve`, `events_tooltip?`: what the caption and the tooltip of a key
  report.
* `events_apply`: what is reported when they are put on a widget, in order.
* `reports_of_mem_text`, `reports_of_mem_resolve`, `reports_of_mem_apply`: every report has one of
  four causes.
-/

namespace Captions

/-- The report of arguments for which a template has no slots. -/
def Template.surplus? (template : String) (args : List String) : Option Event :=
  let slots := (argumentNames (tokens template.toList)).length
  if slots < args.length then some (.surplusArguments args.length slots) else none

theorem Template.events_bind (template : String) (args : List String) :
    (bind template args).events = (surplus? template args).toList := by
  rw [Traced.events, effects_bind, surplus?]
  split <;> rfl

theorem Icons.events_resolve (icons : Icons) (caption : String) :
    (icons.resolve caption).events = (icons.resolution caption).unresolved.map .unknownIcon := by
  rw [Traced.events, effects_resolve, Resolved.reports, List.filterMap_map]
  exact congrFun List.filterMap_eq_map _

namespace Captioner

variable (c : Captioner) (widget : Widget) (key : String) (args : List String)

/-- The report of arguments for which the template of `key` has no slots. A key without a template
takes any arguments. -/
def surplus? : Option Event :=
  (c.catalog.get? key).bind fun template => Template.surplus? template args

/-- The report of a caption with glyphs for a widget that could be given the icon face, if there was
one. -/
def missingFace? : Option Event :=
  if (c.resolve key args).value.hasGlyphs && widget.parts.font && c.iconFace.isNone then
    some (.noIconFace key)
  else none

theorem events_text : (c.text key args).events = (c.surplus? key args).toList := by
  rw [text, surplus?]
  cases c.catalog.get? key with
  | some template => exact Template.events_bind template args
  | none => rfl

theorem events_resolve :
    (c.resolve key args).events =
      (c.surplus? key args).toList ++ (c.resolve key args).value.unresolved.map .unknownIcon := by
  rw [resolve, Traced.events_bind, events_text, Icons.events_resolve, Traced.value_bind,
    Icons.value_resolve]

theorem events_tooltip? :
    (c.tooltip? key args).events = (c.surplus? (key ++ c.tooltipSuffix) args).toList := by
  simp [tooltip?, events_text]

theorem events_putFont (a : Application) :
    (c.putFont a widget key).events = if c.iconFace.isNone then [.noIconFace key] else [] := by
  rw [putFont]
  cases c.iconFace with
  | some face => rfl
  | none => rfl

/-- A widget without parts is all that is reported. For any other one the reports are those of the
caption, of the tooltip and of the font, in this order. -/
theorem events_apply :
    (c.apply widget key args).events =
      if widget.parts.isEmpty then [.unsupportedWidget widget.name key]
      else
        (c.surplus? key args).toList ++ (c.resolve key args).value.unresolved.map .unknownIcon ++
          (c.surplus? (key ++ c.tooltipSuffix) args).toList ++
            (c.missingFace? widget key args).toList := by
  rw [apply]
  split
  · rfl
  · rw [Traced.events_bind, Traced.events_bind, events_resolve, events_tooltip?, missingFace?,
      List.append_assoc _ (c.surplus? (key ++ c.tooltipSuffix) args).toList]
    cases (c.resolve key args).value.hasGlyphs && widget.parts.font with
    | true => cases hface : c.iconFace <;> simp [events_putFont, hface]
    | false => simp

/-! ## Causes -/

/-- What a captioner can report, each with its cause. -/
inductive Reports (c : Captioner) : Event → Prop where
  | surplusArguments (supplied consumed : Nat) : Reports c (.surplusArguments supplied consumed)
  | unknownIcon {key : String} {args : List String} {name : String} :
      name ∈ (c.resolve key args).value.unresolved → Reports c (.unknownIcon name)
  | unsupportedWidget (widget key : String) : Reports c (.unsupportedWidget widget key)
  | noIconFace {key : String} {args : List String} :
      (c.resolve key args).value.hasGlyphs = true → c.iconFace = none → Reports c (.noIconFace key)

variable {c widget key args} {e : Event}

theorem reports_of_mem_surplus? (h : e ∈ (c.surplus? key args).toList) : c.Reports e := by
  obtain ⟨template, -, hsurplus⟩ := Option.bind_eq_some_iff.mp (Option.mem_toList.mp h)
  rw [Template.surplus?] at hsurplus
  split at hsurplus
  · rw [← Option.some.inj hsurplus]
    exact .surplusArguments ..
  · contradiction

theorem reports_of_mem_text (h : e ∈ (c.text key args).events) : c.Reports e := by
  rw [events_text] at h
  exact reports_of_mem_surplus? h

theorem reports_of_mem_missingFace? (h : e ∈ (c.missingFace? widget key args).toList) :
    c.Reports e := by
  rw [Option.mem_toList, missingFace?] at h
  split at h
  · next hmissing =>
    rw [Bool.and_eq_true, Bool.and_eq_true, Option.isNone_iff_eq_none] at hmissing
    rw [← Option.some.inj h]
    exact .noIconFace hmissing.1.1 hmissing.2
  · contradiction

theorem reports_of_mem_resolve (h : e ∈ (c.resolve key args).events) : c.Reports e := by
  rw [events_resolve, List.mem_append, List.mem_map] at h
  rcases h with h | ⟨name, hname, rfl⟩
  · exact reports_of_mem_surplus? h
  · exact .unknownIcon hname

theorem reports_of_mem_apply (h : e ∈ (c.apply widget key args).events) : c.Reports e := by
  rw [events_apply, ← events_resolve] at h
  split at h
  · rw [List.mem_singleton.mp h]
    exact .unsupportedWidget ..
  · rw [List.mem_append, List.mem_append] at h
    rcases h with (h | h) | h
    · exact reports_of_mem_resolve h
    · exact reports_of_mem_surplus? h
    · exact reports_of_mem_missingFace? h

end Captioner

end Captions
