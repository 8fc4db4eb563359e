import Captions.Font
import Captions.Locale.Basic
import Captions.TextError

/-!
# Events

The faults and changes that are reported while work goes on, each by its cause. The wording of an
event is a fixed line and a row of named values.
-/

namespace Captions

/-- What is reported. -/
inductive Event where
  /-- A template took fewer arguments than it was given. -/
  | surplusArguments (supplied consumed : Nat)
  /-- The bundle of one locale could not be had. -/
  | bundleFailed (baseName : String) (locale : Locale) (error : TextError)
  /-- No locale of the chain has a bundle. -/
  | noBundles (baseName : String) (locale : Locale)
  /-- A caption names an icon that the table lacks. -/
  | unknownIcon (name : String)
  /-- A widget shows no part of a caption. -/
  | unsupportedWidget (widget key : String)
  /-- A caption with glyphs met a widget while no icon face is there. -/
  | noIconFace (key : String)
  | faceRegistered (family : String)
  | faceFailed (error : FontError)
  /-- The host's face is not of the configured family. -/
  | unexpectedFace (expected registered : String)
  | catalogReloaded (baseName : String) (locale : Locale)
deriving DecidableEq

/-- How grave an event is. -/
inductive Severity where
  | error
  | warning
  | debug
deriving DecidableEq, Repr

namespace Event

def severity : Event → Severity
  | unknownIcon _ | faceFailed _ => .error
  | bundleFailed .. | unsupportedWidget .. | unexpectedFace .. => .warning
  | surplusArguments .. | noBundles .. | noIconFace _ | faceRegistered _ | catalogReloaded .. =>
    .debug

/-- The fixed line of an event. -/
def message : Event → String
  | surplusArguments .. => "template has fewer argument slots than supplied arguments"
  | bundleFailed .. => "catalog bundle failed to load; skipping layer"
  | noBundles .. => "no catalog bundles found; lookups fall back to keys"
  | unknownIcon _ => "unknown icon; leaving placeholder in place"
  | unsupportedWidget .. => "widget type is not supported; text not applied"
  | noIconFace _ => "no icon font registered; widget font unchanged"
  | faceRegistered _ => "icon font registered"
  | faceFailed _ => "problem loading the icon font; icons disabled"
  | unexpectedFace .. => "host registered a different icon family than configured"
  | catalogReloaded .. => "catalog reloaded"

/-- The named values of an event. -/
def fields : Event → List (String × String)
  | surplusArguments supplied consumed =>
    [("supplied", supplied.repr), ("consumed", consumed.repr)]
  | bundleFailed baseName locale error =>
    [("base_name", baseName), ("locale", locale.tag), ("error", error.message)]
  | noBundles baseName locale => [("base_name", baseName), ("locale", locale.tag)]
  | unknownIcon name => [("icon", name)]
  | unsupportedWidget widget key => [("widget", widget), ("key", key)]
  | noIconFace key => [("key", key)]
  | faceRegistered family => [("family", family)]
  | faceFailed error => [("error", error.message)]
  | unexpectedFace expected registered => [("expected", expected), ("registered", registered)]
  | catalogReloaded baseName locale => [("base_name", baseName), ("locale", locale.tag)]

end Event

end Captions
