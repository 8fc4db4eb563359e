import Captions.Captioner
import Captions.Catalog.Basic
import Captions.Catalog.Bundle
import Captions.Config.Basic
import Captions.ConfigFile.Decode
import Captions.ConfigFile.Document
import Captions.ConfigFile.Number
import Captions.ConfigFile.Reader
import Captions.ConfigFile.Text
import Captions.Decimal.Positional
import Captions.Decimal.Shortest
import Captions.Event
import Captions.Font
import Captions.Icon.Resolve
import Captions.Icon.Table
import Captions.Locale.Basic
import Captions.Locale.Code
import Captions.Proofs.Captioner.Applied
import Captions.Proofs.Captioner.Changes
import Captions.Proofs.Captioner.Diagnosed
import Captions.Proofs.Captioner.Reported
import Captions.Proofs.Captioner.UnknownKey
import Captions.Proofs.Catalog.Ancestors
import Captions.Proofs.Catalog.Coverage
import Captions.Proofs.Catalog.Fallback
import Captions.Proofs.Config.Foreseen
import Captions.Proofs.Config.Gate
import Captions.Proofs.Icon.Correspondence
import Captions.Proofs.Icon.Covered
import Captions.Proofs.Icon.Drawn
import Captions.Proofs.Icon.Faultless
import Captions.Proofs.Icon.Fragments
import Captions.Proofs.Icon.Independent
import Captions.Proofs.Icon.Lines
import Captions.Proofs.Icon.Names
import Captions.Proofs.Icon.Restored
import Captions.Proofs.Icon.Settled
import Captions.Proofs.Icon.Shadowed
import Captions.Proofs.Locale.Chain
import Captions.Proofs.Locale.Grammar
import Captions.Proofs.Locale.Written
import Captions.Proofs.Session.IconsInStep
import Captions.Proofs.Session.LocaleSwitch
import Captions.Proofs.Session.Reapplied
import Captions.Proofs.Session.Requests
import Captions.Proofs.Session.Run
import Captions.Proofs.Session.UsualSettings
import Captions.Proofs.Template.Appended
import Captions.Proofs.Template.Copies
import Captions.Proofs.Template.Delimited
import Captions.Proofs.Template.Filled
import Captions.Proofs.Template.IconSlots
import Captions.Proofs.Template.Positional
import Captions.Proofs.Template.Reading
import Captions.Proofs.Template.Refilled
import Captions.Proofs.Template.Replacement
import Captions.Proofs.Template.Scanned
import Captions.Proofs.Template.SlotPlaces
import Captions.Proofs.Template.SlotShape
import Captions.Proofs.Text.ByteOrder
import Captions.Session
import Captions.Template.Bind
import Captions.Template.Mark
import Captions.Template.Place
import Captions.Template.Scan
import Captions.Template.Slot
import Captions.Template.Token
import Captions.Text.Blank
import Captions.Text.Cut
import Captions.Text.Invisible
import Captions.Text.Quoted
import Captions.Text.Scalar
import Captions.Text.Size
import Captions.TextError
import Captions.Traced
import Captions.Widget
