import Enrolment.Json.Reader
import Enrolment.Json.Writer
import Enrolment.TextMap
import Enrolment.Timestamp.Reader
import Enrolment.Timestamp.Writer

/-!
# Enrolment.Identity

The record of a completed run: which thing the device is now, under which certificate, and how it
came to be. It is kept as a JSON object with one member on a line. The configuration is left out
where it is empty.
-/

namespace Enrolment

/-- The record of a completed run. -/
structure Identity where
  thingName : String
  certificateId : String
  template : String
  keyLabel : String
  certificateLabel : String
  provisionedAt : Timestamp
  configuration : TextMap
  deriving DecidableEq

namespace Identity

/-- The members of the record and its text, but for the configuration. -/
def members (r : Identity) : List (String × String) :=
  [("thing_name", r.thingName), ("certificate_id", r.certificateId), ("template", r.template),
    ("key_label", r.keyLabel), ("certificate_label", r.certificateLabel),
    ("provisioned_at", r.provisionedAt.toText)]

/-- The record as it is kept. -/
def toText (r : Identity) : String :=
  let texts (m : List (String × String)) := m.map fun e => (e.1, Json.string e.2)
  Json.object 0 (texts r.members ++
    if r.configuration.isEmpty then []
    else [("device_configuration", Json.object 1 (texts r.configuration.entries))])

def textMap? (d : Document) : Option TextMap := do
  let entries ← d.entries?
  return .ofList (← entries.mapM fun e => e.2.text?.map (e.1, ·))

def timestamp? (d : Document) : Option Timestamp := d.text?.bind Timestamp.ofText?

def ofDocument? (d : Document) : Option Identity := do
  match ← d.slots Json.form ["thing_name", "certificate_id", "template", "key_label",
    "certificate_label", "provisioned_at", "device_configuration"] with
  | [thingName, certificateId, template, keyLabel, certificateLabel, provisionedAt,
      configuration] =>
    return {
      thingName := ← thingName.required Document.text?
      certificateId := ← certificateId.required Document.text?
      template := ← template.required Document.text?
      keyLabel := ← keyLabel.required Document.text?
      certificateLabel := ← certificateLabel.required Document.text?
      provisionedAt := ← provisionedAt.required timestamp?
      configuration := ← configuration.orElse .empty textMap? }
  | _ => none

def ofBytes? (b : Bytes) : Option Identity := (Json.read? b).bind ofDocument?

end Identity

end Enrolment
