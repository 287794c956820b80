import EventFlow.Json.Record
import EventFlow.Json.Value
import EventFlow.Message
import EventFlow.Text.Blank

/-!
# Messages as JSON

The records in which messages, references and acknowledgments travel.

Content travels as text, so content that is not UTF-8 has no body. A reference leaves out an absent
flow, an acknowledgment leaves out empty content and empty metadata; the body of a message is
always complete, but one that is read may lack either field.

The body that answers a reservation is the event id itself, as plain text or in double quotes, with
or without white space around it.

## Main definitions

* `Metadata.json`, `Reference.json`: the records that are written.
* `Metadata.ofTree?`, `Reference.ofTree?`: the records that are read.
* `Message.body?`, `Acknowledgment.body?`: the bodies that are sent.
* `Message.ofBody?`, `Reference.ofBody?`, `EventId.ofBody?`: the bodies that are received.
* `Message.ofJson`, `Message.read?`: messages whose content is a JSON text.
-/

namespace EventFlow

namespace Metadata

/-- The record of a metadata entry. -/
def json (entry : Metadata) : Json :=
  .object [("key", .text entry.key), ("value", .text entry.value)]

/-- The metadata entry of a record. -/
def ofTree? (tree : Json.Tree) : Option Metadata :=
  match tree.fields? ["key", "value"] with
  | some [key, value] => do
    let key ← Json.required Json.Tree.text? key
    let value ← Json.required Json.Tree.text? value
    return ⟨key, value⟩
  | _ => none

/-- The records of a list of metadata entries. -/
def listJson (entries : List Metadata) : Json :=
  .array (entries.map json)

/-- The metadata entries of a list of records. -/
def listOfTree? (tree : Json.Tree) : Option (List Metadata) :=
  tree.items? ofTree?

end Metadata

namespace Reference

/-- The record of a reference. -/
def json (r : Reference) : Json :=
  .object ([("ack_id", .text r.ackId), ("event_id", .text r.eventId)] ++
    match r.flowId with
    | some flow => [("flow_id", .text flow)]
    | none => [])

/-- The reference of a record. -/
def ofTree? (tree : Json.Tree) : Option Reference :=
  match tree.fields? ["ack_id", "event_id", "flow_id"] with
  | some [ack, event, flow] => do
    let ackId ← Json.required Json.Tree.text? ack
    let eventId ← Json.required Json.Tree.text? event
    let flowId ← Json.optional Json.Tree.text? flow
    return ⟨ackId, eventId, flowId⟩
  | _ => none

/-- The reference that answers a claim. -/
def ofBody? (body : Bytes) : Option Reference :=
  (Json.Tree.ofBytes? body).bind ofTree?

end Reference

namespace Message

/-- The message whose content is a JSON text. -/
def ofJson (value : Json) : Message := ⟨value.toBytes, []⟩

/-- What a decoder makes of the content of a message, as a JSON text. -/
def read? {α : Type} (decode : Json.Tree → Option α) (m : Message) : Option α :=
  (Json.Tree.ofBytes? m.content).bind decode

/-- The body that submits a message, if its content is UTF-8. -/
def body? (m : Message) : Option Bytes :=
  (Bytes.text? m.content).map fun content =>
    (Json.object [("content", .text content), ("metadata", Metadata.listJson m.metadata)]).toBytes

/-- The message of a record. -/
def ofTree? (tree : Json.Tree) : Option Message :=
  match tree.fields? ["content", "metadata"] with
  | some [content, metadata] => do
    let content ← Json.defaulting Json.Tree.text? "" content
    let metadata ← Json.optional Metadata.listOfTree? metadata
    return ⟨Bytes.ofText content, metadata.getD []⟩
  | _ => none

/-- The message that answers a fetch. -/
def ofBody? (body : Bytes) : Option Message :=
  (Json.Tree.ofBytes? body).bind ofTree?

end Message

namespace Acknowledgment

/-- The members of an acknowledgment's body. -/
def members (content : String) (a : Acknowledgment) : List (String × Json) :=
  (if content.isEmpty then [] else [("content", .text content)]) ++
    (if a.metadata.isEmpty then [] else [("metadata", Metadata.listJson a.metadata)]) ++
    [("filter", .bool a.filter)]

/-- The body that sends an acknowledgment, if its content is UTF-8. -/
def body? (a : Acknowledgment) : Option Bytes :=
  (Bytes.text? a.content).map fun content => (Json.object (a.members content)).toBytes

end Acknowledgment

namespace EventId

/-- The event id that answers a reservation: the text of the body without white space around it,
    then without double quotes around it, then without white space again; there has to be one. -/
def ofBody? (body : Bytes) : Option EventId :=
  let unquoted := Text.strip (· = '\x22') (Text.strip Text.isBlank (Bytes.mendedText body).toList)
  match Text.strip Text.isBlank unquoted with
  | [] => none
  | id => some (String.ofList id)

end EventId

end EventFlow
