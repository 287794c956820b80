import EventFlow.Text.Utf8

/-!
# Messages and references

What passes between a worker and a backend: the events of a flow, the references by which a worker
holds a claimed one, and the acknowledgments that settle them.

The content of a message is bytes that nobody here looks into. Its metadata is a list and not a
map: keys may repeat, and the order is kept everywhere.

An acknowledgment is built from a list of options. A replacement takes the place of any earlier one
as a whole, content and metadata together, and does not touch the filter flag; so the options of
the two kinds may be mixed in any order.

## Main definitions

* `Message`: the content and metadata of an event.
* `Reference`: a claimed unit of work.
* `Acknowledgment`: what settles a claimed unit of work.
* `Acknowledgment.ofOptions`: the acknowledgment that a list of options asks for.
-/

namespace EventFlow

/-- A metadata entry. -/
structure Metadata where
  key : String
  value : String
  deriving DecidableEq, Repr, Inhabited

/-- The content and metadata of an event. -/
structure Message where
  content : Bytes
  metadata : List Metadata
  deriving DecidableEq, Repr, Inhabited

namespace Message

/-- The message without content or metadata. -/
def empty : Message := ⟨[], []⟩

/-- The message with a text as its content. -/
def ofText (s : String) : Message := ⟨Bytes.ofText s, []⟩

/-- The content as text, if it is UTF-8. -/
def text? (m : Message) : Option String := Bytes.text? m.content

/-- Adds a metadata entry behind the others. -/
def push (m : Message) (entry : Metadata) : Message :=
  { m with metadata := m.metadata ++ [entry] }

/-- The value of the first metadata entry of a key. -/
def value? (m : Message) (key : String) : Option String :=
  (m.metadata.find? fun entry => entry.key = key).map (·.value)

@[simp] theorem metadata_push (m : Message) (entry : Metadata) :
    (m.push entry).metadata = m.metadata ++ [entry] := rfl

@[simp] theorem text?_ofText (s : String) : (ofText s).text? = some s :=
  Bytes.text?_ofText s

end Message

/-- The identifier of an event within its flow. -/
abbrev EventId := String

/-- A claimed unit of work: what to settle it by, and the event behind it. -/
structure Reference where
  /-- What authorizes the one acknowledgment. -/
  ackId : String
  /-- The event that was claimed. -/
  eventId : EventId
  /-- The flow of the event, where the backend tells it. -/
  flowId : Option String
  deriving DecidableEq, Repr, Inhabited

namespace Reference

/-- A reference that names no flow. -/
def of (ackId : String) (eventId : EventId) : Reference := ⟨ackId, eventId, none⟩

/-- How a reference is shown. -/
def text (r : Reference) : String :=
  "ack=" ++ r.ackId ++ " event=" ++ r.eventId

end Reference

/-- What settles a claimed unit of work. Empty content and metadata leave those of the event. -/
structure Acknowledgment where
  content : Bytes
  metadata : List Metadata
  /-- Whether the event goes no further in its flow. -/
  filter : Bool
  deriving DecidableEq, Repr, Inhabited

/-- A way in which an acknowledgment differs from the plain one. -/
inductive AckOption where
  /-- The event is replaced by a message. -/
  | replace (message : Message)
  /-- The event goes no further. -/
  | filter
  deriving DecidableEq, Repr, Inhabited

namespace Acknowledgment

/-- The acknowledgment that changes nothing. -/
def plain : Acknowledgment := ⟨[], [], false⟩

/-- Whether an acknowledgment changes nothing. -/
def isPlain (a : Acknowledgment) : Bool :=
  a.content.isEmpty && a.metadata.isEmpty && !a.filter

/-- The acknowledgment with one more option. -/
def withOption (a : Acknowledgment) : AckOption → Acknowledgment
  | .replace message => { a with content := message.content, metadata := message.metadata }
  | .filter => { a with filter := true }

/-- The acknowledgment that a list of options asks for. -/
def ofOptions (options : List AckOption) : Acknowledgment :=
  options.foldl withOption plain

theorem isPlain_iff {a : Acknowledgment} : a.isPlain = true ↔ a = plain := by
  obtain ⟨content, metadata, filter⟩ := a
  simp only [isPlain, plain, Bool.and_eq_true, List.isEmpty_iff, Bool.not_eq_true', mk.injEq,
    and_assoc]

end Acknowledgment

end EventFlow
