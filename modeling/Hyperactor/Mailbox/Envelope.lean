import Hyperactor.Reference

/-!
# Envelopes, delivery errors and sender errors

The envelope is the one object that crosses every boundary of the mailbox
subsystem. `MessageEnvelope::undeliverable` stamps a delivery error with
`try_set_error`, first error wins, and hands the envelope to the return
handle; `trySetError_fields` records that this changes nothing else.

`Serialized`, `Attrs` and the return-handle sink live in modules that are not
among the sources, and are modelled from the spec as opaque data.
-/

namespace Hyperactor

/-- Modelled from the spec: `Serialized`, a binary payload tagged with its type name. -/
structure Serialized where
  typename : String
  bytes : List UInt8
  deriving DecidableEq, Repr

/-- Modelled from the spec: `Attrs`, the open header map, as its encoded entries. -/
structure Attrs where
  entries : List (String × Serialized)
  deriving DecidableEq, Repr

/-- `Attrs::new`. -/
def Attrs.new : Attrs := ⟨[]⟩

/-- `DeliveryError`. -/
inductive DeliveryError where
  | unroutable (reason : String)
  | brokenLink (reason : String)
  | mailbox (reason : String)
  deriving DecidableEq, Repr

/-- `MessageEnvelope`. -/
structure MessageEnvelope where
  sender : ActorId
  dest : PortId
  data : Serialized
  error : Option DeliveryError
  headers : Attrs
  deriving DecidableEq, Repr

/-- `MessageMetadata`: an envelope without its payload. -/
structure MessageMetadata where
  sender : ActorId
  dest : PortId
  error : Option DeliveryError
  headers : Attrs
  deriving DecidableEq, Repr

/-- Modelled from the spec: the process-wide id `id!(unknown[0].unknown)`. -/
def unknownActorId : ActorId := ⟨⟨⟨"unknown"⟩, 0⟩, "unknown", 0⟩

namespace MessageEnvelope

/-- `MessageEnvelope::new`. -/
def new (sender : ActorId) (dest : PortId) (data : Serialized) (headers : Attrs) : MessageEnvelope :=
  { sender, dest, data, error := none, headers }

/-- `MessageEnvelope::new_unknown`. -/
def newUnknown (dest : PortId) (data : Serialized) : MessageEnvelope :=
  new unknownActorId dest data Attrs.new

/-- `try_set_error`: set the error unless one is already set. -/
def trySetError (self : MessageEnvelope) (error : DeliveryError) : MessageEnvelope :=
  if self.error.isNone then { self with error := some error } else self

/-- `open`: split off the payload. -/
def «open» (self : MessageEnvelope) : MessageMetadata × Serialized :=
  (⟨self.sender, self.dest, self.error, self.headers⟩, self.data)

/-- `seal`: put metadata and a payload back together. -/
def «seal» (metadata : MessageMetadata) (data : Serialized) : MessageEnvelope :=
  ⟨metadata.sender, metadata.dest, data, metadata.error, metadata.headers⟩

/-- `try_set_error` only ever fills an empty error, and touches nothing else. -/
theorem trySetError_fields (e : MessageEnvelope) (d : DeliveryError) :
    e.trySetError d = { e with error := e.error.or (some d) } := by
  obtain ⟨sender, dest, data, error, headers⟩ := e
  cases error <;> rfl

@[simp] theorem seal_open (e : MessageEnvelope) : «seal» e.«open».1 e.«open».2 = e := rfl

end MessageEnvelope

/-- `PortHandle<Undeliverable<MessageEnvelope>>`: where a sender's undeliverable
envelopes go, either a port of an actor or the process-wide monitored sink. -/
inductive ReturnHandle where
  | port (portId : PortId)
  | monitored
  deriving DecidableEq, Repr

/-- `PortLocation`. -/
inductive PortLocation where
  | bound (portId : PortId)
  | unbound (actorId : ActorId) (typename : String)
  deriving DecidableEq, Repr

/-- `MailboxSenderErrorKind`, the variants the mailbox raises. -/
inductive MailboxSenderErrorKind where
  | deserialize (typename : String) (error : String)
  | closed
  | channel (error : String)
  | other (error : String)
  deriving DecidableEq, Repr

/-- `MailboxSenderError`. -/
structure MailboxSenderError where
  location : PortLocation
  kind : MailboxSenderErrorKind
  deriving DecidableEq, Repr

/-- `MailboxSenderError::new_bound`. -/
def MailboxSenderError.newBound (portId : PortId) (kind : MailboxSenderErrorKind) :
    MailboxSenderError :=
  ⟨.bound portId, kind⟩

/-- The `Display` forms of `PortLocation`, the error kinds and the error. -/
instance : ToString PortLocation where
  toString
    | .bound p => toString p
    | .unbound a ty => s!"{a}<{ty}>"

instance : ToString MailboxSenderErrorKind where
  toString
    | .deserialize ty err => s!"deserialization error for type {ty}: {err}"
    | .closed => "port closed"
    | .channel err => err
    | .other err => s!"send error: {err}"

instance : ToString MailboxSenderError where
  toString e := s!"{e.location}: {e.kind}"

/-- `SerializedSenderError`: a failed `send_serialized` hands the payload back. -/
structure SerializedSenderError where
  headers : Attrs
  data : Serialized
  error : MailboxSenderError
  deriving DecidableEq, Repr

end Hyperactor
