import Hyperactor.Mailbox.Envelope
import Mathlib.Algebra.Group.Nat.Basic

/-!
# The mailbox state and its port senders

A mailbox is its `State`: the owner's actor id, the ports map from port index to
a type-erased `SerializedSender`, and the port counter. The channels, the
accumulator cells, the one-shot slots and the split buffers that the ports'
senders share with handles and receivers live behind `Arc`s in the code; here
they are a heap of objects named by the `open_*` call that created them
(`nextObject` is that ghost allocator), and every sender refers to its object by
that name.

Messages of every port range over one type `V`, and each binding carries its
message type `M` as a `MessageType`: its type name and its deserializer.

The sender of an mpsc channel is shared by the handles and the bindings that
hold a clone of it, and `senders` counts them as `Arc::strong_count` would: a
binding acquires one when it is installed and releases it when it is removed.
The channel is disconnected when the count is zero.

This module holds the state, the three `SerializedSender`s (the split closure
among them) and `Mailbox::post`. The closure's own post to the port it splits
is appended to the mailbox's `outbox` and dispatched as a post of its own.
-/

namespace Hyperactor

/-- Modelled from the spec: `USER_PORT_OFFSET`, the first port index not
reserved for actor handlers. -/
def userPortOffset : Nat := 1024

/-- A message type `M`: `M::typename()` and `Serialized::deserialized::<M>`. -/
structure MessageType (V : Type) where
  typename : String
  deserialize : Serialized → Except String V

/-- Modelled from the spec: `ReducerSpec`, a reducer's type hash and parameters. -/
structure ReducerSpec where
  typehash : Nat
  builderParams : Option Serialized
  deriving DecidableEq, Repr

/-- Modelled from the spec: an `Accumulator` (`accum.rs` is not among the
sources): the state a port starts from (`A::State::default()`), the fold of one
update into the state, and the reducer it advertises. -/
structure Accumulator (V : Type) where
  default : V
  accumulate : V → V → Except String V
  reducerSpec : Option ReducerSpec

/-- Modelled from the spec: a resolved reducer (`accum.rs` is not among the
sources). `reduce_updates` folds a batch into one update, or fails and hands the
batch back with the error. -/
structure Reducer where
  reduceUpdates : List Serialized → Except (String × List Serialized) Serialized
  handsBack : ∀ {batch error returned},
    reduceUpdates batch = .error (error, returned) → returned = batch

/-- The closures an `UnboundedPortSender::Func` holds in this file. -/
inductive PortFunc (V : Type) where
  /-- `open_accum_port`'s closure: the accumulator cell and channel `chan`. -/
  | accumulate (chan : Nat) (accum : Accumulator V)
  /-- The function given to `open_enqueue_port`. -/
  | enqueue (f : Attrs → V → Except String Unit)

/-- `UnboundedPortSender`. -/
inductive UnboundedPortSender (V : Type) where
  /-- Send directly to the mpsc queue of channel `chan`. -/
  | mpsc (chan : Nat)
  /-- Use the provided function to enqueue the item. -/
  | func (f : PortFunc V)

/-- `UnboundedSender<M>`. -/
structure UnboundedSender (V : Type) where
  sender : UnboundedPortSender V
  portId : PortId
  ty : MessageType V

/-- `OnceSender<M>`: its `Mutex<Option<oneshot::Sender>>` is the heap slot `sender`. -/
structure OnceSender (V : Type) where
  sender : Nat
  portId : PortId
  ty : MessageType V

/-- The closure `split` builds: it forwards to `portId`, through `reducer` and
the `SplitPortBuffer` held in heap slot `buffer` when there is a reducer. -/
structure SplitSink where
  portId : PortId
  reducer : Option Reducer
  buffer : Nat

/-- `UntypedUnboundedSender`. -/
structure UntypedUnboundedSender where
  sender : SplitSink
  portId : PortId

/-- A `Box<dyn SerializedSender>` of the ports map. -/
inductive PortBinding (V : Type) where
  | unbounded (s : UnboundedSender V)
  | once (s : OnceSender V)
  | untyped (s : UntypedUnboundedSender)

/-- The `PortId` a binding carries. -/
def PortBinding.portId {V : Type} : PortBinding V → PortId
  | .unbounded s => s.portId
  | .once s => s.portId
  | .untyped s => s.portId

/-- The channel an unbounded sender pushes onto: that of `open_port` or of
`open_accum_port`; the function of `open_enqueue_port` has none. -/
def UnboundedPortSender.chan? {V : Type} : UnboundedPortSender V → Option Nat
  | .mpsc c => some c
  | .func (.accumulate c _) => some c
  | .func (.enqueue _) => none

/-- The channel whose sender a binding holds: an unbounded binding holds a clone
of its handle's sender. -/
def PortBinding.chan? {V : Type} : PortBinding V → Option Nat
  | .unbounded u => u.sender.chan?
  | _ => none

@[simp] theorem UnboundedPortSender.chan?_mpsc {V : Type} (c : Nat) :
    (UnboundedPortSender.mpsc c : UnboundedPortSender V).chan? = some c := rfl

@[simp] theorem UnboundedPortSender.chan?_accumulate {V : Type} (c : Nat) (accum : Accumulator V) :
    (UnboundedPortSender.func (.accumulate c accum)).chan? = some c := rfl

@[simp] theorem PortBinding.chan?_unbounded {V : Type} (u : UnboundedSender V) :
    (PortBinding.unbounded u).chan? = u.sender.chan? := rfl

@[simp] theorem PortBinding.chan?_once {V : Type} (o : OnceSender V) : (PortBinding.once o).chan? = none := rfl

@[simp] theorem PortBinding.chan?_untyped {V : Type} (u : UntypedUnboundedSender) :
    (PortBinding.untyped u : PortBinding V).chan? = none := rfl

/-- The mailbox `State`, with the heap objects its ports share. -/
structure Mailbox (V : Type) where
  actorId : ActorId
  /-- `ports: DashMap<u64, Box<dyn SerializedSender>>`. -/
  ports : Nat → Option (PortBinding V)
  /-- `next_port: AtomicU64`. -/
  nextPort : Nat
  /-- The global `SPLIT_MAX_BUFFER_SIZE` configuration. -/
  splitMaxBufferSize : Nat
  /-- The mpsc queues. -/
  queues : Nat → List V
  /-- Whether the receiver of a channel (mpsc or one-shot) is alive. -/
  receiverAlive : Nat → Bool
  /-- How many holders the sender of an mpsc channel has: handles and bindings
  holding a clone of its `UnboundedSender`, or of the `Arc` of the closure that
  owns it. The channel is disconnected when none is left. -/
  senders : Nat → Nat
  /-- The accumulator cells. -/
  accumStates : Nat → Option V
  /-- Whether a one-shot sender is still held (not yet taken or dropped). -/
  onceSenders : Nat → Bool
  /-- The one-shot slots. -/
  onceSlots : Nat → Option V
  /-- The split buffers. -/
  splitBuffers : Nat → List Serialized
  /-- The `OnceLock<PortId>` a port handle and its clones share. -/
  boundPorts : Nat → Option PortId
  /-- Envelopes split sinks have posted through this mailbox, not yet dispatched. -/
  outbox : List MessageEnvelope
  nextObject : Nat

namespace Mailbox

variable {V : Type}

/-- `State::new`: no ports, the counter at `USER_PORT_OFFSET`. -/
def new (actorId : ActorId) (splitMaxBufferSize : Nat) : Mailbox V where
  actorId := actorId
  ports _ := none
  nextPort := userPortOffset
  splitMaxBufferSize := splitMaxBufferSize
  queues _ := []
  receiverAlive _ := false
  senders _ := 0
  accumStates _ := none
  onceSenders _ := false
  onceSlots _ := none
  splitBuffers _ := []
  boundPorts _ := none
  outbox := []
  nextObject := 0

/-- `State::allocate_port`: `fetch_add(1)` on the `u64` counter. -/
def allocatePort (s : Mailbox V) : Nat × Mailbox V :=
  (s.nextPort, { s with nextPort := (s.nextPort + 1) % 2 ^ 64 })

/-- One more holder of the sender of channel `chan`, if there is one. -/
def acquireSender (s : Mailbox V) (chan : Option Nat) : Mailbox V :=
  { s with senders := fun c => if chan = some c then s.senders c + 1 else s.senders c }

/-- One holder fewer: the holder's clone of the sender is dropped. -/
def releaseSender (s : Mailbox V) (chan : Option Nat) : Mailbox V :=
  { s with senders := fun c => if chan = some c then s.senders c - 1 else s.senders c }

/-- Install a binding (the vacant-entry `insert`), with the sender it holds. -/
def insertPort (s : Mailbox V) (index : Nat) (b : PortBinding V) : Mailbox V :=
  { s.acquireSender b.chan? with ports := Function.update s.ports index (some b) }

/-- `ports.remove(index)`: the removed binding, and the sender it holds, are dropped. -/
def removePort (s : Mailbox V) (index : Nat) : Mailbox V :=
  { s.releaseSender ((s.ports index).bind PortBinding.chan?) with
    ports := Function.update s.ports index none }

/-- `mpsc::UnboundedSender::send` succeeded: append to the queue. -/
def pushQueue (s : Mailbox V) (chan : Nat) (msg : V) : Mailbox V :=
  { s with queues := Function.update s.queues chan (s.queues chan ++ [msg]) }

@[simp] theorem acquireSender_none (s : Mailbox V) : s.acquireSender none = s := rfl

@[simp] theorem releaseSender_none (s : Mailbox V) : s.releaseSender none = s := rfl

@[simp] theorem acquireSender_ports (s : Mailbox V) (c : Option Nat) :
    (s.acquireSender c).ports = s.ports := rfl

@[simp] theorem releaseSender_ports (s : Mailbox V) (c : Option Nat) :
    (s.releaseSender c).ports = s.ports := rfl

@[simp] theorem insertPort_ports (s : Mailbox V) (i : Nat) (b : PortBinding V) :
    (s.insertPort i b).ports = Function.update s.ports i (some b) := rfl

@[simp] theorem removePort_ports (s : Mailbox V) (i : Nat) :
    (s.removePort i).ports = Function.update s.ports i none := rfl

@[simp] theorem pushQueue_ports (s : Mailbox V) (c : Nat) (m : V) :
    (s.pushQueue c m).ports = s.ports := rfl

@[simp] theorem pushQueue_queues (s : Mailbox V) (c : Nat) (m : V) :
    (s.pushQueue c m).queues = Function.update s.queues c (s.queues c ++ [m]) := rfl

end Mailbox

/-! ## Port senders -/

section Senders

variable {V : Type}

/-- `UnboundedPortSender::send`. The accumulator closure folds the update into
its cell under the lock and sends the new state, ignoring a closed receiver. -/
def UnboundedPortSender.send (s : Mailbox V) : UnboundedPortSender V → Attrs → V →
    Except String Unit × Mailbox V
  | .mpsc chan, _, msg =>
    if s.receiverAlive chan then (.ok (), s.pushQueue chan msg) else (.error "channel closed", s)
  | .func (.accumulate chan accum), _, update =>
    match accum.accumulate ((s.accumStates chan).getD accum.default) update with
    | .error err => (.error err, s)
    | .ok state =>
      let s := { s with accumStates := Function.update s.accumStates chan (some state) }
      (.ok (), if s.receiverAlive chan then s.pushQueue chan state else s)
  | .func (.enqueue f), headers, msg => (f headers msg, s)

/-- `OnceSender::send_once`: take the one-shot sender and send on it. -/
def OnceSender.sendOnce (o : OnceSender V) (s : Mailbox V) (message : V) :
    Except MailboxSenderError Bool × Mailbox V :=
  if s.onceSenders o.sender then
    let s := { s with onceSenders := Function.update s.onceSenders o.sender false }
    if s.receiverAlive o.sender then
      (.ok false, { s with onceSlots := Function.update s.onceSlots o.sender (some message) })
    else (.error (.newBound o.portId .closed), s)
  else (.error (.newBound o.portId .closed), s)

/-- `SplitPortBuffer::push`: append, and take the whole buffer once it holds
`limit` updates. -/
def SplitPortBuffer.push (limit : Nat) (buffer : List Serialized) (serialized : Serialized) :
    List Serialized × Option (List Serialized) :=
  let buffer := buffer ++ [serialized]
  if buffer.length ≥ limit then ([], some buffer) else (buffer, none)

/-- The nested `post(&mailbox, port_id, msg)` of a split closure: an envelope
from the mailbox's actor with empty headers, dispatched later with the monitored
return handle. -/
def Mailbox.postSplit (s : Mailbox V) (portId : PortId) (msg : Serialized) : Mailbox V :=
  { s with outbox := s.outbox ++ [MessageEnvelope.new s.actorId portId msg Attrs.new] }

/-- The closure `split` builds: forward the payload, or buffer it and forward the
reduction of every full buffer. A failed reduction hands back the last update of
the batch (`b.pop().expect(..)`; the batch handed back is the non-empty one
flushed, so the default of `getLastD` is never taken). -/
def SplitSink.call (k : SplitSink) (s : Mailbox V) (serialized : Serialized) :
    Except (Serialized × String) Unit × Mailbox V :=
  match k.reducer with
  | none => (.ok (), s.postSplit k.portId serialized)
  | some r =>
    let (buffer, flushed) :=
      SplitPortBuffer.push s.splitMaxBufferSize (s.splitBuffers k.buffer) serialized
    let s := { s with splitBuffers := Function.update s.splitBuffers k.buffer buffer }
    match flushed with
    | none => (.ok (), s)
    | some buffered =>
      match r.reduceUpdates buffered with
      | .ok reduced => (.ok (), s.postSplit k.portId reduced)
      | .error (err, batch) => (.error (batch.getLastD serialized, err), s)

/-- `SerializedSender::send_serialized` of each binding. -/
def PortBinding.sendSerialized (s : Mailbox V) :
    PortBinding V → Attrs → Serialized → Except SerializedSenderError Bool × Mailbox V
  | .unbounded u, headers, serialized =>
    match u.ty.deserialize serialized with
    | .ok message =>
      match u.sender.send s headers message with
      | (.ok (), s') => (.ok true, s')
      | (.error err, s') =>
        (.error ⟨headers, serialized, .newBound u.portId (.other err)⟩, s')
    | .error err =>
      (.error ⟨headers, serialized, .newBound u.portId (.deserialize u.ty.typename err)⟩, s)
  | .once o, headers, serialized =>
    match o.ty.deserialize serialized with
    | .ok message =>
      match o.sendOnce s message with
      | (.ok valid, s') => (.ok valid, s')
      | (.error e, s') => (.error ⟨headers, serialized, e⟩, s')
    | .error err =>
      (.error ⟨headers, serialized, .newBound o.portId (.deserialize o.ty.typename err)⟩, s)
  | .untyped u, headers, serialized =>
    match u.sender.call s serialized with
    | (.ok (), s') => (.ok true, s')
    | (.error (data, err), s') => (.error ⟨headers, data, .newBound u.portId (.other err)⟩, s')

end Senders

/-! ## Dispatch -/

/-- What `Mailbox::post` does with an envelope. -/
inductive PostOutcome where
  /-- Handed to the forwarder: the destination is another actor. -/
  | forwarded
  /-- The binding at the destination index accepted the payload. -/
  | accepted
  /-- Returned, stamped, to the return handle. -/
  | returned (envelope : MessageEnvelope)
  deriving DecidableEq, Repr

namespace Mailbox

variable {V : Type}

/-- `Mailbox::post`: forward, or dispatch to the binding at the destination
index, removing it when it reports itself spent, and return the envelope on any
failure. -/
def post (s : Mailbox V) (envelope : MessageEnvelope) :
    PostOutcome × Mailbox V :=
  if envelope.dest.actorId ≠ s.actorId then (.forwarded, s)
  else
    match s.ports envelope.dest.index with
    | none => (.returned (envelope.trySetError (.unroutable "port not bound in mailbox")), s)
    | some binding =>
      let (metadata, data) := envelope.open
      match binding.sendSerialized s metadata.headers data with
      | (.ok false, s') => (.accepted, s'.removePort envelope.dest.index)
      | (.ok true, s') => (.accepted, s')
      | (.error ⟨headers, data, error⟩, s') =>
        (.returned ((MessageEnvelope.seal { metadata with headers } data).trySetError
          (.mailbox (toString error))), s')

/-- Post envelopes one after another, collecting what each post did. -/
def postAll (s : Mailbox V) : List MessageEnvelope → List PostOutcome × Mailbox V
  | [] => ([], s)
  | e :: es =>
    let (o, s) := s.post e
    let (os, s) := s.postAll es
    (o :: os, s)

end Mailbox

end Hyperactor
