import Hyperactor.Mailbox.State

/-!
# Opening, binding and receiving

The user-facing half of the mailbox: `open_port`, `open_accum_port`,
`open_enqueue_port` and `open_once_port` allocate a port index and a channel;
`PortHandle::bind`, `bind_to`, `OncePortHandle::bind` and `split` install
bindings; `bound_return_handle` allocates an index for a new handle on the
sender of the bound return port; receivers read their channel and remove their
port when dropped. Handles are cloned and dropped, and a receive on an empty
queue whose channel has no sender left fails with `Closed`.

Each operation is one `Op`, and `Mailbox.exec` runs one, `none` meaning that the
call does not return (a panic of `bind_to` on an occupied index, a receive that
waits). A run is a list of operations (`Mailbox.run`).
-/

namespace Hyperactor

/-- `PortHandle<M>`; `bound` names the `Arc<OnceLock<PortId>>` its clones share. -/
structure PortHandle (V : Type) where
  portIndex : Nat
  sender : UnboundedPortSender V
  ty : MessageType V
  bound : Nat
  reducerSpec : Option ReducerSpec

/-- `OncePortHandle<M>`; `sender` names its one-shot channel. -/
structure OncePortHandle (V : Type) where
  portIndex : Nat
  portId : PortId
  sender : Nat
  ty : MessageType V

/-- `PortReceiver<M>`; `receiver` names its channel. -/
structure PortReceiver where
  receiver : Nat
  portId : PortId
  coalesce : Bool

/-- `OncePortReceiver<M>`. -/
structure OncePortReceiver where
  receiver : Nat
  portId : PortId

/-- `MailboxErrorKind`, the kind the receivers raise. -/
inductive MailboxErrorKind where
  /-- An operation was attempted on a closed mailbox. -/
  | closed
  deriving DecidableEq, Repr

/-- `MailboxError`. -/
structure MailboxError where
  actorId : ActorId
  kind : MailboxErrorKind
  deriving DecidableEq, Repr

/-- The error of a receive on a disconnected channel: `MailboxErrorKind::Closed`
for the receiver's actor. -/
def PortReceiver.closed (r : PortReceiver) : MailboxError :=
  ⟨r.portId.actorId, .closed⟩

/-! ## Receiving from a queue -/

section Queue

variable {V : Type}

/-- The `drain` loop: `try_recv` until the queue is empty, keeping only the
latest message when coalescing. -/
def drainQueue (coalesce : Bool) : List V → List V → List V
  | drained, [] => drained
  | drained, msg :: rest => drainQueue coalesce ((if coalesce then drained.dropLast else drained) ++ [msg]) rest

/-- `PortReceiver::try_recv` on queue contents: the value received and the queue left. -/
def tryRecvQueue (coalesce : Bool) (q : List V) : Option V × List V :=
  let (next, rest) : Option V × List V := match q with
    | [] => (none, [])
    | msg :: rest => (some msg, rest)
  if coalesce then
    match (drainQueue coalesce [] rest).getLast? with
    | some latest => (some latest, [])
    | none => (next, [])
  else (next, rest)

/-- `PortReceiver::recv` on queue contents; `none` when it waits on an empty queue. -/
def recvQueue (coalesce : Bool) (q : List V) : Option (V × List V) :=
  match q with
  | [] => none
  | msg :: rest =>
    if coalesce then some ((drainQueue coalesce [] rest).getLast?.getD msg, []) else some (msg, rest)

end Queue

namespace Mailbox

variable {V : Type}

/-- A fresh heap object: the channel or slot of one `open_*` call. -/
def newObject (s : Mailbox V) : Nat × Mailbox V :=
  (s.nextObject, { s with nextObject := s.nextObject + 1 })

/-- A fresh channel with a live receiver, an empty queue and no sender held yet. -/
def newChannel (s : Mailbox V) : Nat × Mailbox V :=
  let (chan, s) := s.newObject
  (chan, { s with
    receiverAlive := Function.update s.receiverAlive chan true
    senders := Function.update s.senders chan 0
    queues := Function.update s.queues chan []
    boundPorts := Function.update s.boundPorts chan none })

/-- `Mailbox::open_port`: the handle holds the channel's sender. -/
def openPort (s : Mailbox V) (ty : MessageType V) : (PortHandle V × PortReceiver) × Mailbox V :=
  let (portIndex, s) := s.allocatePort
  let (chan, s) := s.newChannel
  ((⟨portIndex, .mpsc chan, ty, chan, none⟩, ⟨chan, s.actorId.portId portIndex, false⟩),
    s.acquireSender (some chan))

/-- `Mailbox::open_accum_port`: the handle takes updates of type `ty` and holds
the closure that owns the channel's sender, the receiver coalesces states. -/
def openAccumPort (s : Mailbox V) (accum : Accumulator V) (ty : MessageType V) :
    (PortHandle V × PortReceiver) × Mailbox V :=
  let (portIndex, s) := s.allocatePort
  let (chan, s) := s.newChannel
  let s := { s.acquireSender (some chan) with
    accumStates := Function.update s.accumStates chan (some accum.default) }
  ((⟨portIndex, .func (.accumulate chan accum), ty, chan, accum.reducerSpec⟩,
    ⟨chan, s.actorId.portId portIndex, true⟩), s)

/-- `Mailbox::open_enqueue_port`. -/
def openEnqueuePort (s : Mailbox V) (f : Attrs → V → Except String Unit) (ty : MessageType V) :
    PortHandle V × Mailbox V :=
  let (portIndex, s) := s.allocatePort
  let (bound, s) := s.newChannel
  (⟨portIndex, .func (.enqueue f), ty, bound, none⟩, s)

/-- `Mailbox::open_once_port`. -/
def openOncePort (s : Mailbox V) (ty : MessageType V) :
    (OncePortHandle V × OncePortReceiver) × Mailbox V :=
  let (portIndex, s) := s.allocatePort
  let (chan, s) := s.newChannel
  let s := { s with
    onceSenders := Function.update s.onceSenders chan true
    onceSlots := Function.update s.onceSlots chan none }
  let portId := s.actorId.portId portIndex
  ((⟨portIndex, portId, chan, ty⟩, ⟨chan, portId⟩), s)

@[simp] theorem openOncePort_handle (s : Mailbox V) (ty : MessageType V) :
    (s.openOncePort ty).1 = (⟨s.nextPort, s.actorId.portId s.nextPort, s.nextObject, ty⟩,
      ⟨s.nextObject, s.actorId.portId s.nextPort⟩) := rfl

@[simp] theorem openOncePort_nextObject (s : Mailbox V) (ty : MessageType V) :
    (s.openOncePort ty).2.nextObject = s.nextObject + 1 := rfl

@[simp] theorem openOncePort_onceSenders (s : Mailbox V) (ty : MessageType V) :
    (s.openOncePort ty).2.onceSenders = Function.update s.onceSenders s.nextObject true := rfl

@[simp] theorem openOncePort_onceSlots (s : Mailbox V) (ty : MessageType V) :
    (s.openOncePort ty).2.onceSlots = Function.update s.onceSlots s.nextObject none := rfl

@[simp] theorem openOncePort_receiverAlive (s : Mailbox V) (ty : MessageType V) :
    (s.openOncePort ty).2.receiverAlive = Function.update s.receiverAlive s.nextObject true := rfl

/-- `Mailbox::bind`: install the handle's sender at its index unless occupied. -/
def bindHandle (s : Mailbox V) (h : PortHandle V) : PortId × Mailbox V :=
  let portId := s.actorId.portId h.portIndex
  match s.ports h.portIndex with
  | none => (portId, s.insertPort h.portIndex (.unbounded ⟨h.sender, portId, h.ty⟩))
  | some _ => (portId, s)

/-- `PortHandle::bind`: bind once per handle and its clones (`get_or_init`). -/
def bind (s : Mailbox V) (h : PortHandle V) : PortId × Mailbox V :=
  match s.boundPorts h.bound with
  | some portId => (portId, s)
  | none =>
    let (portId, s) := s.bindHandle h
    (portId, { s with boundPorts := Function.update s.boundPorts h.bound (some portId) })

/-- `Mailbox::bind_to`; `none` is the panic on an occupied index. -/
def bindTo (s : Mailbox V) (h : PortHandle V) (portIndex : Nat) : Option (Mailbox V) :=
  match s.ports portIndex with
  | none => some (s.insertPort portIndex (.unbounded ⟨h.sender, s.actorId.portId portIndex, h.ty⟩))
  | some _ => none

/-- `Mailbox::bind_once`: on an occupied index the handle, and its sender, are dropped. -/
def bindOnce (s : Mailbox V) (h : OncePortHandle V) : Mailbox V :=
  match s.ports h.portIndex with
  | none => s.insertPort h.portIndex (.once ⟨h.sender, h.portId, h.ty⟩)
  | some _ => { s with onceSenders := Function.update s.onceSenders h.sender false }

/-- `Mailbox::bind_untyped`. -/
def bindUntyped (s : Mailbox V) (portId : PortId) (sender : UntypedUnboundedSender) :
    Mailbox V :=
  match s.ports portId.index with
  | none => s.insertPort portId.index (.untyped sender)
  | some _ => s

/-- `Mailbox::split`, given the result of resolving its reducer spec: the port
index is allocated before the resolution can fail. -/
def split (s : Mailbox V) (portId : PortId) (reducer : Except String (Option Reducer)) :
    Except String PortId × Mailbox V :=
  let (portIndex, s) := s.allocatePort
  let splitPort := s.actorId.portId portIndex
  match reducer with
  | .error err => (.error err, s)
  | .ok r =>
    let (buffer, s) := s.newObject
    let s := { s with splitBuffers := Function.update s.splitBuffers buffer [] }
    (.ok splitPort, s.bindUntyped splitPort ⟨⟨portId, r, buffer⟩, splitPort⟩)

/-- `Mailbox::lookup_sender::<M>`, for `M` given by `M::port()` and its message
type: the sender of the entry at that index when it downcasts to an
`UnboundedSender<M>`; the error is the panic of its `port_id` assertion. -/
def lookupSender (s : Mailbox V) (port : Nat) (ty : MessageType V) :
    Except String (Option (UnboundedPortSender V)) :=
  match s.ports port with
  | some (.unbounded u) =>
    if u.ty.typename = ty.typename then
      if u.portId = s.actorId.portId port then .ok (some u.sender)
      else .error "port_id mismatch in downcasted UnboundedSender"
    else .ok none
  | _ => .ok none

/-- `PortHandle::new`: a handle on a clone of `sender`, with a fresh `OnceLock`
and no reducer spec. -/
def newHandle (s : Mailbox V) (portIndex : Nat) (sender : UnboundedPortSender V)
    (ty : MessageType V) : PortHandle V × Mailbox V :=
  let (bound, s) := s.newObject
  (⟨portIndex, sender, ty, bound, none⟩,
    { s.acquireSender sender.chan? with boundPorts := Function.update s.boundPorts bound none })

/-- `Mailbox::bound_return_handle`, given `Undeliverable<MessageEnvelope>::port()`
and that port's message type: a handle at a freshly allocated index sharing the
sender bound at the return port, if there is one; `none` when the lookup panics. -/
def boundReturnHandle (s : Mailbox V) (port : Nat) (ty : MessageType V) :
    Option (Option (PortHandle V) × Mailbox V) :=
  match s.lookupSender port ty with
  | .error _ => none
  | .ok none => some (none, s)
  | .ok (some sender) =>
    let (portIndex, s) := s.allocatePort
    let (h, s) := s.newHandle portIndex sender ty
    some (some h, s)

/-- What `bound_return_handle` returns and leaves: nothing and the same state, or a
handle at the counter's index, with the counter and the object allocator moved on. -/
theorem boundReturnHandle_eq {s : Mailbox V} {port : Nat} {ty : MessageType V} {o : Option (PortHandle V)}
    {s' : Mailbox V} (h : s.boundReturnHandle port ty = some (o, s')) :
    o = none ∧ s' = s ∨ ∃ sender, s.lookupSender port ty = .ok (some sender) ∧
      o = some ⟨s.nextPort, sender, ty, s.nextObject, none⟩ ∧
      s' = { s.acquireSender sender.chan? with
        nextPort := (s.nextPort + 1) % 2 ^ 64
        nextObject := s.nextObject + 1
        boundPorts := Function.update s.boundPorts s.nextObject none } := by
  simp only [boundReturnHandle] at h
  split at h
  · cases h
  · cases h; exact .inl ⟨rfl, rfl⟩
  · rename_i sender hl
    cases h
    exact .inr ⟨sender, hl, rfl, rfl⟩

/-- `PortHandle::send`. -/
def send (s : Mailbox V) (h : PortHandle V) (msg : V) : Except String Unit × Mailbox V :=
  h.sender.send s Attrs.new msg

/-- `OncePortHandle::send`: the handle and its sender are consumed. -/
def sendOnce (s : Mailbox V) (h : OncePortHandle V) (msg : V) : Except String Unit × Mailbox V :=
  let s' := { s with onceSenders := Function.update s.onceSenders h.sender false }
  if s.onceSenders h.sender && s.receiverAlive h.sender then
    (.ok (), { s' with onceSlots := Function.update s.onceSlots h.sender (some msg) })
  else (.error "port closed", s')

/-- `PortReceiver::try_recv`: `Ok(None)` on an empty queue, and the `Closed`
error of `Disconnected` when, moreover, the channel has no sender left. -/
def tryRecv (s : Mailbox V) (r : PortReceiver) : Except MailboxError (Option V) × Mailbox V :=
  let (v, q) := tryRecvQueue r.coalesce (s.queues r.receiver)
  (match v with
    | some v => .ok (some v)
    | none => if s.senders r.receiver = 0 then .error r.closed else .ok none,
    { s with queues := Function.update s.queues r.receiver q })

/-- `PortReceiver::recv`; on an empty queue, `none` while it waits for a sender
and the `Closed` error once none is left. -/
def recv (s : Mailbox V) (r : PortReceiver) : Option (Except MailboxError V × Mailbox V) :=
  match recvQueue r.coalesce (s.queues r.receiver) with
  | some (v, q) => some (.ok v, { s with queues := Function.update s.queues r.receiver q })
  | none => if s.senders r.receiver = 0 then some (.error r.closed, s) else none

/-- A `recv` that returns changes its receiver's queue and nothing else. -/
theorem recv_queues {s : Mailbox V} {r : PortReceiver} {x : Except MailboxError V} {s' : Mailbox V}
    (h : s.recv r = some (x, s')) : ∃ q, s' = { s with queues := Function.update s.queues r.receiver q } := by
  unfold recv at h
  split at h
  · cases h; exact ⟨_, rfl⟩
  · split_ifs at h
    cases h
    exact ⟨s.queues r.receiver, by simp⟩

/-- `PortReceiver::drain`. -/
def drain (s : Mailbox V) (r : PortReceiver) : List V × Mailbox V :=
  (drainQueue r.coalesce [] (s.queues r.receiver),
    { s with queues := Function.update s.queues r.receiver [] })

/-- `Drop for PortReceiver`: remove its port from the ports map. -/
def dropReceiver (s : Mailbox V) (r : PortReceiver) : Mailbox V :=
  { s.removePort r.portId.index with
    receiverAlive := Function.update s.receiverAlive r.receiver false }

/-- `Clone for PortHandle`: the clone holds the handle's sender too. -/
def cloneHandle (s : Mailbox V) (h : PortHandle V) : Mailbox V :=
  s.acquireSender h.sender.chan?

/-- `Drop` of a `PortHandle`: its clone of the sender is dropped. -/
def dropHandle (s : Mailbox V) (h : PortHandle V) : Mailbox V :=
  s.releaseSender h.sender.chan?

/-- `Drop` of an unsent `OncePortHandle`: its one-shot sender is dropped. -/
def dropOnceHandle (s : Mailbox V) (h : OncePortHandle V) : Mailbox V :=
  { s with onceSenders := Function.update s.onceSenders h.sender false }

/-- `Drop for OncePortReceiver`. -/
def dropOnceReceiver (s : Mailbox V) (r : OncePortReceiver) : Mailbox V :=
  { s.removePort r.portId.index with
    receiverAlive := Function.update s.receiverAlive r.receiver false }

/-- `OncePortReceiver::recv`, which consumes (and so drops) the receiver:
the value, or an error once the sender is gone; `none` while it waits. -/
def recvOnce (s : Mailbox V) (r : OncePortReceiver) : Option (Except String V × Mailbox V) :=
  match s.onceSlots r.receiver with
  | some v => some (.ok v, s.dropOnceReceiver r)
  | none => if s.onceSenders r.receiver then none else some (.error "channel closed", s.dropOnceReceiver r)

/-- Dispatch the oldest envelope a split sink posted, with the monitored handle. -/
def deliverOutbox (s : Mailbox V) : Option (PostOutcome × Mailbox V) :=
  match s.outbox with
  | [] => none
  | e :: rest => some ({ s with outbox := rest }.post e)

end Mailbox

/-- One call on a mailbox. -/
inductive Op (V : Type) where
  | openPort (ty : MessageType V)
  | openAccumPort (accum : Accumulator V) (ty : MessageType V)
  | openEnqueuePort (f : Attrs → V → Except String Unit) (ty : MessageType V)
  | openOncePort (ty : MessageType V)
  | bind (h : PortHandle V)
  | bindTo (h : PortHandle V) (portIndex : Nat)
  | bindOnce (h : OncePortHandle V)
  | split (portId : PortId) (reducer : Except String (Option Reducer))
  | boundReturnHandle (port : Nat) (ty : MessageType V)
  | send (h : PortHandle V) (msg : V)
  | sendOnce (h : OncePortHandle V) (msg : V)
  | cloneHandle (h : PortHandle V)
  | dropHandle (h : PortHandle V)
  | dropOnceHandle (h : OncePortHandle V)
  | post (envelope : MessageEnvelope)
  | deliverOutbox
  | tryRecv (r : PortReceiver)
  | recv (r : PortReceiver)
  | drain (r : PortReceiver)
  | dropReceiver (r : PortReceiver)
  | dropOnceReceiver (r : OncePortReceiver)
  | recvOnce (r : OncePortReceiver)

namespace Mailbox

variable {V : Type}

/-- Run one call; `none` when it does not return. -/
def exec (s : Mailbox V) : Op V → Option (Mailbox V)
  | .openPort ty => some (s.openPort ty).2
  | .openAccumPort accum ty => some (s.openAccumPort accum ty).2
  | .openEnqueuePort f ty => some (s.openEnqueuePort f ty).2
  | .openOncePort ty => some (s.openOncePort ty).2
  | .bind h => some (s.bind h).2
  | .bindTo h portIndex => s.bindTo h portIndex
  | .bindOnce h => some (s.bindOnce h)
  | .split portId reducer => some (s.split portId reducer).2
  | .boundReturnHandle port ty => (s.boundReturnHandle port ty).map Prod.snd
  | .send h msg => some (s.send h msg).2
  | .sendOnce h msg => some (s.sendOnce h msg).2
  | .cloneHandle h => some (s.cloneHandle h)
  | .dropHandle h => some (s.dropHandle h)
  | .dropOnceHandle h => some (s.dropOnceHandle h)
  | .post e => some (s.post e).2
  | .deliverOutbox => (s.deliverOutbox).map Prod.snd
  | .tryRecv r => some (s.tryRecv r).2
  | .recv r => (s.recv r).map Prod.snd
  | .drain r => some (s.drain r).2
  | .dropReceiver r => some (s.dropReceiver r)
  | .dropOnceReceiver r => some (s.dropOnceReceiver r)
  | .recvOnce r => (s.recvOnce r).map Prod.snd

/-- Run calls in order; `none` when one of them does not return. -/
def run (s : Mailbox V) : List (Op V) → Option (Mailbox V)
  | [] => some s
  | op :: ops => (s.exec op).bind fun s' => s'.run ops

end Mailbox

end Hyperactor
