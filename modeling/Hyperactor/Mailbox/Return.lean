import Hyperactor.Mailbox.PortRuns
import Hyperactor.Mailbox.ShardLocks

/-!
# The return path of a mailbox's own sends

`CanSend::post` is how a mailbox sends: it takes its bound return handle
(`bound_return_handle`: a new handle, at a freshly allocated port index, on the
sender bound at `Undeliverable<MessageEnvelope>::port()`), or the monitored sink
when that port is not bound, builds the envelope from its own actor, and posts
it to itself, taking the shard locks of its ports map (`Mailbox.canSend`). An
envelope that cannot be delivered, here or anywhere along the forwarder, comes
back through `return_undeliverable` as an `Undeliverable(envelope)` sent on the
handle.

A post touches the queue of a channel only through a binding that sends on it
(`post_queues`). So when the return port is bound to an `open_port` channel
that no other entry sends on (`ReturnPort`), the mailbox's split ports forward
to other actors (`Mailbox.SplitsLeave`: a split port forwarding into its own
mailbox can make the post wait for a shard lock its thread holds, or feed the
return port), and the forwarder is made of routers, muxers, dial routers and
clients (`Sender.Routing`):

* `canSend_returns`: a post is accepted at its destination, enqueued in a
  client, or returned to the new handle; it takes one port index; and the
  return port's queue grows by what the post delivered there, followed by the
  envelope it returned, stamped;
* `canSend_run_returns`: over any run of such posts no call panics or blocks,
  the return port stays bound, the port counter moves by one per post, and the
  return port's queue receives exactly the returned envelopes, in the order of
  the posts.
-/

namespace Hyperactor

section Channels

variable {V : Type}

/-- Whether a binding sends on channel `c`. -/
def PortBinding.Feeds (c : Nat) : PortBinding V → Prop
  | .unbounded u => u.sender.chan? = some c
  | _ => False

/-- The two ends of every channel: whether its receiver is alive, and how many
hold its sender. -/
def Mailbox.ends (s : Mailbox V) : (Nat → Bool) × (Nat → Nat) :=
  (s.receiverAlive, s.senders)

variable {s : Mailbox V}

/-- A send leaves the ends of every channel as they were, and the queue of every
channel but its own. -/
theorem UnboundedPortSender.send_queues (u : UnboundedPortSender V) (headers : Attrs) (m : V) :
    (u.send s headers m).2.ends = s.ends ∧
      ∀ c, u.chan? ≠ some c → (u.send s headers m).2.queues c = s.queues c := by
  have hpush : ∀ (t : Mailbox V) c' c (v : V), c' ≠ c → (t.pushQueue c' v).queues c = t.queues c :=
    fun t c' c v hc => Function.update_noteq (Ne.symm hc) _ _
  cases u with
  | mpsc c' =>
    simp only [send]
    split
    · exact ⟨rfl, fun c hc => hpush s c' c m (by simpa [chan?] using hc)⟩
    · exact ⟨rfl, fun _ _ => rfl⟩
  | func f =>
    cases f with
    | accumulate c' accum =>
      simp only [send]
      split
      · exact ⟨rfl, fun _ _ => rfl⟩
      · split
        · exact ⟨rfl, fun c hc => hpush _ c' c _ (by simpa [chan?] using hc)⟩
        · exact ⟨rfl, fun _ _ => rfl⟩
    | enqueue f => exact ⟨rfl, fun _ _ => rfl⟩

/-- `send_serialized` leaves the ends of every channel as they were, and the queue
of every channel the binding does not send on. -/
theorem PortBinding.sendSerialized_queues (b : PortBinding V) (headers : Attrs) (u : Serialized) :
    (b.sendSerialized s headers u).2.ends = s.ends ∧
      ∀ c, ¬ b.Feeds c → (b.sendSerialized s headers u).2.queues c = s.queues c := by
  cases b with
  | unbounded ub =>
    have hsend := fun m => ub.sender.send_queues (s := s) headers m
    simp only [sendSerialized]
    split
    · rename_i m _
      split <;> rename_i heq <;> simpa [heq, Feeds] using hsend m
    · exact ⟨rfl, fun _ _ => rfl⟩
  | once o =>
    simp only [sendSerialized, OnceSender.sendOnce]
    split
    · split <;> rename_i heq <;> split_ifs at heq <;> cases heq <;> exact ⟨rfl, fun _ _ => rfl⟩
    · exact ⟨rfl, fun _ _ => rfl⟩
  | untyped ut =>
    have hcall : (ut.sender.call s u).2.ends = s.ends ∧ (ut.sender.call s u).2.queues = s.queues := by
      cases hk : ut.sender.reducer with
      | none => rw [SplitSink.call_none hk]; exact ⟨rfl, rfl⟩
      | some r =>
        by_cases hge : s.splitMaxBufferSize ≤ (s.splitBuffers ut.sender.buffer ++ [u]).length
        · rw [SplitSink.call_flush hk hge]
          split <;> exact ⟨rfl, rfl⟩
        · rw [SplitSink.call_buffer hk (not_le.mp hge)]; exact ⟨rfl, rfl⟩
    simp only [sendSerialized]
    split <;> rename_i heq <;> simp only [heq] at hcall <;>
      exact ⟨hcall.1, fun c _ => congrFun hcall.2 c⟩

/-- An unbounded binding always reports itself still valid, so a post never
removes it. -/
theorem PortBinding.sendSerialized_unbounded (u : UnboundedSender V) (headers : Attrs) (d : Serialized) :
    ((PortBinding.unbounded u).sendSerialized s headers d).1 ≠ .ok false := by
  simp only [sendSerialized]
  split
  · split <;> simp
  · simp

/-- A binding that reports itself spent holds no mpsc sender. -/
theorem PortBinding.chan?_of_spent {b : PortBinding V} {headers : Attrs} {u : Serialized}
    (h : (b.sendSerialized s headers u).1 = .ok false) : b.chan? = none := by
  cases b with
  | unbounded ub => exact absurd h (sendSerialized_unbounded ub headers u)
  | once o | untyped ut => rfl

end Channels

namespace Mailbox

variable {V : Type} {s : Mailbox V}

/-- A post leaves the ends of every channel as they were (the binding it may
remove is a spent once binding), and the queue of every channel that the
binding at its destination does not send on. -/
theorem post_queues (e : MessageEnvelope) :
    (s.post e).2.ends = s.ends ∧
      ∀ c, (∀ b, e.dest.actorId = s.actorId → s.ports e.dest.index = some b → ¬ b.Feeds c) →
        (s.post e).2.queues c = s.queues c := by
  unfold post
  split_ifs with hd
  · exact ⟨rfl, fun _ _ => rfl⟩
  · split
    · exact ⟨rfl, fun _ _ => rfl⟩
    · rename_i b hb
      have hsend := b.sendSerialized_queues (s := s) e.headers e.data
      have hframe := b.sendSerialized_frame (s := s) e.headers e.data
      simp only [MessageEnvelope.open]
      split <;> rename_i heq <;> simp only [heq] at hsend hframe
      · have hports : _ = s.ports := (Prod.mk.inj (Prod.mk.inj hframe).2).1
        have hspent := PortBinding.chan?_of_spent (congrArg Prod.fst heq)
        refine ⟨?_, fun c hc => hsend.2 c (hc b (not_not.mp hd) hb)⟩
        simp only [ends, Prod.mk.injEq] at hsend ⊢
        simp [removePort, releaseSender, hports, hb, hspent, hsend.1.1, hsend.1.2]
      all_goals exact ⟨hsend.1, fun c hc => hsend.2 c (hc b (not_not.mp hd) hb)⟩

/-- A post never removes an unbounded binding. -/
theorem post_ports_unbounded {i : Nat} {u : UnboundedSender V} (hb : s.ports i = some (.unbounded u))
    (e : MessageEnvelope) : (s.post e).2.ports i = some (.unbounded u) := by
  by_cases hi : e.dest.index = i
  · unfold post
    split_ifs
    · exact hb
    · rw [hi, hb]
      have hvalid := PortBinding.sendSerialized_unbounded u (s := s) e.headers e.data
      have hframe := (PortBinding.unbounded u).sendSerialized_frame (s := s) e.headers e.data
      simp only [MessageEnvelope.open]
      split <;> rename_i heq <;> simp only [heq, frame, Prod.mk.injEq] at hvalid hframe
      · exact absurd rfl hvalid
      · rw [hframe.2.1, hb]
      · rw [hframe.2.1, hb]
  · obtain ⟨-, -, hports | hports⟩ := post_frame (s := s) e <;> rw [hports]
    · exact hb
    · rw [Function.update_noteq (Ne.symm hi)]; exact hb

/-! ## The return path -/

/-- Modelled from the spec: `return_undeliverable`, which sends
`Undeliverable(envelope)` on the return handle; the monitored handle is the
process-wide sink, outside the mailbox. -/
def returnUndeliverable (s : Mailbox V) (undeliverable : MessageEnvelope → V) :
    Option (PortHandle V) → MessageEnvelope → Mailbox V
  | some h, e => (s.send h (undeliverable e)).2
  | none, _ => s

/-- The handle a post carries: the bound return handle's port, or the monitored sink. -/
def returnHandleOf (s : Mailbox V) : Option (PortHandle V) → ReturnHandle
  | some h => .port (s.actorId.portId h.portIndex)
  | none => .monitored

/-- `CanSend::post`, given the hasher that places the indices of the ports map
in shards, `Undeliverable<MessageEnvelope>::port()`, that port's message type
and message constructor, and the mailbox's forwarder: the envelope from the
mailbox's actor, posted to the mailbox with its return handle as the posting
thread runs it (`postHolding`), and whatever comes back sent on the handle;
`none` when `bound_return_handle` panics or the post never returns. -/
def canSend {n : Nat} (s : Mailbox V) (shard : Nat → Fin n) (forwarder : Sender V) (port : Nat)
    (ty : MessageType V) (undeliverable : MessageEnvelope → V) (dest : PortId) (headers : Attrs)
    (data : Serialized) : Option (Delivery V × Mailbox V) :=
  (s.boundReturnHandle port ty).bind fun (h, s) =>
    let envelope := MessageEnvelope.new s.actorId dest data headers
    let d := (Sender.mailbox s forwarder).post envelope (s.returnHandleOf h)
    (s.postHolding shard ∅ envelope).map fun s' =>
      (d, match d with
        | .returned _ e => s'.returnUndeliverable undeliverable h e
        | _ => s')

end Mailbox

/-- A composition without mailboxes: routers, muxers, weak routers, dial routers,
boxes, the unroutable sender and clients. No shard lock of a ports map is taken
along it, so its posts return, as the run model has them. -/
def Sender.Routing {V : Type} : Sender V → Prop
  | .mailbox _ _ => False
  | .boxed inner => inner.Routing
  | .muxer _ senders => ∀ j, (senders j).Routing
  | .router _ senders => ∀ j, (senders j).Routing
  | .weakRouter _ senders => ∀ j, (senders j).Routing
  | .dialRouter _ _ default => default.Routing
  | .unroutable => True
  | .client _ => True
  | .panicking => False
  | .undeliverable => False

theorem Sender.Routing.composed {V : Type} {t : Sender V} (h : t.Routing) : t.Composed := by
  induction t with
  | mailbox _ _ _ => exact h.elim
  | boxed _ ih => exact ih h
  | muxer _ _ ih | router _ _ ih | weakRouter _ _ ih => exact fun j => ih j (h j)
  | dialRouter _ _ _ ih => exact ih h
  | unroutable | client _ => trivial
  | panicking | undeliverable => exact h.elim

/-- The envelope a delivery returned, if it returned one. -/
def Delivery.returnedEnvelope {V : Type} : Delivery V → Option MessageEnvelope
  | .returned _ e => some e
  | _ => none

/-- The return port of a mailbox: `Undeliverable<MessageEnvelope>::port()` bound,
as by `bind_to`, to the sender of an `open_port` channel `c` whose receiver is
alive, with no other entry sending on `c`. -/
structure ReturnPort {V : Type} (s : Mailbox V) (port c : Nat) (ty : MessageType V) : Prop where
  bound : MpscBound s s.actorId port c ty
  only : ∀ i b, s.ports i = some b → b.Feeds c → i = port

/-- A `CanSend::post` call: its destination, headers and payload. -/
structure SendCall where
  dest : PortId
  headers : Attrs
  data : Serialized

/-- What a call delivers at port `p` of message type `ty`: its payload, when it
is addressed there and deserializes. -/
def SendCall.deliversTo {V : Type} (p : PortId) (ty : MessageType V) (call : SendCall) : List V :=
  if call.dest = p then (ty.deserialize call.data).toOption.toList else []

namespace ReturnPort

variable {V : Type} {s : Mailbox V} {port c : Nat} {ty : MessageType V}

/-- A post appends to the return port's queue what it delivers there. -/
theorem post_queues (hret : ReturnPort s port c ty) (e : MessageEnvelope) :
    (s.post e).2.queues c = s.queues c ++
      (if e.dest = s.actorId.portId port then (ty.deserialize e.data).toOption.toList else []) := by
  split_ifs with hdest
  · rw [post_mpsc hret.bound hdest]
    cases ty.deserialize e.data <;> simp [Except.toOption]
  · rw [(Mailbox.post_queues e).2 c fun b hd hb hfeeds => hdest ?_, List.append_nil]
    rw [← hret.only _ b hb hfeeds, ← hd]
    rfl

/-- A post keeps the return port. -/
theorem post (hret : ReturnPort s port c ty) (e : MessageEnvelope) : ReturnPort (s.post e).2 port c ty := by
  obtain ⟨hactor, -, hports⟩ := Mailbox.post_frame (s := s) e
  have hends := congrArg Prod.fst (Mailbox.post_queues (s := s) e).1
  have hsenders := congrArg Prod.snd (Mailbox.post_queues (s := s) e).1
  simp only [Mailbox.ends] at hends hsenders
  refine ⟨⟨rfl, ?_, hends ▸ hret.bound.alive, hsenders ▸ hret.bound.held⟩, fun i b hb hfeeds => hret.only i b ?_ hfeeds⟩
  · rw [hactor]; exact Mailbox.post_ports_unbounded hret.bound.bound e
  · rcases hports with hp | hp <;> rw [hp] at hb
    · exact hb
    · by_cases hi : i = e.dest.index
      · subst hi; simp at hb
      · rwa [Function.update_noteq hi] at hb

/-- The return port does not depend on the outbox. -/
theorem with_outbox (hret : ReturnPort s port c ty) (o : List MessageEnvelope) :
    ReturnPort { s with outbox := o } port c ty :=
  ⟨⟨hret.bound.actor, hret.bound.bound, hret.bound.alive, hret.bound.held⟩, hret.only⟩

/-- With the return port bound, `bound_return_handle` returns a handle on its
channel at the counter's index, which holds one more clone of its sender. -/
theorem boundReturnHandle_eq (hret : ReturnPort s port c ty) :
    s.boundReturnHandle port ty = some (some ⟨s.nextPort, .mpsc c, ty, s.nextObject, none⟩,
      { s.acquireSender (some c) with
        nextPort := (s.nextPort + 1) % 2 ^ 64
        nextObject := s.nextObject + 1
        boundPorts := Function.update s.boundPorts s.nextObject none }) := by
  have hl : s.lookupSender port ty = .ok (some (.mpsc c)) := by
    simp [Mailbox.lookupSender, hret.bound.bound]
  simp [Mailbox.boundReturnHandle, hl, Mailbox.allocatePort, Mailbox.newHandle, Mailbox.newObject,
    Mailbox.acquireSender]

/-- Sending the returned envelope on the handle pushes it onto the return port's channel. -/
theorem returnUndeliverable_eq (hret : ReturnPort s port c ty) (undeliverable : MessageEnvelope → V)
    {h : PortHandle V} (hh : h.sender = .mpsc c) (e : MessageEnvelope) :
    s.returnUndeliverable undeliverable (some h) e = s.pushQueue c (undeliverable e) := by
  simp [Mailbox.returnUndeliverable, Mailbox.send, hh, UnboundedPortSender.send, hret.bound.alive]

end ReturnPort

namespace Mailbox

variable {V : Type} {n : Nat} {s : Mailbox V} {port c : Nat} {ty : MessageType V}

/-- `CanSend::post` calls in order: what became of each envelope, and the final
state; `none` when one panics or never returns. -/
def canSendAll (s : Mailbox V) (shard : Nat → Fin n) (forwarder : Sender V) (port : Nat) (ty : MessageType V)
    (undeliverable : MessageEnvelope → V) : List SendCall → Option (List (Delivery V) × Mailbox V)
  | [] => some ([], s)
  | call :: calls =>
    (s.canSend shard forwarder port ty undeliverable call.dest call.headers call.data).bind fun (d, s) =>
      (s.canSendAll shard forwarder port ty undeliverable calls).map fun (ds, s) => (d :: ds, s)

/-- With the return port bound and every split port forwarding to another actor,
a `CanSend::post` through a forwarder made of routers and clients returns, for
every hasher, and is accounted for, with the new handle as its return handle; it
takes one port index; and the return port's queue grows by what the post
delivered there, then by the envelope it returned. -/
theorem canSend_returns (shard : Nat → Fin n) (forwarder : Sender V) (hfwd : forwarder.Routing)
    (undeliverable : MessageEnvelope → V) (hret : ReturnPort s port c ty) (hsplit : s.SplitsLeave)
    (call : SendCall) :
    ∃ d s', s.canSend shard forwarder port ty undeliverable call.dest call.headers call.data = some (d, s') ∧
      d.Accounts (MessageEnvelope.new s.actorId call.dest call.data call.headers)
        (.port (s.actorId.portId s.nextPort)) ∧
      ReturnPort s' port c ty ∧ s'.SplitsLeave ∧ s'.actorId = s.actorId ∧
      s'.nextPort = (s.nextPort + 1) % 2 ^ 64 ∧
      s'.queues c = s.queues c ++ call.deliversTo (s.actorId.portId port) ty ++
        (d.returnedEnvelope.map undeliverable).toList := by
  obtain ⟨s₁, hb, hret₁, hsplit₁, hactor₁, hnext₁, hqueues₁⟩ : ∃ s₁, s.boundReturnHandle port ty =
      some (some ⟨s.nextPort, .mpsc c, ty, s.nextObject, none⟩, s₁) ∧ ReturnPort s₁ port c ty ∧
      s₁.SplitsLeave ∧ s₁.actorId = s.actorId ∧ s₁.nextPort = (s.nextPort + 1) % 2 ^ 64 ∧
      s₁.queues = s.queues :=
    ⟨_, hret.boundReturnHandle_eq,
      ⟨⟨rfl, hret.bound.bound, hret.bound.alive, by simp [acquireSender]⟩, hret.only⟩, hsplit, rfl, rfl, rfl⟩
  let envelope := MessageEnvelope.new s₁.actorId call.dest call.data call.headers
  have hlock : s₁.postHolding shard ∅ envelope = some { (s₁.post envelope).2 with outbox := s₁.outbox } :=
    postHolding_splitsLeave hsplit₁ (Finset.not_mem_empty _)
  have hpost := (hret₁.post envelope).with_outbox s₁.outbox
  have hleave : ({ (s₁.post envelope).2 with outbox := s₁.outbox } : Mailbox V).SplitsLeave :=
    hsplit₁.post envelope
  have hqueue : ({ (s₁.post envelope).2 with outbox := s₁.outbox } : Mailbox V).queues c =
      s₁.queues c ++ call.deliversTo (s₁.actorId.portId port) ty :=
    hret₁.post_queues envelope
  obtain ⟨hactor, hnext, -⟩ := post_frame (s := s₁) envelope
  simp only [canSend, hb, Option.some_bind, hlock, Option.map_some', Option.some.injEq, returnHandleOf]
  rw [← hactor₁, ← hnext₁, ← hqueues₁]
  refine ⟨_, _, rfl, post_accounts (.mailbox s₁ forwarder) hfwd.composed envelope _, ?_⟩
  generalize (Sender.mailbox s₁ forwarder).post _ _ = d
  cases d with
  | returned rh e =>
    dsimp only
    rw [hpost.returnUndeliverable_eq undeliverable rfl e]
    exact ⟨⟨hpost.bound.with_queues _, hpost.only⟩, hleave, hactor, hnext, by
      rw [pushQueue_queues, Function.update_same, hqueue]; rfl⟩
  | _ => exact ⟨hpost, hleave, hactor, hnext, by rw [hqueue]; exact (List.append_nil _).symm⟩

/-- Over any run of `CanSend::post` calls from a mailbox whose return port is
bound and whose split ports forward to other actors, for every hasher placing
its port indices in shards, through a forwarder made of routers, muxers, dial
routers and clients: no call panics or blocks; each envelope is accepted at its
destination, enqueued in a client, or returned to a handle on a port of the
mailbox's actor; the return port stays bound; the port counter moves by one per
call, modulo `2^64`; and the return port's queue receives, in the order of the
calls, what each delivered there and the envelope it returned. -/
theorem canSend_run_returns (shard : Nat → Fin n) (forwarder : Sender V) (hfwd : forwarder.Routing)
    (undeliverable : MessageEnvelope → V) (calls : List SendCall) (hret : ReturnPort s port c ty)
    (hsplit : s.SplitsLeave) (hs : s.nextPort < 2 ^ 64) :
    ∃ ds s', s.canSendAll shard forwarder port ty undeliverable calls = some (ds, s') ∧
      List.Forall₂ (fun call (d : Delivery V) => ∃ i,
        d.Accounts (MessageEnvelope.new s.actorId call.dest call.data call.headers)
          (.port (s.actorId.portId i))) calls ds ∧
      ReturnPort s' port c ty ∧ s'.nextPort = (s.nextPort + calls.length) % 2 ^ 64 ∧
      s'.queues c = s.queues c ++ (calls.zip ds).flatMap fun p =>
        p.1.deliversTo (s.actorId.portId port) ty ++ (p.2.returnedEnvelope.map undeliverable).toList := by
  induction calls generalizing s with
  | nil => exact ⟨[], s, rfl, .nil, hret, by simpa using (Nat.mod_eq_of_lt hs).symm, by simp⟩
  | cons call calls ih =>
    obtain ⟨d, s₁, hcall, hacc, hret₁, hsplit₁, hactor, hnext, hqueue⟩ :=
      canSend_returns shard forwarder hfwd undeliverable hret hsplit call
    obtain ⟨ds, s', hrun, hall, hret', hnext', hqueue'⟩ :=
      ih hret₁ hsplit₁ (hnext ▸ Nat.mod_lt _ (Nat.two_pow_pos 64))
    refine ⟨d :: ds, s', by simp [canSendAll, hcall, hrun], .cons ⟨_, hacc⟩ (hactor ▸ hall), hret',
      ?_, ?_⟩
    · rw [hnext', hnext, Nat.mod_add_mod, List.length_cons]
      congr 1
      omega
    · rw [hqueue', hqueue, hactor]
      simp

/-- A mailbox whose return port 7 is bound to its first `open_port` channel,
sending to an unbound port of its own actor through the unroutable sender. -/
theorem canSend_run_returns_unbound :
    let ty : MessageType Nat := ⟨"undeliverable", fun d => .ok d.bytes.length⟩
    let s₀ : Mailbox Nat := Mailbox.new unknownActorId 5
    let s : Mailbox Nat := ((s₀.openPort ty).2.bindTo (s₀.openPort ty).1.1 7).getD s₀
    let shard : Nat → Fin 4 := fun k => ⟨k % 4, Nat.mod_lt _ (by decide)⟩
    let calls : List SendCall := [⟨unknownActorId.portId 1025, Attrs.new, ⟨"u", [1]⟩⟩]
    let undeliverable : MessageEnvelope → Nat := fun e => e.dest.index
    (Sender.unroutable : Sender Nat).Routing ∧ ReturnPort s 7 0 ty ∧ s.SplitsLeave ∧ s.nextPort < 2 ^ 64 ∧
    ∃ ds s', s.canSendAll shard .unroutable 7 ty undeliverable calls = some (ds, s') ∧
      List.Forall₂ (fun call (d : Delivery Nat) => ∃ i,
        d.Accounts (MessageEnvelope.new s.actorId call.dest call.data call.headers)
          (.port (s.actorId.portId i))) calls ds ∧
      ReturnPort s' 7 0 ty ∧ s'.nextPort = (s.nextPort + calls.length) % 2 ^ 64 ∧
      s'.queues 0 = s.queues 0 ++ (calls.zip ds).flatMap fun p =>
        p.1.deliversTo (s.actorId.portId 7) ty ++ (p.2.returnedEnvelope.map undeliverable).toList := by
  intro ty s₀ s shard calls undeliverable
  have hvac : ∀ i, i ≠ 7 → s.ports i = none := fun i hi => by
    simp [s, s₀, Mailbox.openPort, Mailbox.bindTo, Mailbox.new, Mailbox.insertPort, Mailbox.allocatePort,
      Mailbox.newChannel, Mailbox.newObject, Mailbox.acquireSender, Function.update_noteq hi]
  have hret : ReturnPort s 7 0 ty := by
    refine ⟨⟨rfl, rfl, rfl, by decide⟩, fun i b hb _ => ?_⟩
    by_contra hi
    rw [hvac i hi] at hb
    cases hb
  have hsplit : s.SplitsLeave := fun i k p hb => by
    by_cases hi : i = 7
    · subst hi; cases hb
    · rw [hvac i hi] at hb; cases hb
  exact ⟨trivial, hret, hsplit, by decide,
    canSend_run_returns shard .unroutable trivial undeliverable calls hret hsplit (by decide)⟩

end Mailbox

end Hyperactor
