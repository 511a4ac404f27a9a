import Hyperactor.Mailbox.Split
import Hyperactor.Mailbox.DialRouter

/-!
# Compositions of senders

Every `MailboxSender` of `mailbox.rs` either hands an envelope on to another
sender or disposes of it: a mailbox accepts it at a port or returns it, a
client enqueues it, a router that cannot route it returns it with
`MessageEnvelope::undeliverable`. A `Sender` is a finite composition of them,
each router's table mapping to indices of the senders it holds.

`Sender.post` follows one envelope through the composition to a single
`Delivery`. The law (`post_accounts`) is that, in a composition without the
panicking and the logging senders, the envelope is accepted by the binding at
its destination index in the mailbox of its destination actor, enqueued in a
client, or returned to the caller's return handle with its sender, destination,
headers and payload unchanged and a delivery error set unless one was set
already. Its base case is `Mailbox.post_outcome`: a failing
`send_serialized` hands back the headers and payload it was given
(`PortBinding.sendSerialized_error`).
-/

namespace Hyperactor

/-! ## Failed sends hand the payload back -/

section SendSerialized

variable {V : Type} {s s' : Mailbox V} {u d : Serialized} {err : String}

/-- A split closure fails only on a failed reduction, and hands back the update
it was called with: the last of the batch the reducer hands back. -/
theorem SplitSink.call_error_data {k : SplitSink} (h : (k.call s u).1 = .error (d, err)) : d = u := by
  cases hk : k.reducer with
  | none => simp [SplitSink.call_none hk] at h
  | some r =>
    by_cases hge : s.splitMaxBufferSize ≤ (s.splitBuffers k.buffer ++ [u]).length
    · rw [SplitSink.call_flush hk hge] at h
      revert h
      split
      · simp
      · rename_i batch hr
        rw [r.handsBack hr]
        simp +contextual
    · simp [SplitSink.call_buffer hk (not_le.mp hge)] at h

/-- A failed `send_serialized` hands back the headers and the payload it was given. -/
theorem PortBinding.sendSerialized_error {b : PortBinding V} {headers : Attrs}
    {e : SerializedSenderError} (h : (b.sendSerialized s headers u).1 = .error e) :
    e.headers = headers ∧ e.data = u := by
  cases b with
  | unbounded ub =>
    simp only [sendSerialized] at h
    split at h
    · split at h <;> cases h; simp
    · cases h; simp
  | once o =>
    simp only [sendSerialized] at h
    split at h
    · split at h <;> cases h; simp
    · cases h; simp
  | untyped ut =>
    simp only [sendSerialized] at h
    split at h
    · cases h
    · rename_i data err' hcall
      cases h
      exact ⟨rfl, SplitSink.call_error_data (congrArg Prod.fst hcall)⟩

end SendSerialized

/-- `Mailbox::post` forwards an envelope for another actor, or accepts it at the
binding of its destination index, or returns it stamped with an error. -/
theorem Mailbox.post_outcome {V : Type} (s : Mailbox V) (e : MessageEnvelope) :
    match (s.post e).1 with
    | .forwarded => e.dest.actorId ≠ s.actorId
    | .accepted => e.dest.actorId = s.actorId ∧ ∃ b, s.ports e.dest.index = some b ∧
        ∃ v s', b.sendSerialized s e.headers e.data = (.ok v, s')
    | .returned e' => ∃ d, e' = e.trySetError d := by
  by_cases hd : e.dest.actorId = s.actorId
  swap
  · simp [Mailbox.post, hd]
  cases hb : s.ports e.dest.index with
  | none => simp [Mailbox.post, hd, hb]
  | some b =>
    rcases hsend : b.sendSerialized s e.headers e.data with
      ⟨⟨headers, data, error⟩ | ⟨⟨⟩ | ⟨⟩⟩, s'⟩
    · obtain ⟨rfl, rfl⟩ := PortBinding.sendSerialized_error (congrArg Prod.fst hsend)
      simp only [Mailbox.post, hd, hb, MessageEnvelope.open, hsend, ne_eq, not_true_eq_false,
        if_false]
      exact ⟨_, rfl⟩
    · simp [Mailbox.post, hd, hb, MessageEnvelope.open, hsend]
    · simp [Mailbox.post, hd, hb, MessageEnvelope.open, hsend]

/-! ## The composition -/

/-- A `MailboxSender` built from the senders of `mailbox.rs`. A muxer's or a
router's table maps to indices of `senders`, the `Arc<dyn MailboxSender>`s it
holds; a mailbox holds its forwarder and a dial router its default sender. -/
inductive Sender (V : Type) where
  | mailbox (state : Mailbox V) (forwarder : Sender V)
  | boxed (inner : Sender V)
  | muxer (muxer : MailboxMuxer Nat) (senders : Nat → Sender V)
  | router (router : MailboxRouter Nat) (senders : Nat → Sender V)
  | weakRouter (router : WeakMailboxRouter Nat) (senders : Nat → Sender V)
  | dialRouter (router : DialMailboxRouter)
      (channelDial : ChannelAddr → Except String MailboxClient) (default : Sender V)
  | unroutable
  | client (client : MailboxClient)
  | panicking
  | undeliverable

/-- What became of a posted envelope. -/
inductive Delivery (V : Type) where
  /-- Accepted by the binding at `index` of the mailbox `state`. -/
  | accepted (state : Mailbox V) (index : Nat)
  /-- Enqueued in the buffer of `client`. -/
  | enqueued (client : MailboxClient) (envelope : MessageEnvelope)
  /-- Sent, as `Undeliverable(envelope)`, to `returnHandle`. -/
  | returned (returnHandle : ReturnHandle) (envelope : MessageEnvelope)
  /-- Logged and dropped by `UndeliverableMailboxSender`. -/
  | logged
  /-- The panic of `PanickingMailboxSender`. -/
  | panicked

/-- `MessageEnvelope::undeliverable`: stamp the error (first error wins) and
return the envelope to the handle. -/
def MessageEnvelope.undeliverable {V : Type} (e : MessageEnvelope) (error : DeliveryError)
    (returnHandle : ReturnHandle) : Delivery V :=
  .returned returnHandle (e.trySetError error)

/-- `MailboxClient::post` of one envelope. -/
def MailboxClient.deliver {V : Type} (c : MailboxClient) (e : MessageEnvelope) (rh : ReturnHandle) :
    Delivery V :=
  match c.post with
  | .ok () => .enqueued c e
  | .error err => e.undeliverable err rh

namespace Sender

variable {V : Type}

/-- `MailboxSender::post` of each sender. -/
def post : Sender V → MessageEnvelope → ReturnHandle → Delivery V
  | .mailbox s forwarder, e, rh =>
    match (s.post e).1 with
    | .forwarded => forwarder.post e rh
    | .accepted => .accepted s e.dest.index
    | .returned e' => .returned rh e'
  | .boxed inner, e, rh => inner.post e rh
  | .muxer m senders, e, rh =>
    match m.route e.dest.actorId with
    | .ok j => (senders j).post e rh
    | .error err => e.undeliverable err rh
  | .router r senders, e, rh =>
    match r.route e.dest.actorId with
    | .ok j => (senders j).post e rh
    | .error err => e.undeliverable err rh
  | .weakRouter w senders, e, rh =>
    match w.route e.dest.actorId with
    | .ok j => (senders j).post e rh
    | .error err => e.undeliverable err rh
  | .dialRouter d channelDial default, e, rh =>
    match (d.post channelDial e).1 with
    | .toDefault => default.post e rh
    | .toClient c => c.deliver e rh
    | .returned err => e.undeliverable err rh
  | .unroutable, e, rh => e.undeliverable (.unroutable "destination not found in routing table") rh
  | .client c, e, rh => c.deliver e rh
  | .panicking, _, _ => .panicked
  | .undeliverable, _, _ => .logged

/-- Built from the senders the law is about: no `PanickingMailboxSender` and no
`UndeliverableMailboxSender` anywhere in the composition. -/
def Composed : Sender V → Prop
  | .mailbox _ forwarder => forwarder.Composed
  | .boxed inner => inner.Composed
  | .muxer _ senders => ∀ j, (senders j).Composed
  | .router _ senders => ∀ j, (senders j).Composed
  | .weakRouter _ senders => ∀ j, (senders j).Composed
  | .dialRouter _ _ default => default.Composed
  | .unroutable => True
  | .client _ => True
  | .panicking => False
  | .undeliverable => False

end Sender

/-- The delivery accounts for the envelope `e` posted with return handle `rh`:
accepted by the binding at `e`'s index in the mailbox of `e`'s actor (its
`send_serialized` returned `Ok`), enqueued as it is in a client, or returned to
`rh` as `e` stamped by `try_set_error`. -/
def Delivery.Accounts {V : Type} (e : MessageEnvelope) (rh : ReturnHandle) : Delivery V → Prop
  | .accepted s i => s.actorId = e.dest.actorId ∧ i = e.dest.index ∧
      ∃ b, s.ports i = some b ∧ ∃ v s', b.sendSerialized s e.headers e.data = (.ok v, s')
  | .enqueued _ e' => e' = e
  | .returned rh' e' => rh' = rh ∧ ∃ d, e' = e.trySetError d
  | .logged => False
  | .panicked => False

section Law

variable {V : Type} {e : MessageEnvelope} {rh : ReturnHandle}

theorem accounts_undeliverable (d : DeliveryError) :
    (e.undeliverable d rh : Delivery V).Accounts e rh :=
  ⟨rfl, d, rfl⟩

theorem accounts_deliver (c : MailboxClient) : (c.deliver e rh : Delivery V).Accounts e rh := by
  unfold MailboxClient.deliver
  split
  · rfl
  · exact accounts_undeliverable _

/-- A post through any composition of mailboxes, muxers, routers, weak
routers, dial routers, boxes, the unroutable sender and clients accepts the
envelope at its destination port, enqueues it in a client, or returns it once
to the caller's handle with only its error set. -/
theorem post_accounts (t : Sender V) (ht : t.Composed) (e : MessageEnvelope) (rh : ReturnHandle) :
    (t.post e rh).Accounts e rh := by
  induction t with
  | mailbox s forwarder ih =>
    have hout := Mailbox.post_outcome s e
    simp only [Sender.post]
    split
    · exact ih ht
    · rename_i houtcome
      rw [houtcome] at hout
      exact ⟨hout.1.symm, rfl, hout.2⟩
    · rename_i e' houtcome
      rw [houtcome] at hout
      exact ⟨rfl, hout⟩
  | boxed inner ih => exact ih ht
  | muxer m senders ih | router m senders ih | weakRouter m senders ih =>
    simp only [Sender.post]
    split
    · exact ih _ (ht _)
    · exact accounts_undeliverable _
  | dialRouter d channelDial default ih =>
    simp only [Sender.post]
    split
    · exact ih ht
    · exact accounts_deliver _
    · exact accounts_undeliverable _
  | unroutable => exact accounts_undeliverable _
  | client c => exact accounts_deliver c
  | panicking => exact ht.elim
  | undeliverable => exact ht.elim

/-- A mailbox of actor `a` whose forwarder is an empty router: a post to an
unbound port of `a` comes back unroutable. -/
theorem post_accounts_unbound :
    let a := unknownActorId
    let t : Sender Unit := .mailbox (Mailbox.new a 5) (.router MailboxRouter.new fun _ => .unroutable)
    let e := MessageEnvelope.newUnknown (a.portId 1024) ⟨"u", []⟩
    t.Composed ∧ (t.post e .monitored).Accounts e .monitored := by
  have hc : (Sender.mailbox (Mailbox.new unknownActorId 5)
      (.router MailboxRouter.new fun _ => .unroutable) : Sender Unit).Composed := fun _ => trivial
  exact ⟨hc, post_accounts _ hc _ _⟩

end Law

end Hyperactor
