import Hyperactor.Mailbox.Ports

/-!
# Split ports

`Mailbox::split` binds an untyped sender whose closure forwards every update to
the port it splits, or, with a reducer, buffers updates in a `SplitPortBuffer`
and forwards the reduction of each full buffer of `SPLIT_MAX_BUFFER_SIZE = N`
updates. A post to the split port runs the closure on the payload
(`post_untyped`); the forwarded values go out through the mailbox's `outbox`.

The buffer invariant is that it holds the updates since the last full batch,
fewer than `N` of them (`postAll_reducer`), so the posts of updates
`u₁ … uₙ` forward exactly the reductions of the `⌊n / N⌋` consecutive batches
of `N` (`split_forwards_batches`).

A failed reduction hands back only the last update of its batch, which returns
to the sender with a `Mailbox` error; the other updates of the batch have
already been taken out of the buffer and are lost
(`split_reduce_failure_loses_update`).
-/

namespace Hyperactor

/-- The full batches of `N` consecutive elements of `l`, in order:
`[l₁ … l_N], [l_{N+1} … l_{2N}], …`, `⌊|l| / N⌋` of them. -/
def batchesOf {α : Type} (N : Nat) (l : List α) : List (List α) :=
  (List.range (l.length / N)).map fun j => (l.drop (j * N)).take N

section Batches

variable {α : Type} {N : Nat}

theorem batchesOf_of_lt {l : List α} (h : l.length < N) : batchesOf N l = [] := by
  simp [batchesOf, Nat.div_eq_of_lt h]

/-- A full first batch splits off. -/
theorem batchesOf_append_full {l₁ l₂ : List α} (hN : 0 < N) (h : l₁.length = N) :
    batchesOf N (l₁ ++ l₂) = l₁ :: batchesOf N l₂ := by
  have hlen : (l₁ ++ l₂).length / N = l₂.length / N + 1 := by
    rw [List.length_append, h, Nat.add_comm, Nat.add_div_right _ hN]
  simp only [batchesOf, hlen, List.range_succ_eq_map, List.map_cons, List.map_map]
  congr 1
  · simp [List.take_left' h]
  · refine List.map_congr_left fun j _ => ?_
    simp only [Function.comp_apply, Nat.succ_eq_add_one, Nat.succ_mul]
    rw [Nat.add_comm, ← List.drop_drop, List.drop_left' h]

theorem drop_append_full {l₁ l₂ : List α} (hN : 0 < N) (h : l₁.length = N) :
    (l₁ ++ l₂).drop ((l₁ ++ l₂).length / N * N) = l₂.drop (l₂.length / N * N) := by
  rw [List.length_append, h, Nat.add_comm, Nat.add_div_right _ hN, Nat.succ_mul, Nat.add_comm,
    ← List.drop_drop, List.drop_left' h]

end Batches

namespace Mailbox

variable {V : Type} {s : Mailbox V}

/-- A post to an untyped binding runs its closure on the payload. -/
theorem post_untyped {e : MessageEnvelope} {u : UntypedUnboundedSender}
    (hd : e.dest.actorId = s.actorId) (hb : s.ports e.dest.index = some (.untyped u)) :
    s.post e = match u.sender.call s e.data with
      | (.ok (), s') => (.accepted, s')
      | (.error (data, err), s') =>
        (.returned ({ e with data }.trySetError
          (.mailbox (toString (MailboxSenderError.newBound u.portId (.other err))))), s') := by
  rcases h : u.sender.call s e.data with ⟨⟨⟩ | ⟨data, err⟩, s'⟩ <;>
    simp [post, hd, hb, PortBinding.sendSerialized, h, MessageEnvelope.open, MessageEnvelope.seal]

end Mailbox

namespace SplitSink

variable {V : Type} {s : Mailbox V} {k : SplitSink} {u : Serialized}

/-- Without a reducer the closure forwards the payload. -/
theorem call_none (hk : k.reducer = none) :
    k.call s u = (.ok (), s.postSplit k.portId u) := by
  simp [call, hk]

/-- The buffer before it is full: the update is appended. -/
theorem call_buffer {r : Reducer} (hk : k.reducer = some r)
    (hlt : (s.splitBuffers k.buffer ++ [u]).length < s.splitMaxBufferSize) :
    k.call s u = (.ok (), { s with
      splitBuffers := Function.update s.splitBuffers k.buffer (s.splitBuffers k.buffer ++ [u]) }) := by
  have hfull : ¬ s.splitMaxBufferSize ≤ (s.splitBuffers k.buffer).length + 1 := by
    simpa using hlt
  simp [call, hk, SplitPortBuffer.push, hfull]

/-- The buffer once full: it is taken, and its reduction forwarded or the
reduction's error handed back with the batch's last update. -/
theorem call_flush {r : Reducer} (hk : k.reducer = some r)
    (hge : s.splitMaxBufferSize ≤ (s.splitBuffers k.buffer ++ [u]).length) :
    k.call s u =
      let s' := { s with splitBuffers := Function.update s.splitBuffers k.buffer [] }
      match r.reduceUpdates (s.splitBuffers k.buffer ++ [u]) with
      | .ok reduced => (.ok (), s'.postSplit k.portId reduced)
      | .error (err, batch) => (.error (batch.getLastD u, err), s') := by
  have hfull : s.splitMaxBufferSize ≤ (s.splitBuffers k.buffer).length + 1 := by simpa using hge
  rcases hr : r.reduceUpdates (s.splitBuffers k.buffer ++ [u]) with ⟨err, batch⟩ | reduced <;>
    simp [call, hk, SplitPortBuffer.push, hfull, hr]

end SplitSink

/-! ## Posting to a split port -/

namespace Mailbox

variable {V : Type} {s : Mailbox V} {i : Nat} {k : SplitSink} {p : PortId} {e : MessageEnvelope}
  {es : List MessageEnvelope}

@[simp] theorem postSplit_ports : (s.postSplit p u).ports = s.ports := rfl
@[simp] theorem postSplit_actorId : (s.postSplit p u).actorId = s.actorId := rfl
@[simp] theorem postSplit_splitMaxBufferSize :
    (s.postSplit p u).splitMaxBufferSize = s.splitMaxBufferSize := rfl
@[simp] theorem postSplit_splitBuffers : (s.postSplit p u).splitBuffers = s.splitBuffers := rfl
@[simp] theorem postSplit_outbox :
    (s.postSplit p u).outbox = s.outbox ++ [MessageEnvelope.new s.actorId p u Attrs.new] := rfl

theorem post_split (hb : s.ports i = some (.untyped ⟨k, p⟩)) (he : e.dest = s.actorId.portId i) :
    s.post e = match k.call s e.data with
      | (.ok (), s') => (.accepted, s')
      | (.error (data, err), s') =>
        (.returned ({ e with data }.trySetError
          (.mailbox (toString (MailboxSenderError.newBound p (.other err))))), s') :=
  post_untyped (by rw [he]; rfl) (by rw [he]; exact hb)

/-- Without a reducer, posts to the split port forward their payloads in order. -/
theorem postAll_forward (hb : s.ports i = some (.untyped ⟨k, p⟩)) (hk : k.reducer = none)
    (hes : ∀ e ∈ es, e.dest = s.actorId.portId i) :
    s.postAll es = (es.map (fun _ => .accepted), { s with
      outbox := s.outbox ++ es.map (fun e => MessageEnvelope.new s.actorId k.portId e.data Attrs.new) }) := by
  induction es generalizing s with
  | nil => simp [postAll]
  | cons e es ih =>
    have hes' : ∀ e ∈ es, e.dest = (s.postSplit k.portId e.data).actorId.portId i :=
      fun e' h => hes e' (List.mem_cons_of_mem _ h)
    rw [postAll, post_split hb (hes e (List.mem_cons_self _ _)), SplitSink.call_none hk]
    dsimp only
    rw [ih (show (s.postSplit k.portId e.data).ports i = _ from hb) hes']
    simp [postSplit]

theorem postAll_cons : s.postAll (e :: es) =
    ((s.post e).1 :: ((s.post e).2.postAll es).1, ((s.post e).2.postAll es).2) := rfl

/-- One post to the split port, with a reducer that succeeds: the payload joins
the buffer, and a full buffer is taken and its reduction forwarded. -/
theorem post_split_reducer {r : Reducer} {f : List Serialized → Serialized}
    (hb : s.ports i = some (.untyped ⟨k, p⟩)) (hk : k.reducer = some r)
    (hf : ∀ batch, r.reduceUpdates batch = .ok (f batch)) (he : e.dest = s.actorId.portId i) :
    let pending := s.splitBuffers k.buffer ++ [e.data]
    let flushed := s.splitMaxBufferSize ≤ pending.length
    (s.post e).1 = .accepted ∧ (s.post e).2.ports = s.ports ∧ (s.post e).2.actorId = s.actorId ∧
    (s.post e).2.splitMaxBufferSize = s.splitMaxBufferSize ∧
    (s.post e).2.splitBuffers k.buffer = (if flushed then [] else pending) ∧
    (s.post e).2.outbox = s.outbox ++
      (if flushed then [MessageEnvelope.new s.actorId k.portId (f pending) Attrs.new] else []) := by
  rw [post_split hb he]
  by_cases hge : s.splitMaxBufferSize ≤ (s.splitBuffers k.buffer ++ [e.data]).length
  · rw [SplitSink.call_flush hk hge]
    simp only [List.length_append, List.length_singleton] at hge
    simp [hf, hge]
  · rw [SplitSink.call_buffer hk (not_le.mp hge)]
    simp only [List.length_append, List.length_singleton] at hge
    simp [hge]

/-- With a reducer that succeeds, posts to the split port keep fewer than `N`
updates buffered, forward the reduction of every full batch of `N`, and are all
accepted. -/
theorem postAll_reducer {r : Reducer} {f : List Serialized → Serialized}
    (hb : s.ports i = some (.untyped ⟨k, p⟩)) (hk : k.reducer = some r)
    (hf : ∀ batch, r.reduceUpdates batch = .ok (f batch))
    (hN : (s.splitBuffers k.buffer).length < s.splitMaxBufferSize)
    (hes : ∀ e ∈ es, e.dest = s.actorId.portId i) :
    let pending := s.splitBuffers k.buffer ++ es.map MessageEnvelope.data
    let N := s.splitMaxBufferSize
    (s.postAll es).1 = es.map (fun _ => .accepted) ∧
    (s.postAll es).2.outbox = s.outbox ++ (batchesOf N pending).map
      (fun batch => MessageEnvelope.new s.actorId k.portId (f batch) Attrs.new) ∧
    (s.postAll es).2.splitBuffers k.buffer = pending.drop (pending.length / N * N) := by
  induction es generalizing s with
  | nil => simp [postAll, batchesOf_of_lt hN, Nat.div_eq_of_lt hN]
  | cons e es ih =>
    obtain ⟨h₁, hports, hactor, hmax, hbuf, hout⟩ :=
      post_split_reducer hb hk hf (hes e (List.mem_cons_self _ _))
    have hN' : ((s.post e).2.splitBuffers k.buffer).length < (s.post e).2.splitMaxBufferSize := by
      rw [hbuf, hmax]; split_ifs with hge
      · exact Nat.zero_lt_of_lt hN
      · exact not_le.mp hge
    obtain ⟨ih₁, ih₂, ih₃⟩ := ih (hports ▸ hb) hN'
      (fun e' h => hactor ▸ hes e' (List.mem_cons_of_mem _ h))
    have hsplit : s.splitBuffers k.buffer ++ (e :: es).map MessageEnvelope.data =
        (s.splitBuffers k.buffer ++ [e.data]) ++ es.map MessageEnvelope.data := by simp
    rw [postAll_cons]
    refine ⟨by simp [h₁, ih₁], ?_⟩
    simp only [ih₂, ih₃, hout, hbuf, hmax, hactor, hsplit]
    split_ifs with hge
    · have hlen : (s.splitBuffers k.buffer ++ [e.data]).length = s.splitMaxBufferSize := by
        simp only [List.length_append, List.length_singleton] at hge ⊢; omega
      rw [batchesOf_append_full (Nat.zero_lt_of_lt hN) hlen,
        drop_append_full (Nat.zero_lt_of_lt hN) hlen]
      simp
    · simp

/-- One post to the split port whose flush fails to reduce: the envelope comes
back carrying the last update of the batch, the buffer is emptied and nothing is
forwarded, so the other updates of the batch are gone. -/
theorem post_split_reduce_error {r : Reducer} {err : String}
    (hb : s.ports i = some (.untyped ⟨k, p⟩)) (hk : k.reducer = some r)
    (he : e.dest = s.actorId.portId i)
    (hge : s.splitMaxBufferSize ≤ (s.splitBuffers k.buffer ++ [e.data]).length)
    (hr : r.reduceUpdates (s.splitBuffers k.buffer ++ [e.data]) =
      .error (err, s.splitBuffers k.buffer ++ [e.data])) :
    s.post e = (.returned (e.trySetError
        (.mailbox (toString (MailboxSenderError.newBound p (.other err))))),
      { s with splitBuffers := Function.update s.splitBuffers k.buffer [] }) := by
  rw [post_split hb he, SplitSink.call_flush hk hge]
  simp [hr]

/-- `split` with a resolved reducer binds its sink at the index it allocates,
when that index is vacant, with an empty buffer in a fresh object. -/
theorem split_binds (portId : PortId) (red : Option Reducer) (hvacant : s.ports s.nextPort = none) :
    let s₁ := (s.split portId (.ok red)).2
    (s.split portId (.ok red)).1 = .ok (s.actorId.portId s.nextPort) ∧
    s₁.ports s.nextPort =
      some (.untyped ⟨⟨portId, red, s.nextObject⟩, s.actorId.portId s.nextPort⟩) ∧
    s₁.actorId = s.actorId ∧ s₁.splitMaxBufferSize = s.splitMaxBufferSize ∧
    s₁.splitBuffers s.nextObject = [] ∧ s₁.outbox = s.outbox := by
  simp [split, allocatePort, newObject, bindUntyped, insertPort, ActorId.portId, hvacant]

/-- `split` changes no other entry. -/
theorem split_ports (portId : PortId) (red : Option Reducer) (hvacant : s.ports s.nextPort = none) :
    (s.split portId (.ok red)).2.ports = Function.update s.ports s.nextPort
      (some (.untyped ⟨⟨portId, red, s.nextObject⟩, s.actorId.portId s.nextPort⟩)) := by
  simp [split, allocatePort, newObject, bindUntyped, insertPort, ActorId.portId, hvacant]

/-- Posts to a port made by `split`: without a reducer every payload is
forwarded to the split port's target, in order; with a reducer that succeeds,
the reduction of each full batch of `N` consecutive payloads is forwarded, in
order, and the buffer keeps the payloads after the last full batch. All posts
are accepted. The index `split` allocates must be vacant, as it is whenever
`bind_to` has only bound indices below `USER_PORT_OFFSET`. -/
theorem split_forwards_batches (s : Mailbox V) (portId : PortId) (es : List MessageEnvelope)
    (hvacant : s.ports s.nextPort = none)
    (hes : ∀ e ∈ es, e.dest = s.actorId.portId s.nextPort) :
    let us := es.map MessageEnvelope.data
    let N := s.splitMaxBufferSize
    let forward := fun v => MessageEnvelope.new s.actorId portId v Attrs.new
    ((s.split portId (.ok none)).1 = .ok (s.actorId.portId s.nextPort) ∧
      ((s.split portId (.ok none)).2.postAll es).1 = es.map (fun _ => .accepted) ∧
      ((s.split portId (.ok none)).2.postAll es).2.outbox = s.outbox ++ us.map forward) ∧
    ∀ (r : Reducer) (f : List Serialized → Serialized), 0 < N →
      (∀ batch, r.reduceUpdates batch = .ok (f batch)) →
      (s.split portId (.ok (some r))).1 = .ok (s.actorId.portId s.nextPort) ∧
      ((s.split portId (.ok (some r))).2.postAll es).1 = es.map (fun _ => .accepted) ∧
      ((s.split portId (.ok (some r))).2.postAll es).2.outbox =
        s.outbox ++ (batchesOf N us).map (forward ∘ f) ∧
      ((s.split portId (.ok (some r))).2.postAll es).2.splitBuffers s.nextObject =
        us.drop (us.length / N * N) := by
  intro us N forward
  refine ⟨?_, fun r f hN hf => ?_⟩
  · obtain ⟨hres, hb, hact, -, -, hout⟩ := split_binds portId none hvacant
    rw [postAll_forward hb rfl (hact ▸ hes)]
    simp [hres, hout, hact, us, forward]
  · obtain ⟨hres, hb, hact, hmax, hbuf, hout⟩ :=
      split_binds portId (some r) hvacant
    obtain ⟨h₁, h₂, h₃⟩ := postAll_reducer hb rfl hf (by rw [hbuf, hmax]; exact hN) (hact ▸ hes)
    refine ⟨hres, h₁, ?_, ?_⟩
    · rw [h₂]; simp [hbuf, hmax, hact, hout, us, N, forward, Function.comp_def]
    · rw [h₃]; simp [hbuf, hmax, us, N]

theorem split_forwards_batches_unknown :
    let s : Mailbox Unit := Mailbox.new unknownActorId 2
    let es := [MessageEnvelope.newUnknown (unknownActorId.portId 1024) ⟨"u", [1]⟩,
      MessageEnvelope.newUnknown (unknownActorId.portId 1024) ⟨"u", [2]⟩]
    s.ports s.nextPort = none ∧ (∀ e ∈ es, e.dest = s.actorId.portId s.nextPort) ∧
    ((s.split (unknownActorId.portId 1) (.ok none)).2.postAll es).2.outbox =
      es.map (fun e => MessageEnvelope.new unknownActorId (unknownActorId.portId 1) e.data Attrs.new) :=
  ⟨rfl, by decide, (split_forwards_batches _ _ _ rfl (by decide)).1.2.2⟩

/-- Modelled from the spec: a reducer whose `reduce_updates` fails on every
batch and hands it back. -/
def failingReducer : Reducer where
  reduceUpdates batch := .error ("reduce failed", batch)
  handsBack h := by cases h; rfl

/-- With `N = 2` and a reducer that fails, two updates posted to the split port:
the first is accepted into the buffer, the second flushes the batch, whose
reduction fails, and only the second comes back. The first update is neither
forwarded (the outbox is empty), returned, nor left in the buffer. -/
theorem split_reduce_failure_loses_update :
    let s : Mailbox Unit :=
      ((Mailbox.new unknownActorId 2).split (unknownActorId.portId 1) (.ok (some failingReducer))).2
    let splitPort := unknownActorId.portId 1024
    let e₁ := MessageEnvelope.newUnknown splitPort ⟨"u", [1]⟩
    let e₂ := MessageEnvelope.newUnknown splitPort ⟨"u", [2]⟩
    (s.postAll [e₁, e₂]).1 = [.accepted, .returned { e₂ with error := some (.mailbox
        (toString (MailboxSenderError.newBound splitPort (.other "reduce failed")))) }] ∧
    (s.postAll [e₁, e₂]).2.outbox = [] ∧ (s.postAll [e₁, e₂]).2.splitBuffers 0 = [] :=
  ⟨rfl, rfl, rfl⟩

end Mailbox

end Hyperactor
