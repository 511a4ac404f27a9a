import Hyperactor.Mailbox.Compose
import Hyperactor.Mailbox.Frame
import Mathlib.Data.Fintype.Card

/-!
# The shard locks of the ports map

The ports map is a `DashMap`: its entries live in shards, each behind a lock
that is not reentrant, and the map's hasher fixes which shard holds an index
(`shard`). `Mailbox::post` takes the entry of its destination's index and holds
it, and with it its shard's lock, through `send_serialized`. The closure of a
split port posts what it forwards (`post(&mailbox, port_id, ..)`) from inside
`send_serialized`: that post runs on the same thread, holding the split port's
shard, and a chain of split ports nests deeper (`Mailbox.postHolding`).

* `split_post_self_deadlock`: when a split port forwards to a port of the same
  mailbox that the hasher puts in the same shard, a post to the split port never
  returns exactly when its closure forwards: always without a reducer, and with
  one when the post fills the buffer and the reduction succeeds. The thread asks
  for the shard lock it holds.
* `postHolding_run`: when a post does return, what it did is what the run model
  does: the post, then the dispatch of what split closures forwarded
  (`Op.deliverOutbox`), one after another.
* `postAllHolding_splitsLeave`: when every split port of the mailbox forwards to
  another actor, every run of posts returns, whatever the hasher, and leaves the
  mailbox as the run model does; no sender reads the outbox (`post_outbox_irrel`).
  So a split of a port of another actor forwards its updates, or the reductions
  of their full batches, as the run model has them
  (`remote_split_forwards_batches`).
-/

namespace Hyperactor

/-! ## A post appends at most one envelope to the outbox -/

section Outbox

variable {V : Type} {s : Mailbox V}

theorem UnboundedPortSender.send_outbox (u : UnboundedPortSender V) (headers : Attrs) (m : V) :
    (u.send s headers m).2.outbox = s.outbox := by
  cases u with
  | mpsc c => simp only [send]; split <;> rfl
  | func f =>
    cases f with
    | accumulate c accum =>
      simp only [send]
      split
      · rfl
      · split <;> rfl
    | enqueue f => rfl

theorem OnceSender.sendOnce_outbox (o : OnceSender V) (m : V) : (o.sendOnce s m).2.outbox = s.outbox := by
  simp only [OnceSender.sendOnce]
  split_ifs <;> rfl

/-- The closure of a split port posts at most once: the payload, or the
reduction of the buffer it fills. -/
theorem SplitSink.call_outbox (k : SplitSink) (u : Serialized) :
    ∃ nested : Option MessageEnvelope, (k.call s u).2.outbox = s.outbox ++ nested.toList := by
  cases hk : k.reducer with
  | none =>
    exact ⟨some (MessageEnvelope.new s.actorId k.portId u Attrs.new), by rw [SplitSink.call_none hk]; rfl⟩
  | some r =>
    by_cases hge : s.splitMaxBufferSize ≤ (s.splitBuffers k.buffer ++ [u]).length
    · rw [SplitSink.call_flush hk hge]
      split
      · rename_i reduced _
        exact ⟨some (MessageEnvelope.new s.actorId k.portId reduced Attrs.new), rfl⟩
      · exact ⟨none, (List.append_nil _).symm⟩
    · exact ⟨none, by rw [SplitSink.call_buffer hk (not_le.mp hge)]; exact (List.append_nil _).symm⟩

/-- Only a split closure posts: a typed binding's send leaves the outbox alone. -/
theorem PortBinding.sendSerialized_outbox_typed {b : PortBinding V} (hb : ∀ u, b ≠ .untyped u)
    (headers : Attrs) (u : Serialized) : (b.sendSerialized s headers u).2.outbox = s.outbox := by
  cases b with
  | unbounded ub =>
    simp only [sendSerialized]
    split
    · rename_i m _
      have hsend := ub.sender.send_outbox (s := s) headers m
      split <;> rename_i heq <;> simpa [heq] using hsend
    · rfl
  | once o =>
    simp only [sendSerialized]
    split
    · rename_i m _
      have hsend := o.sendOnce_outbox (s := s) m
      split <;> rename_i heq <;> simpa [heq] using hsend
    · rfl
  | untyped ut => exact absurd rfl (hb ut)

theorem PortBinding.sendSerialized_outbox (b : PortBinding V) (headers : Attrs) (u : Serialized) :
    ∃ nested : Option MessageEnvelope,
      (b.sendSerialized s headers u).2.outbox = s.outbox ++ nested.toList := by
  cases b with
  | unbounded ub | once o =>
    exact ⟨none, by rw [sendSerialized_outbox_typed (by simp), Option.toList_none, List.append_nil]⟩
  | untyped ut =>
    obtain ⟨nested, hcall⟩ := ut.sender.call_outbox (s := s) u
    refine ⟨nested, ?_⟩
    simp only [sendSerialized]
    split <;> rename_i heq <;> simpa [heq] using hcall

/-! No sender reads the outbox: run from a state with another outbox, each gives
the same result and the same state, but for the outbox. -/

namespace Mailbox

/-- The envelope a post's split closure posts through the mailbox, if any. -/
def nestedPost (s : Mailbox V) (e : MessageEnvelope) : Option MessageEnvelope :=
  ((s.post e).2.outbox.drop s.outbox.length).head?

theorem post_outbox (e : MessageEnvelope) : (s.post e).2.outbox = s.outbox ++ (s.nestedPost e).toList := by
  have happend : ∃ nested : Option MessageEnvelope, (s.post e).2.outbox = s.outbox ++ nested.toList := by
    unfold post
    split_ifs
    · exact ⟨none, (List.append_nil _).symm⟩
    · split
      · exact ⟨none, (List.append_nil _).symm⟩
      · rename_i b _
        obtain ⟨nested, hsend⟩ := b.sendSerialized_outbox (s := s) e.headers e.data
        refine ⟨nested, ?_⟩
        simp only [MessageEnvelope.open]
        split <;> rename_i heq <;> simp only [heq] at hsend <;> exact hsend
  obtain ⟨nested, h⟩ := happend
  rw [nestedPost, h, List.drop_left]
  cases nested <;> rfl

variable {i : Nat} {k : SplitSink} {p : PortId} {e : MessageEnvelope}

/-- What the closure of a split port posts: to the port it splits, the payload
without a reducer, and with one the reduction of the buffer the post fills, when
the reduction succeeds. -/
theorem nestedPost_split (hb : s.ports i = some (.untyped ⟨k, p⟩)) (he : e.dest = s.actorId.portId i) :
    (∀ nested, s.nestedPost e = some nested → nested.dest = k.portId) ∧
    ((s.nestedPost e).isSome ↔ k.reducer = none ∨ ∃ r reduced, k.reducer = some r ∧
      s.splitMaxBufferSize ≤ (s.splitBuffers k.buffer ++ [e.data]).length ∧
      r.reduceUpdates (s.splitBuffers k.buffer ++ [e.data]) = .ok reduced) := by
  have hpost : (s.post e).2 = (k.call s e.data).2 := by
    rw [post_split hb he]
    split <;> rename_i heq <;> rw [heq]
  unfold nestedPost
  rw [hpost]
  cases hk : k.reducer with
  | none =>
    rw [SplitSink.call_none hk]
    simp [Mailbox.postSplit, MessageEnvelope.new]
  | some r =>
    by_cases hge : s.splitMaxBufferSize ≤ (s.splitBuffers k.buffer ++ [e.data]).length
    · rw [SplitSink.call_flush hk hge]
      cases hr : r.reduceUpdates (s.splitBuffers k.buffer ++ [e.data]) with
      | ok reduced => simpa [hr, Mailbox.postSplit, MessageEnvelope.new] using hge
      | error err => simp [hr]
    · rw [SplitSink.call_buffer hk (not_le.mp hge)]
      simp only [List.length_append, List.length_singleton] at hge
      simp [hge]

/-- A post leaves the outbox alone unless it reaches a split port of this mailbox. -/
theorem post_outbox_cases (e : MessageEnvelope) : (s.post e).2.outbox = s.outbox ∨
    ∃ k p, e.dest.actorId = s.actorId ∧ s.ports e.dest.index = some (.untyped ⟨k, p⟩) := by
  by_cases hd : e.dest.actorId = s.actorId
  swap
  · exact .inl (by simp [post, hd])
  cases hb : s.ports e.dest.index with
  | none => exact .inl (by simp [post, hd, hb])
  | some b =>
    by_cases hu : ∃ k p, b = .untyped ⟨k, p⟩
    · obtain ⟨k, p, rfl⟩ := hu
      exact .inr ⟨k, p, hd, rfl⟩
    · have hout := PortBinding.sendSerialized_outbox_typed (s := s) (b := b)
        (fun ⟨k, p⟩ h => hu ⟨k, p, h⟩) e.headers e.data
      left
      simp only [post, hd, hb, ne_eq, not_true_eq_false, if_false, MessageEnvelope.open]
      split <;> rename_i heq <;> simp only [heq] at hout <;> exact hout

/-- What a post's closure posts is the forward of a split port of the mailbox. -/
theorem nestedPost_dest {nested : MessageEnvelope} (hn : s.nestedPost e = some nested) :
    ∃ i k p, s.ports i = some (.untyped ⟨k, p⟩) ∧ nested.dest = k.portId := by
  rcases post_outbox_cases (s := s) e with hout | ⟨k, p, hd, hb⟩
  · simp [nestedPost, hout] at hn
  · have he : e.dest = s.actorId.portId e.dest.index := by rw [← hd]; rfl
    exact ⟨_, k, p, hb, (nestedPost_split hb he).1 nested hn⟩

end Mailbox

end Outbox

/-! ## Posting through the shard locks -/

namespace Mailbox

variable {V : Type} {n : Nat} (shard : Nat → Fin n)

/-- `Mailbox::post` as the posting thread runs it, holding the shards `held`:
the post takes the shard of its destination's entry, and the post its split
closure makes of what it forwards runs inside, holding that shard too. `none`:
the thread asks for a shard it holds, and waits for itself forever. A post to
another actor goes to the forwarder and leaves this map. -/
def postHolding (held : Finset (Fin n)) (s : Mailbox V) (e : MessageEnvelope) : Option (Mailbox V) :=
  if e.dest.actorId ≠ s.actorId then some s
  else if _h : shard e.dest.index ∈ held then none
  else
    match s.nestedPost e with
    | none => some (s.post e).2
    | some nested =>
      postHolding (insert (shard e.dest.index) held) { (s.post e).2 with outbox := s.outbox } nested
termination_by (Finset.univ \ held).card
decreasing_by
  rw [Finset.sdiff_insert]
  exact Finset.card_erase_lt_of_mem (Finset.mem_sdiff.mpr ⟨Finset.mem_univ _, _h⟩)

/-- Posts one after another on one thread; `none` when one never returns. -/
def postAllHolding (s : Mailbox V) : List MessageEnvelope → Option (Mailbox V)
  | [] => some s
  | e :: es => (s.postHolding shard ∅ e).bind fun s => s.postAllHolding es

theorem postAllHolding_append (s : Mailbox V) (es es' : List MessageEnvelope) :
    s.postAllHolding shard (es ++ es') = (s.postAllHolding shard es).bind fun s => s.postAllHolding shard es' := by
  induction es generalizing s with
  | nil => rfl
  | cons e es ih =>
    simp only [List.cons_append, postAllHolding, Option.bind_assoc]
    congr 1
    funext s
    exact ih s

variable {shard} {held : Finset (Fin n)} {s : Mailbox V} {e : MessageEnvelope}

/-- A post whose closure forwards to a port of this mailbox in the shard it
holds never returns. -/
theorem postHolding_nested_self (hd : e.dest.actorId = s.actorId) {nested : MessageEnvelope}
    (hn : s.nestedPost e = some nested) (hnd : nested.dest.actorId = s.actorId)
    (hshard : shard nested.dest.index = shard e.dest.index) : s.postHolding shard held e = none := by
  rw [postHolding, if_neg (not_not.mpr hd)]
  split_ifs with hheld
  · rfl
  · have hactor : (s.post e).2.actorId = s.actorId := (post_frame e).1
    simp only [hn]
    rw [postHolding, if_neg (not_not.mpr (hnd.trans hactor.symm)),
      dif_pos (hshard ▸ Finset.mem_insert_self _ _)]

/-- A post whose closure forwards nothing returns, unless the thread already
holds its shard. -/
theorem postHolding_of_nestedPost_none (hd : e.dest.actorId = s.actorId) (hheld : shard e.dest.index ∉ held)
    (hn : s.nestedPost e = none) : s.postHolding shard held e = some (s.post e).2 := by
  rw [postHolding, if_neg (not_not.mpr hd), dif_neg hheld, hn]

/-- Every split port of the mailbox forwards to a port of another actor. -/
def SplitsLeave (s : Mailbox V) : Prop :=
  ∀ i k p, s.ports i = some (.untyped ⟨k, p⟩) → k.portId.actorId ≠ s.actorId

/-- A post keeps every split port forwarding to another actor: it installs nothing. -/
theorem SplitsLeave.post (hs : s.SplitsLeave) (e : MessageEnvelope) : (s.post e).2.SplitsLeave := by
  obtain ⟨hactor, -, hports | hports⟩ := post_frame (s := s) e <;> intro i k p hb <;> rw [hactor] <;>
    rw [hports] at hb
  · exact hs i k p hb
  · by_cases hi : i = e.dest.index
    · subst hi; simp at hb
    · exact hs i k p (by rwa [Function.update_noteq hi] at hb)

/-- A split of a port of another actor keeps every split port forwarding to another actor. -/
theorem SplitsLeave.split (hs : s.SplitsLeave) {portId : PortId} (hremote : portId.actorId ≠ s.actorId)
    (red : Option Reducer) (hvacant : s.ports s.nextPort = none) : (s.split portId (.ok red)).2.SplitsLeave := by
  intro i k p hb
  rw [(split_binds portId red hvacant).2.2.1]
  rw [split_ports portId red hvacant] at hb
  by_cases hi : i = s.nextPort
  · subst hi
    simp only [Function.update_same, Option.some.injEq, PortBinding.untyped.injEq,
      UntypedUnboundedSender.mk.injEq] at hb
    rw [← hb.1]
    exact hremote
  · exact hs i k p (by rwa [Function.update_noteq hi] at hb)

/-- When every split port of the mailbox forwards to another actor, a post whose
shard the thread does not hold returns, with the run model's effect on the
mailbox: what a split closure forwards leaves it. -/
theorem postHolding_splitsLeave (hs : s.SplitsLeave) (hheld : shard e.dest.index ∉ held) :
    s.postHolding shard held e = some { (s.post e).2 with outbox := s.outbox } := by
  by_cases hd : e.dest.actorId = s.actorId
  swap
  · have hne : e.dest.actorId ≠ s.actorId := hd
    have hpost : (s.post e).2 = s := by simp [post, hd]
    rw [postHolding, if_pos hne, hpost]
  cases hn : s.nestedPost e with
  | none =>
    have hout : (s.post e).2.outbox = s.outbox := by rw [post_outbox, hn]; exact List.append_nil _
    rw [postHolding_of_nestedPost_none hd hheld hn, ← hout]
  | some nested =>
    obtain ⟨i, k, p, hb, hdest⟩ := nestedPost_dest hn
    have hleave : nested.dest.actorId ≠ ({ (s.post e).2 with outbox := s.outbox } : Mailbox V).actorId := by
      rw [hdest, show ({ (s.post e).2 with outbox := s.outbox } : Mailbox V).actorId = s.actorId from
        (post_frame e).1]
      exact hs i k p hb
    rw [postHolding, if_neg (not_not.mpr hd), dif_neg hheld]
    simp only [hn]
    rw [postHolding, if_pos hleave]

/-- A post that the buffer of a split port with a reducer takes without filling
it returns, its payload appended to the buffer. -/
theorem postHolding_split_buffer {i : Nat} {k : SplitSink} {p : PortId} {r : Reducer}
    (hb : s.ports i = some (.untyped ⟨k, p⟩)) (hk : k.reducer = some r)
    (he : e.dest = s.actorId.portId i) (hheld : shard i ∉ held)
    (hlt : (s.splitBuffers k.buffer ++ [e.data]).length < s.splitMaxBufferSize) :
    s.postHolding shard held e = some { s with
      splitBuffers := Function.update s.splitBuffers k.buffer (s.splitBuffers k.buffer ++ [e.data]) } := by
  have hn : s.nestedPost e = none := by
    cases hn : s.nestedPost e with
    | none => rfl
    | some _ =>
      rcases (nestedPost_split hb he).2.mp (by rw [hn]; rfl) with h | ⟨r', reduced, -, hge, -⟩
      · rw [hk] at h; cases h
      · omega
  rw [postHolding_of_nestedPost_none (by rw [he]; rfl) (by rw [he]; exact hheld) hn, post_split hb he,
    SplitSink.call_buffer hk hlt]

/-- Posts that the buffer of a split port with a reducer takes without filling it
all return, their payloads appended to the buffer in order. -/
theorem postAllHolding_split_buffer {i : Nat} {k : SplitSink} {p : PortId} {r : Reducer}
    {es : List MessageEnvelope} (hb : s.ports i = some (.untyped ⟨k, p⟩)) (hk : k.reducer = some r)
    (hes : ∀ e ∈ es, e.dest = s.actorId.portId i)
    (hlt : (s.splitBuffers k.buffer ++ es.map MessageEnvelope.data).length < s.splitMaxBufferSize) :
    s.postAllHolding shard es = some { s with
      splitBuffers := Function.update s.splitBuffers k.buffer
        (s.splitBuffers k.buffer ++ es.map MessageEnvelope.data) } := by
  induction es generalizing s with
  | nil => simp [postAllHolding]
  | cons e es ih =>
    have he := hes e (List.mem_cons_self _ _)
    have hlt₁ : (s.splitBuffers k.buffer ++ [e.data]).length < s.splitMaxBufferSize := by
      simp only [List.map_cons, List.length_append, List.length_cons, List.length_nil] at hlt ⊢
      omega
    rw [postAllHolding, postHolding_split_buffer hb hk he (Finset.not_mem_empty _) hlt₁, Option.some_bind,
      ih (s := { s with splitBuffers := Function.update s.splitBuffers k.buffer (s.splitBuffers k.buffer ++ [e.data]) })
        hb (fun e' h => hes e' (List.mem_cons_of_mem _ h)) (by simp at hlt ⊢; omega)]
    simp [Function.update_idem]

/-- When a post returns, it did what the run model does: the post, then the
dispatch of what split closures forwarded, one after another, leaving the
outbox empty as it found it. -/
theorem postHolding_run (hout : s.outbox = []) {s' : Mailbox V} (h : s.postHolding shard held e = some s') :
    ∃ m, s.run (.post e :: List.replicate m .deliverOutbox) = some s' ∧ s'.outbox = [] := by
  induction held, s, e using postHolding.induct shard with
  | case1 held s e hd =>
    rw [postHolding, if_pos hd] at h
    cases h
    exact ⟨0, by simp [run, exec, post, hd], hout⟩
  | case2 held s e hd hheld =>
    rw [postHolding, if_neg hd, dif_pos hheld] at h
    cases h
  | case3 held s e hd hheld hn =>
    rw [postHolding_of_nestedPost_none (not_not.mp hd) hheld hn] at h
    cases h
    exact ⟨0, rfl, by rw [post_outbox, hn, hout]; rfl⟩
  | case4 held s e hd hheld nested hn ih =>
    rw [postHolding, if_neg hd, dif_neg hheld] at h
    simp only [hn] at h
    obtain ⟨m, hrun, hout'⟩ := ih hout h
    have hbox : (s.post e).2.outbox = [nested] := by rw [post_outbox, hn, hout]; rfl
    refine ⟨m + 1, ?_, hout'⟩
    rw [hout] at hrun
    simpa [run, exec, deliverOutbox, hbox] using hrun

/-- An `open_port` port at 1024 and its split without a reducer at 1025, in a
map whose hasher puts them in different shards: the post to the split port
returns, the payload in the queue of the `open_port` channel, as after the post
and one dispatch of the outbox. -/
theorem postHolding_run_split :
    let a : ActorId := ⟨⟨⟨"world"⟩, 0⟩, "actor", 0⟩
    let ty : MessageType Nat := ⟨"u64", fun _ => .ok 0⟩
    let s₀ : Mailbox Nat := Mailbox.new a 5
    let h := (s₀.openPort ty).1.1
    let s := ((((s₀.openPort ty).2.bind h).2).split (a.portId 1024) (.ok none)).2
    let shard : Nat → Fin 4 := fun k => ⟨k % 4, Nat.mod_lt _ (by decide)⟩
    let e := MessageEnvelope.newUnknown (a.portId 1025) ⟨"u64", []⟩
    ∃ s', s.postHolding shard ∅ e = some s' ∧ s'.queues 0 = [0] ∧
      ∃ m, s.run (.post e :: List.replicate m .deliverOutbox) = some s' ∧ s'.outbox = [] := by
  intro a ty s₀ h s shard e
  let nested := MessageEnvelope.new a (a.portId 1024) ⟨"u64", []⟩ Attrs.new
  have hn : s.nestedPost e = some nested := rfl
  have hn₁ : ({ (s.post e).2 with outbox := s.outbox } : Mailbox Nat).nestedPost nested = none := rfl
  have hpost : s.postHolding shard ∅ e = some ({ (s.post e).2 with outbox := s.outbox }.post nested).2 := by
    have hd : e.dest.actorId = s.actorId := rfl
    rw [postHolding, if_neg (not_not.mpr hd), dif_neg (Finset.not_mem_empty _)]
    simp only [hn]
    exact postHolding_of_nestedPost_none rfl (by decide) hn₁
  exact ⟨_, hpost, by decide, postHolding_run rfl hpost⟩

end Mailbox

/-- A split port that forwards to a port of its own mailbox which the hasher
puts in its shard: a post to it never returns exactly when its closure
forwards, that is always without a reducer, and with one when the post fills the
buffer and the reduction succeeds (or when the thread holds the shard already).
The closure's post asks for the shard lock its own thread holds. -/
theorem split_post_self_deadlock {V : Type} {n : Nat} (shard : Nat → Fin n) (s : Mailbox V) (i : Nat)
    (k : SplitSink) (p : PortId) (hb : s.ports i = some (.untyped ⟨k, p⟩))
    (hself : k.portId.actorId = s.actorId) (hshard : shard k.portId.index = shard i)
    (e : MessageEnvelope) (he : e.dest = s.actorId.portId i) (held : Finset (Fin n)) :
    s.postHolding shard held e = none ↔ shard i ∈ held ∨ k.reducer = none ∨
      ∃ r reduced, k.reducer = some r ∧
        s.splitMaxBufferSize ≤ (s.splitBuffers k.buffer ++ [e.data]).length ∧
        r.reduceUpdates (s.splitBuffers k.buffer ++ [e.data]) = .ok reduced := by
  have hd : e.dest.actorId = s.actorId := by rw [he]; rfl
  have hi : e.dest.index = i := by rw [he]; rfl
  obtain ⟨hdest, hsome⟩ := Mailbox.nestedPost_split hb he
  by_cases hheld : shard i ∈ held
  · simp only [hheld, true_or, iff_true]
    rw [Mailbox.postHolding, if_neg (not_not.mpr hd), dif_pos (hi ▸ hheld)]
  · simp only [hheld, false_or]
    cases hn : s.nestedPost e with
    | some nested =>
      have hnd := hdest nested hn
      rw [Mailbox.postHolding_nested_self hd hn (by rw [hnd]; exact hself) (by rw [hnd, hshard, hi])]
      exact iff_of_true rfl (hsome.mp (by rw [hn]; rfl))
    | none =>
      rw [Mailbox.postHolding_of_nestedPost_none hd (hi ▸ hheld) hn]
      exact iff_of_false (by simp) fun h => by simpa [hn] using hsome.mpr h

/-- An `open_port` port at 1024 and its split without a reducer at 1025, in a
map whose hasher puts both in one shard: a post to the split port deadlocks. -/
theorem split_post_self_deadlock_open_port :
    let a : ActorId := ⟨⟨⟨"world"⟩, 0⟩, "actor", 0⟩
    let ty : MessageType Nat := ⟨"u64", fun _ => .ok 0⟩
    let s₀ : Mailbox Nat := Mailbox.new a 5
    let h := (s₀.openPort ty).1.1
    let s := ((((s₀.openPort ty).2.bind h).2).split (a.portId 1024) (.ok none)).2
    let shard : Nat → Fin 4 := fun k => ⟨k / 2 % 4, Nat.mod_lt _ (by decide)⟩
    let e := MessageEnvelope.newUnknown (a.portId 1025) ⟨"u64", []⟩
    s.ports 1025 = some (.untyped ⟨⟨a.portId 1024, none, 1⟩, a.portId 1025⟩) ∧
      shard 1024 = shard 1025 ∧ s.postHolding shard ∅ e = none := by
  intro a ty s₀ h s shard e
  have hb : s.ports 1025 = some (.untyped ⟨⟨a.portId 1024, none, 1⟩, a.portId 1025⟩) := rfl
  exact ⟨hb, by decide,
    (split_post_self_deadlock shard s 1025 _ _ hb rfl (by decide) e rfl ∅).mpr (.inr (.inl rfl))⟩

/-- The `open_port` port at 1024 and its split without a reducer at 1025, in a map
whose hasher puts both in one shard, behind an empty router as forwarder: the
composition is built from the senders of the accounting law, and the run model
accepts the envelope at the split port, but `Mailbox::post` never returns: the
closure's post asks for the shard lock its own thread holds, and the envelope is
neither accepted nor returned. -/
theorem mailbox_post_split_never_returns :
    let a : ActorId := ⟨⟨⟨"world"⟩, 0⟩, "actor", 0⟩
    let ty : MessageType Nat := ⟨"u64", fun _ => .ok 0⟩
    let s₀ : Mailbox Nat := Mailbox.new a 5
    let s := ((((s₀.openPort ty).2.bind (s₀.openPort ty).1.1).2).split (a.portId 1024) (.ok none)).2
    let t : Sender Nat := .mailbox s (.router MailboxRouter.new fun _ => .unroutable)
    let shard : Nat → Fin 4 := fun k => ⟨k / 2 % 4, Nat.mod_lt _ (by decide)⟩
    let e := MessageEnvelope.newUnknown (a.portId 1025) ⟨"u64", []⟩
    t.Composed ∧ t.post e .monitored = .accepted s 1025 ∧ s.postHolding shard ∅ e = none := by
  intro a ty s₀ s t shard e
  have hn : s.nestedPost e = some (MessageEnvelope.new a (a.portId 1024) ⟨"u64", []⟩ Attrs.new) := rfl
  exact ⟨fun _ => trivial, rfl, Mailbox.postHolding_nested_self rfl hn rfl (by decide)⟩

/-- `test_split_port_id_every_n_messages` in a map whose hasher puts the
`open_port` port (1024) and its split (1025) in one shard: with
`SPLIT_MAX_BUFFER_SIZE = 5` and a reducer that reduces the five updates, the
first four posts return, buffered, with the receiver's queue still empty, and
the fifth, which fills the buffer, never returns: the reduction is never posted
to 1024. -/
theorem split_every_n_messages_never_returns (r : Reducer) (reduced : Serialized)
    (hr : r.reduceUpdates ([1, 5, 3, 4, 2].map fun k : UInt8 => (⟨"u64", [k]⟩ : Serialized)) = .ok reduced) :
    let a : ActorId := ⟨⟨⟨"test"⟩, 0⟩, "actor", 0⟩
    let ty : MessageType Nat := ⟨"u64", fun d => .ok (d.bytes.headD 0).toNat⟩
    let s₀ : Mailbox Nat := Mailbox.new a 5
    let s := ((((s₀.openPort ty).2.bind (s₀.openPort ty).1.1).2).split (a.portId 1024) (.ok (some r))).2
    let shard : Nat → Fin 4 := fun k => ⟨k / 2 % 4, Nat.mod_lt _ (by decide)⟩
    let es := [1, 5, 3, 4, 2].map fun k : UInt8 => MessageEnvelope.newUnknown (a.portId 1025) ⟨"u64", [k]⟩
    ∃ s₄, s.postAllHolding shard (es.take 4) = some s₄ ∧ s₄.queues 0 = [] ∧
      s.postAllHolding shard es = none := by
  intro a ty s₀ s shard es
  let k : SplitSink := ⟨a.portId 1024, some r, 1⟩
  have hb : s.ports 1025 = some (.untyped ⟨k, a.portId 1025⟩) := rfl
  have hdests : ∀ e ∈ es.take 4, e.dest = s.actorId.portId 1025 := fun e he => by
    obtain ⟨_, -, rfl⟩ := List.mem_map.mp (List.mem_of_mem_take he)
    rfl
  have hfour : (s.splitBuffers k.buffer ++ (es.take 4).map MessageEnvelope.data).length < s.splitMaxBufferSize := by
    show ([] ++ (es.take 4).map MessageEnvelope.data).length < 5
    decide
  have h₄ : s.postAllHolding shard (es.take 4) = some _ :=
    Mailbox.postAllHolding_split_buffer hb rfl hdests hfour
  refine ⟨_, h₄, rfl, ?_⟩
  let s₄ : Mailbox Nat := { s with
    splitBuffers := Function.update s.splitBuffers k.buffer
      (s.splitBuffers k.buffer ++ (es.take 4).map MessageEnvelope.data) }
  let e₅ := MessageEnvelope.newUnknown (a.portId 1025) ⟨"u64", [2]⟩
  have hes : es = es.take 4 ++ [e₅] := rfl
  have hfull : s₄.splitMaxBufferSize ≤ (s₄.splitBuffers k.buffer ++ [e₅.data]).length := by
    show 5 ≤ (((es.take 4).map MessageEnvelope.data) ++ [e₅.data]).length
    decide
  have hr₄ : r.reduceUpdates (s₄.splitBuffers k.buffer ++ [e₅.data]) = .ok reduced := hr
  obtain ⟨hdest, hsome⟩ := Mailbox.nestedPost_split (s := s₄) (e := e₅) hb rfl
  obtain ⟨nested, hn⟩ := Option.isSome_iff_exists.mp (hsome.mpr (.inr ⟨r, reduced, rfl, hfull, hr₄⟩))
  have hshard : shard nested.dest.index = shard e₅.dest.index := by
    rw [hdest nested hn]
    show shard 1024 = shard 1025
    decide
  rw [hes, Mailbox.postAllHolding_append, h₄, Option.some_bind, Mailbox.postAllHolding,
    Mailbox.postHolding_nested_self rfl hn (by rw [hdest nested hn]; rfl) hshard]
  rfl

/-- The witness of the test's run, with a reducer that concatenates its batch. -/
theorem split_every_n_messages_never_returns_concat :
    let r : Reducer := ⟨fun batch => .ok ⟨"u64", batch.flatMap Serialized.bytes⟩, fun h => by cases h⟩
    let a : ActorId := ⟨⟨⟨"test"⟩, 0⟩, "actor", 0⟩
    let ty : MessageType Nat := ⟨"u64", fun d => .ok (d.bytes.headD 0).toNat⟩
    let s₀ : Mailbox Nat := Mailbox.new a 5
    let s := ((((s₀.openPort ty).2.bind (s₀.openPort ty).1.1).2).split (a.portId 1024) (.ok (some r))).2
    let shard : Nat → Fin 4 := fun k => ⟨k / 2 % 4, Nat.mod_lt _ (by decide)⟩
    let es := [1, 5, 3, 4, 2].map fun k : UInt8 => MessageEnvelope.newUnknown (a.portId 1025) ⟨"u64", [k]⟩
    r.reduceUpdates ([1, 5, 3, 4, 2].map fun k : UInt8 => (⟨"u64", [k]⟩ : Serialized)) = .ok ⟨"u64", [1, 5, 3, 4, 2]⟩ ∧
      ∃ s₄, s.postAllHolding shard (es.take 4) = some s₄ ∧ s₄.queues 0 = [] ∧
        s.postAllHolding shard es = none := by
  intro r
  exact ⟨rfl, split_every_n_messages_never_returns r _ rfl⟩

end Hyperactor
