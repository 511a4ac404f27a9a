import Hyperactor.Mailbox.Split

/-!
# What a call does to the owner, the ports map and the port counter

No send touches the owner, the ports map or the port counter
(`PortBinding.sendSerialized_frame`), so a post leaves them alone but for the
entry a spent once port removes (`Mailbox.post_frame`). Every call of `Op` is
then one of a few shapes (`exec_callFrame`):

* it leaves the ports map, removes one entry, or installs a binding at a vacant
  index that it can install at (`PortsStep`); the binding carries the owner's
  port id at that index, unless a `bind_once` stores the one its handle carries
  (`Op.OwnHandle`);
* it leaves the port counter, or takes the counter's value as the index it
  allocates (`Op.allocated`) and moves the counter on by one modulo `2^64`.
-/

namespace Hyperactor

/-! ## Sends and posts -/

section Sends

variable {V : Type} {s : Mailbox V}

/-- The fields no send touches: the owner, the ports map and the port counter. -/
def Mailbox.frame (s : Mailbox V) : ActorId × (Nat → Option (PortBinding V)) × Nat :=
  (s.actorId, s.ports, s.nextPort)

theorem UnboundedPortSender.send_frame (u : UnboundedPortSender V) (headers : Attrs) (m : V) :
    (u.send s headers m).2.frame = s.frame := by
  cases u with
  | mpsc c => simp only [send]; split <;> rfl
  | func f =>
    cases f with
    | accumulate c accum =>
      simp only [send]
      split
      · rfl
      · split <;> rfl
    | enqueue f => rfl

theorem OnceSender.sendOnce_frame (o : OnceSender V) (m : V) : (o.sendOnce s m).2.frame = s.frame := by
  simp only [OnceSender.sendOnce]
  split_ifs <;> rfl

theorem SplitSink.call_frame (k : SplitSink) (u : Serialized) : (k.call s u).2.frame = s.frame := by
  cases hk : k.reducer with
  | none => rw [SplitSink.call_none hk]; rfl
  | some r =>
    by_cases hge : s.splitMaxBufferSize ≤ (s.splitBuffers k.buffer ++ [u]).length
    · rw [SplitSink.call_flush hk hge]
      split <;> rfl
    · rw [SplitSink.call_buffer hk (not_le.mp hge)]; rfl

theorem PortBinding.sendSerialized_frame (b : PortBinding V) (headers : Attrs) (u : Serialized) :
    (b.sendSerialized s headers u).2.frame = s.frame := by
  cases b with
  | unbounded ub =>
    have hsend := ub.sender.send_frame (s := s) headers
    simp only [sendSerialized]
    split
    · rename_i m _
      split <;> rename_i heq <;> simpa [heq] using hsend m
    · rfl
  | once o =>
    have hsend := o.sendOnce_frame (s := s)
    simp only [sendSerialized]
    split
    · rename_i m _
      split <;> rename_i heq <;> simpa [heq] using hsend m
    · rfl
  | untyped ut =>
    have hcall := ut.sender.call_frame (s := s) u
    simp only [sendSerialized]
    split <;> rename_i heq <;> simpa [heq] using hcall

/-- A post leaves the owner and the port counter alone, and installs nothing: it
leaves the ports map, or removes the entry of its destination. -/
theorem Mailbox.post_frame (e : MessageEnvelope) :
    (s.post e).2.actorId = s.actorId ∧ (s.post e).2.nextPort = s.nextPort ∧
      ((s.post e).2.ports = s.ports ∨ (s.post e).2.ports = Function.update s.ports e.dest.index none) := by
  unfold Mailbox.post
  split_ifs
  · exact ⟨rfl, rfl, .inl rfl⟩
  · split
    · exact ⟨rfl, rfl, .inl rfl⟩
    · rename_i b _
      have hsend := b.sendSerialized_frame (s := s) e.headers e.data
      simp only [MessageEnvelope.open]
      split <;> rename_i heq <;> simp only [heq, Mailbox.frame, Prod.mk.injEq] at hsend <;>
        obtain ⟨ha, hp, hn⟩ := hsend
      · exact ⟨ha, hn, .inr (hp ▸ rfl)⟩
      · exact ⟨ha, hn, .inl hp⟩
      · exact ⟨ha, hn, .inl hp⟩

end Sends

/-! ## Every call -/

section Calls

variable {V : Type}

/-- Whether a call, made in state `s`, can install a binding at index `i`: the
`bind` of a handle of index `i` not bound before, `bind_to` or `bind_once` at
`i`, or a `split` allocating `i`. -/
def Op.Installs (s : Mailbox V) (i : Nat) : Op V → Prop
  | .bind h => h.portIndex = i ∧ s.boundPorts h.bound = none
  | .bindTo _ j => j = i
  | .bindOnce h => h.portIndex = i
  | .split _ _ => s.nextPort = i
  | _ => False

/-- A once handle a call binds carries the port id that `open_once_port`, its
only maker, gave it: its mailbox's actor at its own index. -/
def Op.OwnHandle (a : ActorId) : Op V → Prop
  | .bindOnce h => h.portId = a.portId h.portIndex
  | _ => True

/-- The port index a call takes from `allocate_port`, made in state `s`: that of
the handle an `open_*` call or `bound_return_handle` returns, and the index a
`split` binds its port at (and returns, when its reducer resolves). -/
def Op.allocated (s : Mailbox V) : Op V → Option Nat
  | .openPort ty => some (s.openPort ty).1.1.portIndex
  | .openAccumPort accum ty => some (s.openAccumPort accum ty).1.1.portIndex
  | .openEnqueuePort f ty => some (s.openEnqueuePort f ty).1.portIndex
  | .openOncePort ty => some (s.openOncePort ty).1.1.portIndex
  | .split _ _ => some s.allocatePort.1
  | .boundReturnHandle port ty => ((s.boundReturnHandle port ty).bind Prod.fst).map PortHandle.portIndex
  | _ => none

/-- What a call does to the ports map: leaves it, removes one entry, or installs
a binding at a vacant index it can install at, which carries the owner's port id
at that index when the call binds its own handles. -/
inductive PortsStep (s : Mailbox V) (op : Op V) : (Nat → Option (PortBinding V)) → Prop
  | same : PortsStep s op s.ports
  | remove (i : Nat) : PortsStep s op (Function.update s.ports i none)
  | install (i : Nat) (b : PortBinding V) (hvac : s.ports i = none) (hop : op.Installs s i)
      (hid : op.OwnHandle s.actorId → b.portId = s.actorId.portId i) :
      PortsStep s op (Function.update s.ports i (some b))

/-- Every entry after a call was there before, or the call installed it at an
index it can install at, with the owner's port id when it binds its own handles. -/
theorem PortsStep.entry {s : Mailbox V} {op : Op V} {p : Nat → Option (PortBinding V)} {i : Nat}
    {b : PortBinding V} (hstep : PortsStep s op p) (hp : p i = some b) :
    s.ports i = some b ∨ op.Installs s i ∧ (op.OwnHandle s.actorId → b.portId = s.actorId.portId i) := by
  cases hstep with
  | same => exact .inl hp
  | remove j =>
    by_cases hij : i = j
    · subst hij; simp at hp
    · exact .inl (by simpa [Function.update_noteq hij] using hp)
  | install j b' _ hop hid =>
    by_cases hij : i = j
    · subst hij
      simp only [Function.update_same, Option.some.injEq] at hp
      exact .inr ⟨hop, hp ▸ hid⟩
    · exact .inl (by simpa [Function.update_noteq hij] using hp)

/-- What a call does to the owner, the ports map and the port counter. -/
structure CallFrame (s : Mailbox V) (op : Op V) (s' : Mailbox V) : Prop where
  actorId : s'.actorId = s.actorId
  ports : PortsStep s op s'.ports
  counter : op.allocated s = none ∧ s'.nextPort = s.nextPort ∨
    op.allocated s = some s.nextPort ∧ s'.nextPort = (s.nextPort + 1) % 2 ^ 64

variable {s s' : Mailbox V} {op : Op V}

/-- A call that leaves the three alone. -/
theorem CallFrame.of_frame (hf : s'.frame = s.frame) (ha : op.allocated s = none) :
    CallFrame s op s' := by
  simp only [Mailbox.frame, Prod.mk.injEq] at hf
  obtain ⟨hactor, hports, hnext⟩ := hf
  exact ⟨hactor, hports ▸ .same, .inl ⟨ha, hnext⟩⟩

/-- A post, from a state with the same frame, which may remove its
destination's entry. -/
theorem CallFrame.post {t : Mailbox V} (ht : t.frame = s.frame) (e : MessageEnvelope)
    (ha : op.allocated s = none) : CallFrame s op (t.post e).2 := by
  simp only [Mailbox.frame, Prod.mk.injEq] at ht
  obtain ⟨hta, htp, htn⟩ := ht
  obtain ⟨hactor, hnext, hports | hports⟩ := Mailbox.post_frame (s := t) e <;>
    refine ⟨hactor.trans hta, ?_, .inl ⟨ha, hnext.trans htn⟩⟩ <;> rw [hports, htp]
  · exact .same
  · exact .remove _

namespace Mailbox

/-- Every call is one of the shapes `CallFrame` allows. -/
theorem exec_callFrame (h : s.exec op = some s') : CallFrame s op s' := by
  cases op with
  | openPort ty | openAccumPort accum ty | openEnqueuePort f ty | openOncePort ty =>
    cases h; exact ⟨rfl, .same, .inr ⟨rfl, rfl⟩⟩
  | bind hd =>
    cases h
    simp only [bind]
    split
    · exact .of_frame rfl rfl
    · rename_i hb
      simp only [bindHandle]
      split
      · exact ⟨rfl, .install _ _ ‹_› ⟨rfl, hb⟩ fun _ => rfl, .inl ⟨rfl, rfl⟩⟩
      · exact .of_frame rfl rfl
  | bindTo hd j =>
    simp only [exec, bindTo] at h
    split at h
    · cases h; exact ⟨rfl, .install _ _ ‹_› rfl fun _ => rfl, .inl ⟨rfl, rfl⟩⟩
    · cases h
  | bindOnce hd =>
    cases h
    simp only [bindOnce]
    split
    · exact ⟨rfl, .install _ _ ‹_› rfl id, .inl ⟨rfl, rfl⟩⟩
    · exact .of_frame rfl rfl
  | split p red =>
    cases h
    simp only [split, allocatePort]
    split
    · exact ⟨rfl, .same, .inr ⟨rfl, rfl⟩⟩
    · simp only [newObject, bindUntyped, ActorId.portId]
      split
      · exact ⟨rfl, .install _ _ ‹_› rfl fun _ => rfl, .inr ⟨rfl, rfl⟩⟩
      · exact ⟨rfl, .same, .inr ⟨rfl, rfl⟩⟩
  | boundReturnHandle port ty =>
    obtain ⟨⟨o, s''⟩, hb, rfl⟩ := Option.map_eq_some'.mp h
    rcases boundReturnHandle_eq hb with ⟨rfl, rfl⟩ | ⟨sender, -, rfl, rfl⟩
    · exact .of_frame rfl (by simp [Op.allocated, hb])
    · exact ⟨rfl, .same, .inr ⟨by simp [Op.allocated, hb], rfl⟩⟩
  | send hd v => cases h; exact .of_frame (hd.sender.send_frame _ v) rfl
  | sendOnce hd v =>
    cases h
    simp only [sendOnce]
    split_ifs <;> exact .of_frame rfl rfl
  | post e => cases h; exact .post rfl e rfl
  | deliverOutbox =>
    simp only [exec, deliverOutbox] at h
    split at h
    · cases h
    · cases h; exact .post (by rfl) _ (by rfl)
  | recv r =>
    obtain ⟨⟨v, s''⟩, hrecv, rfl⟩ := Option.map_eq_some'.mp h
    obtain ⟨q, rfl⟩ := recv_queues hrecv
    exact .of_frame rfl rfl
  | dropReceiver r | dropOnceReceiver r => cases h; exact ⟨rfl, .remove _, .inl ⟨rfl, rfl⟩⟩
  | recvOnce r =>
    simp only [exec, recvOnce] at h
    split at h
    · cases h; exact ⟨rfl, .remove _, .inl ⟨rfl, rfl⟩⟩
    · split_ifs at h <;> cases h
      exact ⟨rfl, .remove _, .inl ⟨rfl, rfl⟩⟩
  | _ => cases h; exact .of_frame rfl rfl

/-- No run changes the owner. -/
theorem run_actorId {ops : List (Op V)} (h : s.run ops = some s') : s'.actorId = s.actorId := by
  induction ops generalizing s with
  | nil => cases h; rfl
  | cons op ops ih =>
    obtain ⟨s₁, hexec, hrun⟩ := Option.bind_eq_some.mp h
    exact (ih hrun).trans (exec_callFrame hexec).actorId

end Mailbox

end Calls

end Hyperactor
