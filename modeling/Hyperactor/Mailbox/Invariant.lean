import Hyperactor.Mailbox.Split

/-!
# Invariants of every reachable mailbox

What a call can do to the one-shot channels and to the split buffers is said
once, as `Evolves s s'`, and proved of every call (`exec_evolves`): the object
counter only grows; a one-shot sender becomes held only at a freshly allocated
object, whose slot is empty; a slot changes only when its held sender is taken,
or when the slot of a fresh object is emptied; and a split buffer changes only
to one below the limit, or to the empty buffer.

Two invariants follow, for every state a run reaches from `Mailbox::new`:

* `OnceInv`: a filled slot's sender is spent, a held sender's object is
  allocated, and no object past the counter has a filled slot. A filled slot
  therefore keeps its value along every later run, and no send can reach it
  again: the receiver of a once port gets at most one value (`once_slot_kept`).
* `SplitInv`: every split buffer holds fewer updates than
  `SPLIT_MAX_BUFFER_SIZE`, when that is at least one
  (`split_buffers_below_limit`).
-/

namespace Hyperactor

namespace Mailbox

variable {V : Type} {s s' : Mailbox V}

/-- The fields `Evolves` is about. -/
def channels (s : Mailbox V) :
    Nat × Nat × (Nat → Bool) × (Nat → Option V) × (Nat → List Serialized) :=
  (s.nextObject, s.splitMaxBufferSize, s.onceSenders, s.onceSlots, s.splitBuffers)

/-- What one call does to the one-shot channels and the split buffers. -/
structure Evolves (s s' : Mailbox V) : Prop where
  objects : s.nextObject ≤ s'.nextObject
  limit : s'.splitMaxBufferSize = s.splitMaxBufferSize
  held : ∀ c, s'.onceSenders c = true →
    s.onceSenders c = true ∨ s.nextObject ≤ c ∧ c < s'.nextObject ∧ s'.onceSlots c = none
  slot : ∀ c, s'.onceSlots c ≠ s.onceSlots c →
    s.onceSenders c = true ∧ s'.onceSenders c = false ∨ s.nextObject ≤ c ∧ s'.onceSlots c = none
  buffer : ∀ b, s'.splitBuffers b = s.splitBuffers b ∨
    (s'.splitBuffers b).length < s.splitMaxBufferSize ∨ s'.splitBuffers b = []

/-! ## The effects of the primitive updates -/

theorem held_of_take {f : Nat → Bool} {c c' : Nat} (h : Function.update f c false c' = true) :
    f c' = true := by
  by_cases hc : c' = c
  · subst hc; simp at h
  · simpa [Function.update_noteq hc] using h

namespace Evolves

/-- An update that allocates objects at most, and leaves the channels and
buffers alone. -/
theorem of_frame (hobj : s.nextObject ≤ s'.nextObject)
    (hlimit : s'.splitMaxBufferSize = s.splitMaxBufferSize)
    (hsenders : s'.onceSenders = s.onceSenders) (hslots : s'.onceSlots = s.onceSlots)
    (hbuffers : s'.splitBuffers = s.splitBuffers) : Evolves s s' :=
  ⟨hobj, hlimit, fun _ h => .inl (hsenders ▸ h), fun _ h => absurd (hslots ▸ rfl) h,
    fun _ => .inl (hbuffers ▸ rfl)⟩

theorem refl : Evolves s s := of_frame le_rfl rfl rfl rfl rfl

/-- Taking a one-shot sender. -/
theorem take (c : Nat) :
    Evolves s { s with onceSenders := Function.update s.onceSenders c false } :=
  ⟨le_rfl, rfl, fun _ h => .inl (held_of_take h), fun _ h => absurd rfl h, fun _ => .inl rfl⟩

/-- Taking a held one-shot sender and filling its slot. -/
theorem fill {c : Nat} (hc : s.onceSenders c = true) (v : V) :
    Evolves s { s with onceSenders := Function.update s.onceSenders c false
                       onceSlots := Function.update s.onceSlots c (some v) } := by
  refine ⟨le_rfl, rfl, fun _ h => .inl (held_of_take h), fun c' h => .inl ?_, fun _ => .inl rfl⟩
  by_cases hcc : c' = c
  · subst hcc; simp [hc]
  · simp [Function.update_noteq hcc] at h

/-- Setting a split buffer to one below the limit, or to the empty buffer. -/
theorem setBuffer {b : Nat} {l : List Serialized} (hl : l.length < s.splitMaxBufferSize ∨ l = []) :
    Evolves s { s with splitBuffers := Function.update s.splitBuffers b l } := by
  refine ⟨le_rfl, rfl, fun c h => .inl h, fun c h => absurd rfl h, fun b' => ?_⟩
  by_cases hb : b' = b
  · subst hb; simpa using .inr hl
  · simp [Function.update_noteq hb]

/-- The states before and after may change in fields the effect does not mention. -/
theorem congr {t t' : Mailbox V} (h : Evolves s s') (ht : t.channels = s.channels)
    (ht' : t'.channels = s'.channels) : Evolves t t' := by
  simp only [channels, Prod.mk.injEq] at ht ht'
  obtain ⟨h₁, h₂, h₃, h₄, h₅⟩ := ht
  obtain ⟨h₁', h₂', h₃', h₄', h₅'⟩ := ht'
  obtain ⟨hobj, hlimit, hheld, hslot, hbuffer⟩ := h
  rw [← h₁, ← h₁'] at hobj
  rw [← h₂, ← h₂'] at hlimit
  rw [← h₁, ← h₁', ← h₃, ← h₃', ← h₄'] at hheld
  rw [← h₁, ← h₃, ← h₃', ← h₄, ← h₄'] at hslot
  rw [← h₂, ← h₅, ← h₅'] at hbuffer
  exact ⟨hobj, hlimit, hheld, hslot, hbuffer⟩

end Evolves

/-! ## Every call -/

theorem send_evolves (u : UnboundedPortSender V) (headers : Attrs) (m : V) :
    Evolves s (u.send s headers m).2 := by
  cases u with
  | mpsc c =>
    simp only [UnboundedPortSender.send]
    split <;> exact .of_frame le_rfl rfl rfl rfl rfl
  | func f =>
    cases f with
    | accumulate c accum =>
      simp only [UnboundedPortSender.send]
      split
      · exact .refl
      · split <;> exact .of_frame le_rfl rfl rfl rfl rfl
    | enqueue f => exact .refl

theorem sendOnce_evolves (o : OnceSender V) (m : V) : Evolves s (o.sendOnce s m).2 := by
  simp only [OnceSender.sendOnce]
  split_ifs with hheld
  · exact .fill hheld m
  · exact .take o.sender
  · exact .refl

theorem call_evolves (k : SplitSink) (u : Serialized) : Evolves s (k.call s u).2 := by
  cases hk : k.reducer with
  | none => rw [SplitSink.call_none hk]; exact .of_frame le_rfl rfl rfl rfl rfl
  | some r =>
    by_cases hge : s.splitMaxBufferSize ≤ (s.splitBuffers k.buffer ++ [u]).length
    · have hev := Evolves.setBuffer (s := s) (b := k.buffer) (.inr rfl)
      rw [SplitSink.call_flush hk hge]
      split
      · exact hev.congr rfl rfl
      · exact hev
    · rw [SplitSink.call_buffer hk (not_le.mp hge)]
      exact .setBuffer (.inl (not_le.mp hge))

theorem sendSerialized_evolves (b : PortBinding V) (headers : Attrs) (u : Serialized) :
    Evolves s (b.sendSerialized s headers u).2 := by
  cases b with
  | unbounded ub =>
    have hev := send_evolves (s := s) ub.sender headers
    simp only [PortBinding.sendSerialized]
    split
    · rename_i m _
      split <;> rename_i heq <;> simpa [heq] using hev m
    · exact .refl
  | once o =>
    have hev := sendOnce_evolves (s := s) o
    simp only [PortBinding.sendSerialized]
    split
    · rename_i m _
      split <;> rename_i heq <;> simpa [heq] using hev m
    · exact .refl
  | untyped ut =>
    have hev := call_evolves (s := s) ut.sender u
    simp only [PortBinding.sendSerialized]
    split <;> rename_i heq <;> simpa [heq] using hev

theorem post_evolves (e : MessageEnvelope) : Evolves s (s.post e).2 := by
  unfold post
  split_ifs
  · exact .refl
  · split
    · exact .refl
    · rename_i b _
      have hev := sendSerialized_evolves (s := s) b e.headers e.data
      simp only [MessageEnvelope.open]
      split <;> rename_i heq <;> rw [heq] at hev
      · exact hev.congr rfl rfl
      · exact hev
      · exact hev

/-- Every call evolves the channels and buffers as `Evolves` says. -/
theorem exec_evolves {op : Op V} (h : s.exec op = some s') : Evolves s s' := by
  cases op with
  | openPort ty | openAccumPort accum ty | openEnqueuePort f ty =>
    cases h; exact .of_frame (Nat.le_succ _) rfl rfl rfl rfl
  | openOncePort ty =>
    cases h
    refine ⟨Nat.le_succ _, rfl, fun c hc => ?_, fun c hc => .inr ?_, fun _ => .inl rfl⟩ <;>
      by_cases hcn : c = s.nextObject
    · subst hcn; exact .inr ⟨le_rfl, Nat.lt_succ_self _, by simp⟩
    · exact .inl (by simpa [hcn] using hc)
    · subst hcn; exact ⟨le_rfl, by simp⟩
    · simp [hcn] at hc
  | bind hd =>
    cases h
    simp only [bind]
    split
    · exact .refl
    · simp only [bindHandle]
      split <;> exact .of_frame le_rfl rfl rfl rfl rfl
  | bindTo hd j =>
    simp only [exec, bindTo] at h
    split at h <;> cases h
    exact .of_frame le_rfl rfl rfl rfl rfl
  | bindOnce hd =>
    cases h
    simp only [bindOnce]
    split
    · exact .of_frame le_rfl rfl rfl rfl rfl
    · exact .take hd.sender
  | split p red =>
    cases h
    simp only [split, allocatePort]
    split
    · exact .of_frame le_rfl rfl rfl rfl rfl
    · simp only [newObject, bindUntyped]
      have hev : Evolves s { s with
          nextPort := (s.nextPort + 1) % 2 ^ 64, nextObject := s.nextObject + 1
          splitBuffers := Function.update s.splitBuffers s.nextObject [] } :=
        ⟨Nat.le_succ _, rfl, fun c h => .inl h, fun c h => absurd rfl h,
          (Evolves.setBuffer (s := s) (b := s.nextObject) (l := []) (.inr rfl)).buffer⟩
      split <;> exact hev.congr rfl rfl
  | send hd v => cases h; exact send_evolves hd.sender _ v
  | sendOnce hd v =>
    cases h
    simp only [sendOnce]
    split_ifs with hheld
    · exact .fill (Bool.and_eq_true_iff.mp hheld).1 v
    · exact .take hd.sender
  | post e => cases h; exact post_evolves e
  | deliverOutbox =>
    simp only [exec, deliverOutbox] at h
    split at h
    · cases h
    · rename_i e rest _
      cases h
      exact (post_evolves (s := { s with outbox := rest }) e).congr rfl rfl
  | recv r =>
    obtain ⟨⟨v, s''⟩, hrecv, rfl⟩ := Option.map_eq_some'.mp h
    obtain ⟨q, rfl⟩ := recv_queues hrecv
    exact .of_frame le_rfl rfl rfl rfl rfl
  | dropOnceHandle hd => cases h; exact .take hd.sender
  | recvOnce r =>
    simp only [exec, recvOnce] at h
    split at h
    · cases h; exact .of_frame le_rfl rfl rfl rfl rfl
    · split_ifs at h <;> cases h
      exact .of_frame le_rfl rfl rfl rfl rfl
  | boundReturnHandle port ty =>
    obtain ⟨⟨o, s''⟩, hb, rfl⟩ := Option.map_eq_some'.mp h
    rcases boundReturnHandle_eq hb with ⟨-, rfl⟩ | ⟨-, -, -, rfl⟩
    · exact .refl
    · exact .of_frame (Nat.le_succ _) rfl rfl rfl rfl
  | _ => cases h; exact .of_frame le_rfl rfl rfl rfl rfl

/-! ## The invariants -/

/-- A filled slot's sender is spent, a held sender's object is allocated, and
no object past the counter has a filled slot. -/
structure OnceInv (s : Mailbox V) : Prop where
  spent : ∀ c v, s.onceSlots c = some v → s.onceSenders c = false
  held : ∀ c, s.onceSenders c = true → c < s.nextObject
  fresh : ∀ c, s.nextObject ≤ c → s.onceSlots c = none

/-- Every split buffer holds fewer updates than the limit. -/
def SplitInv (s : Mailbox V) : Prop :=
  ∀ b, (s.splitBuffers b).length < s.splitMaxBufferSize

namespace Evolves

/-- A filled slot keeps its value. -/
theorem slot_kept (h : Evolves s s') (hs : OnceInv s) {c : Nat} {v : V}
    (hv : s.onceSlots c = some v) : s'.onceSlots c = some v := by
  by_contra hne
  rcases h.slot c (by rw [hv]; exact hne) with ⟨hheld, -⟩ | ⟨hc, -⟩
  · rw [hs.spent c v hv] at hheld; cases hheld
  · rw [hs.fresh c hc] at hv; cases hv

theorem onceInv (h : Evolves s s') (hs : OnceInv s) : OnceInv s' where
  spent c v hv := by
    cases hsend : s'.onceSenders c with
    | false => rfl
    | true =>
      rcases h.held c hsend with hheld | ⟨-, -, hnone⟩
      · by_cases hsame : s'.onceSlots c = s.onceSlots c
        · rw [hsame] at hv
          rw [hs.spent c v hv] at hheld; cases hheld
        · rcases h.slot c hsame with ⟨-, hspent⟩ | ⟨-, hnone⟩
          · rw [hsend] at hspent; cases hspent
          · rw [hnone] at hv; cases hv
      · rw [hnone] at hv; cases hv
  held c hc := by
    rcases h.held c hc with hheld | ⟨-, hlt, -⟩
    · exact lt_of_lt_of_le (hs.held c hheld) h.objects
    · exact hlt
  fresh c hc := by
    have hc₀ : s.nextObject ≤ c := le_trans h.objects hc
    by_contra hne
    rcases h.slot c (by rw [hs.fresh c hc₀]; exact hne) with ⟨hheld, -⟩ | ⟨-, hnone⟩
    · exact absurd (hs.held c hheld) (not_lt.mpr hc₀)
    · exact hne hnone

theorem splitInv (h : Evolves s s') (hs : SplitInv s) : SplitInv s' := by
  intro b
  rw [h.limit]
  rcases h.buffer b with heq | hlt | hnil
  · rw [heq]; exact hs b
  · exact hlt
  · rw [hnil]; exact lt_of_le_of_lt (Nat.zero_le _) (hs b)

end Evolves

theorem new_onceInv (a : ActorId) (N : Nat) : OnceInv (Mailbox.new a N : Mailbox V) where
  spent _ _ h := by cases h
  held _ h := by cases h
  fresh _ _ := rfl

/-- Along every run the one-shot invariant holds and every filled slot keeps its value. -/
theorem run_onceInv {ops : List (Op V)} (hs : OnceInv s) (h : s.run ops = some s') :
    OnceInv s' ∧ ∀ c v, s.onceSlots c = some v → s'.onceSlots c = some v := by
  induction ops generalizing s with
  | nil => cases h; exact ⟨hs, fun _ _ hv => hv⟩
  | cons op ops ih =>
    obtain ⟨s₁, hexec, hrun⟩ := Option.bind_eq_some.mp h
    have hev := exec_evolves hexec
    obtain ⟨hinv, hkept⟩ := ih (hev.onceInv hs) hrun
    exact ⟨hinv, fun c v hv => hkept c v (hev.slot_kept hs hv)⟩

/-- Along every run the split invariant holds and the limit stays. -/
theorem run_splitInv {ops : List (Op V)} (hs : SplitInv s) (h : s.run ops = some s') :
    SplitInv s' ∧ s'.splitMaxBufferSize = s.splitMaxBufferSize := by
  induction ops generalizing s with
  | nil => cases h; exact ⟨hs, rfl⟩
  | cons op ops ih =>
    obtain ⟨s₁, hexec, hrun⟩ := Option.bind_eq_some.mp h
    have hev := exec_evolves hexec
    obtain ⟨hinv, hlimit⟩ := ih (hev.splitInv hs) hrun
    exact ⟨hinv, hlimit.trans hev.limit⟩

end Mailbox

/-! ## Reachable states -/

section Reachable

variable {V : Type}

/-- In every state a run reaches from `Mailbox::new`, a filled once slot has a
spent sender, and it keeps its value, with its sender spent, along every later
run, whatever the calls: the receiver of a once port gets at most one value. -/
theorem once_slot_kept (a : ActorId) (N : Nat) (ops ops' : List (Op V)) (s s' : Mailbox V)
    (hrun : (Mailbox.new a N).run ops = some s) (hrun' : s.run ops' = some s') (c : Nat) (v : V)
    (hv : s.onceSlots c = some v) :
    s.onceSenders c = false ∧ s'.onceSlots c = some v ∧ s'.onceSenders c = false := by
  have hs := (Mailbox.run_onceInv (Mailbox.new_onceInv a N) hrun).1
  obtain ⟨hs', hkept⟩ := Mailbox.run_onceInv hs hrun'
  exact ⟨hs.spent c v hv, hkept c v hv, hs'.spent c v (hkept c v hv)⟩

/-- A once port opened and sent to, then sent to again and posted to: the slot
keeps the first value. -/
theorem once_slot_kept_resend :
    let ty : MessageType Unit := ⟨"unit", fun _ => .ok ()⟩
    let s₀ : Mailbox Unit := Mailbox.new unknownActorId 5
    let h := (s₀.openOncePort ty).1.1
    let ops : List (Op Unit) := [.openOncePort ty, .sendOnce h ()]
    let s := ((s₀.openOncePort ty).2.sendOnce h ()).2
    let e := MessageEnvelope.newUnknown (unknownActorId.portId 1024) ⟨"unit", []⟩
    let ops' : List (Op Unit) := [.sendOnce h (), .post e]
    let s' := ((s.sendOnce h ()).2.post e).2
    s₀.run ops = some s ∧ s.run ops' = some s' ∧ s.onceSlots 0 = some () ∧
      s.onceSenders 0 = false ∧ s'.onceSlots 0 = some () ∧ s'.onceSenders 0 = false := by
  intro ty s₀ h ops s e ops' s'
  have hrun : s₀.run ops = some s := rfl
  have hrun' : s.run ops' = some s' := rfl
  have hv : s.onceSlots 0 = some () := rfl
  exact ⟨hrun, hrun', hv, once_slot_kept unknownActorId 5 ops ops' s s' hrun hrun' 0 () hv⟩

/-- In every state a run reaches from `Mailbox::new` with
`SPLIT_MAX_BUFFER_SIZE = N ≥ 1`, every split buffer holds fewer than `N`
updates. -/
theorem split_buffers_below_limit (a : ActorId) (N : Nat) (hN : 0 < N) (ops : List (Op V))
    (s : Mailbox V) (hrun : (Mailbox.new a N).run ops = some s) (b : Nat) :
    (s.splitBuffers b).length < N := by
  have hs₀ : Mailbox.SplitInv (Mailbox.new a N : Mailbox V) := fun _ => hN
  obtain ⟨hs, hlimit⟩ := Mailbox.run_splitInv hs₀ hrun
  have hb := hs b
  rwa [hlimit] at hb

/-- A split port with a concatenating reducer and `N = 2`, posted to three
times: the buffer holds the third update alone. -/
theorem split_buffers_below_limit_three :
    let r : Reducer := ⟨fun batch => .ok ⟨"u", batch.flatMap Serialized.bytes⟩, fun h => by cases h⟩
    let s₀ : Mailbox Unit := Mailbox.new unknownActorId 2
    let e := fun b => MessageEnvelope.newUnknown (unknownActorId.portId 1024) ⟨"u", [b]⟩
    let ops : List (Op Unit) := [.split (unknownActorId.portId 1) (.ok (some r)), .post (e 1),
      .post (e 2), .post (e 3)]
    let s := (((((s₀.split (unknownActorId.portId 1) (.ok (some r))).2.post (e 1)).2.post (e 2)).2.post
      (e 3))).2
    0 < 2 ∧ s₀.run ops = some s ∧ s.splitBuffers 0 = [⟨"u", [3]⟩] ∧ (s.splitBuffers 0).length < 2 := by
  intro r s₀ e ops s
  have hrun : s₀.run ops = some s := rfl
  have hbuffer : s.splitBuffers 0 = [⟨"u", [3]⟩] := by decide
  exact ⟨by decide, hrun, hbuffer, split_buffers_below_limit unknownActorId 2 (by decide) ops s hrun 0⟩

end Reachable

end Hyperactor
