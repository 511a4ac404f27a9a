import Hyperactor.Mailbox.Frame

/-!
# Port allocation and the port ids of the entries

`State::allocate_port` is a `fetch_add(1)` on a `u64` counter that `State::new`
starts at `USER_PORT_OFFSET`. Six calls take an index from it (`Op.allocated`):
`open_port`, `open_accum_port`, `open_enqueue_port`, `open_once_port`, `split`,
and `bound_return_handle` when the return port is bound.

* `allocations_eq`: along every run, the `j`-th index taken is the counter's
  starting value plus `j`, modulo `2^64`. From `Mailbox::new` the indices are
  therefore distinct, at least `USER_PORT_OFFSET` and increasing while fewer
  than `2^64 - USER_PORT_OFFSET` have been taken.
* `PortIdsAgree`: the four binding calls store at index `i` a sender whose port
  id is the owner's at `i` (`PortsStep`), so in every state a run reaches, each
  entry carries `PortId(actor_id, i)`, and the `port_id` assertion of
  `lookup_sender` never fires (`lookupSender_ok`).

Both halves make `ports_allocated_once`. A run that binds only indices the
counter has passed keeps every index at or above the counter vacant
(`Fresh`, `allocated_index_vacant`), so the index an `open_*` call allocates is
free, as the port laws of `PortRuns` and `Entries` assume.
-/

namespace Hyperactor

namespace Mailbox

variable {V : Type} {s s' : Mailbox V} {op : Op V}

/-- The indices a run takes from `allocate_port`, in order, up to a call that
does not return. -/
def allocations (s : Mailbox V) : List (Op V) → List Nat
  | [] => []
  | op :: ops =>
    match s.exec op with
    | some s' => (op.allocated s).toList ++ s'.allocations ops
    | none => []

/-! ## The indices taken -/

/-- Along every run, the `j`-th index taken is the counter's value plus `j`,
modulo `2^64`. -/
theorem allocations_eq (ops : List (Op V)) (hs : s.nextPort < 2 ^ 64) :
    ∃ k, s.allocations ops = (List.range k).map fun j => (s.nextPort + j) % 2 ^ 64 := by
  induction ops generalizing s with
  | nil => exact ⟨0, rfl⟩
  | cons op ops ih =>
    simp only [allocations]
    cases hexec : s.exec op with
    | none => exact ⟨0, rfl⟩
    | some s' =>
      dsimp only
      rcases (exec_callFrame hexec).counter with ⟨ha, hn⟩ | ⟨ha, hn⟩
      · obtain ⟨k, hk⟩ := ih (hn ▸ hs)
        exact ⟨k, by rw [ha, hk, hn]; rfl⟩
      · obtain ⟨k, hk⟩ := ih (hn ▸ Nat.mod_lt _ (Nat.two_pow_pos 64))
        refine ⟨k + 1, ?_⟩
        rw [ha, hk, hn, List.range_succ_eq_map]
        simp only [Option.toList_some, List.singleton_append, List.map_cons, List.map_map,
          Function.comp, Nat.add_zero, Nat.mod_eq_of_lt hs, Nat.mod_add_mod]
        refine congrArg _ (List.map_congr_left fun j _ => ?_)
        congr 1
        omega

/-- From `Mailbox::new`, the `j`-th index taken is `USER_PORT_OFFSET + j`
modulo `2^64`. -/
theorem allocations_new (a : ActorId) (N : Nat) (ops : List (Op V)) :
    ∃ k, (Mailbox.new a N : Mailbox V).allocations ops =
      (List.range k).map fun j => (userPortOffset + j) % 2 ^ 64 :=
  allocations_eq ops (by show userPortOffset < 2 ^ 64; decide)

/-! ## The port ids of the entries -/

/-- Every entry of the ports map carries the owner's port id at its index. -/
def PortIdsAgree (s : Mailbox V) : Prop :=
  ∀ i b, s.ports i = some b → b.portId = s.actorId.portId i

theorem new_portIdsAgree (a : ActorId) (N : Nat) : PortIdsAgree (Mailbox.new a N : Mailbox V) :=
  fun _ _ h => Option.noConfusion h

/-- A call binding only its own handles keeps the port ids in agreement. -/
theorem exec_portIdsAgree (h : s.exec op = some s') (hown : op.OwnHandle s.actorId)
    (hs : PortIdsAgree s) : PortIdsAgree s' := by
  obtain ⟨hactor, hports, -⟩ := exec_callFrame h
  intro i b hb
  rw [hactor]
  rcases hports.entry hb with hold | ⟨-, hid⟩
  · exact hs i b hold
  · exact hid hown

/-- A run binding only its own handles keeps the port ids in agreement. -/
theorem run_portIdsAgree {ops : List (Op V)} (hown : ∀ op ∈ ops, op.OwnHandle s.actorId)
    (hs : PortIdsAgree s) (h : s.run ops = some s') : PortIdsAgree s' := by
  induction ops generalizing s with
  | nil => cases h; exact hs
  | cons op ops ih =>
    obtain ⟨s₁, hexec, hrun⟩ := Option.bind_eq_some.mp h
    have hactor := (exec_callFrame hexec).actorId
    refine ih (fun op' hop' => ?_) (exec_portIdsAgree hexec (hown op (.head _)) hs) hrun
    rw [hactor]
    exact hown op' (.tail _ hop')

/-- With the port ids in agreement, the `port_id` assertion of `lookup_sender`
holds. -/
theorem lookupSender_ok (hs : PortIdsAgree s) (port : Nat) (ty : MessageType V) (e : String) :
    s.lookupSender port ty ≠ .error e := by
  unfold lookupSender
  split
  · rename_i u hu
    have hid := hs port _ hu
    split_ifs <;> simp_all [PortBinding.portId]
  · simp

/-! ## The indices above the counter -/

/-- A call, made in state `s`, binds only an index the counter has passed:
`PortHandle::bind` and `bind_once` a handle of an index already allocated, and
`bind_to` an index reserved for the actor's handlers. -/
def BindsAllocated (s : Mailbox V) : Op V → Prop
  | .bind h => h.portIndex < s.nextPort
  | .bindTo _ j => j < userPortOffset
  | .bindOnce h => h.portIndex < s.nextPort
  | _ => True

/-- Every call of a run binds only an index the counter has passed, in the state
it is made in. -/
def RunBindsAllocated : Mailbox V → List (Op V) → Prop
  | _, [] => True
  | s, op :: ops => BindsAllocated s op ∧ ∀ s', s.exec op = some s' → RunBindsAllocated s' ops

/-- The counter is past the reserved indices, and no index at or above it is bound. -/
structure Fresh (s : Mailbox V) : Prop where
  reserved : userPortOffset ≤ s.nextPort
  vacant : ∀ i, s.nextPort ≤ i → s.ports i = none

theorem new_fresh (a : ActorId) (N : Nat) : Fresh (Mailbox.new a N : Mailbox V) :=
  ⟨le_rfl, fun _ _ => rfl⟩

/-- A call that binds only below the counter, and does not wrap it, keeps the
indices above the counter vacant, and moves the counter by what it allocates. -/
theorem exec_fresh (h : s.exec op = some s') (hb : BindsAllocated s op) (hs : Fresh s)
    (hwrap : s.nextPort + (op.allocated s).toList.length < 2 ^ 64) :
    Fresh s' ∧ s'.nextPort = s.nextPort + (op.allocated s).toList.length := by
  obtain ⟨-, hports, hcounter⟩ := exec_callFrame h
  have hnext : s'.nextPort = s.nextPort + (op.allocated s).toList.length := by
    rcases hcounter with ⟨ha, hn⟩ | ⟨ha, hn⟩
    · rw [ha, hn]; rfl
    · rw [ha] at hwrap ⊢
      exact hn.trans (Nat.mod_eq_of_lt hwrap)
  refine ⟨⟨hnext ▸ hs.reserved.trans (Nat.le_add_right _ _), fun i hi => ?_⟩, hnext⟩
  cases hp : s'.ports i with
  | none => rfl
  | some b =>
    exfalso
    rcases hports.entry hp with hold | ⟨hins, -⟩
    · rw [hs.vacant i (by omega)] at hold
      cases hold
    · have hr := hs.reserved
      cases op with
      | bind hd | bindOnce hd =>
        simp only [Op.Installs, BindsAllocated] at hins hb
        omega
      | bindTo hd j =>
        simp only [Op.Installs, BindsAllocated, userPortOffset] at hins hb hr
        omega
      | split p red =>
        simp only [Op.Installs, Op.allocated, Option.toList_some, List.length_singleton] at hins hnext
        omega
      | _ => exact hins

/-- Along a run that binds only below the counter and does not wrap it, the
indices above the counter stay vacant, and the counter moves by the number of
indices taken. -/
theorem run_fresh {ops : List (Op V)} (hs : Fresh s) (hb : RunBindsAllocated s ops)
    (hrun : s.run ops = some s') (hwrap : s.nextPort + (s.allocations ops).length < 2 ^ 64) :
    Fresh s' ∧ s'.nextPort = s.nextPort + (s.allocations ops).length := by
  induction ops generalizing s with
  | nil => cases hrun; exact ⟨hs, rfl⟩
  | cons op ops ih =>
    obtain ⟨s₁, hexec, hrun⟩ := Option.bind_eq_some.mp hrun
    simp only [allocations, hexec, List.length_append] at hwrap ⊢
    obtain ⟨hs₁, hnext₁⟩ := exec_fresh hexec hb.1 hs (by omega)
    obtain ⟨hs', hnext'⟩ := ih hs₁ (hb.2 s₁ hexec) hrun (by omega)
    exact ⟨hs', by omega⟩

end Mailbox

/-- Along every run from `Mailbox::new`, while fewer than
`2^64 - USER_PORT_OFFSET` indices have been taken, the indices `allocate_port`
hands out are distinct, at least `USER_PORT_OFFSET`, and increasing; and in
every state the run reaches, when it binds only once handles of this mailbox,
every entry at index `i` carries `PortId(actor_id, i)`, so `lookup_sender`
never panics. -/
theorem ports_allocated_once {V : Type} (a : ActorId) (N : Nat) (ops : List (Op V)) :
    let allocs := (Mailbox.new a N : Mailbox V).allocations ops
    (allocs.length < 2 ^ 64 - userPortOffset →
      allocs.Nodup ∧ (∀ i ∈ allocs, userPortOffset ≤ i) ∧ allocs.Pairwise (· < ·)) ∧
    ∀ s, (Mailbox.new a N).run ops = some s → (∀ op ∈ ops, op.OwnHandle a) →
      (∀ i b, s.ports i = some b → b.portId = a.portId i) ∧
      ∀ port ty e, s.lookupSender port ty ≠ .error e := by
  intro allocs
  refine ⟨fun hlen => ?_, fun s hrun hown => ?_⟩
  · obtain ⟨k, hk⟩ := Mailbox.allocations_eq (s := (Mailbox.new a N : Mailbox V)) ops
      (by show userPortOffset < 2 ^ 64; decide)
    replace hk : allocs = (List.range k).map fun j => (userPortOffset + j) % 2 ^ 64 := hk
    have hrange : allocs = List.range' userPortOffset k := by
      have hklen : k < 2 ^ 64 - userPortOffset := by simpa [hk] using hlen
      rw [hk, List.range'_eq_map_range]
      refine List.map_congr_left fun j hj => Nat.mod_eq_of_lt ?_
      have := List.mem_range.mp hj
      simp only [userPortOffset] at hklen ⊢
      omega
    rw [hrange]
    exact ⟨List.nodup_range' _ _, fun i hi => (List.mem_range'_1.mp hi).1, List.pairwise_lt_range' _ _⟩
  · have hs := Mailbox.run_portIdsAgree hown (Mailbox.new_portIdsAgree a N) hrun
    have hactor : s.actorId = a := Mailbox.run_actorId hrun
    exact ⟨hactor ▸ hs, Mailbox.lookupSender_ok hs⟩

/-- A run that opens a port, binds its handle at the reserved index `7`, takes a
return handle on that binding, and opens and binds a once port: the indices
taken are `1024`, `1025` and `1026`, and every entry carries its own port id. -/
theorem ports_allocated_once_return_handle :
    let a := unknownActorId
    let ty : MessageType Unit := ⟨"unit", fun _ => .ok ()⟩
    let ops : List (Op Unit) := [.openPort ty, .bindTo ⟨1024, .mpsc 0, ty, 0, none⟩ 7,
      .boundReturnHandle 7 ty, .openOncePort ty, .bindOnce ⟨1026, a.portId 1026, 2, ty⟩]
    let allocs := (Mailbox.new a 5 : Mailbox Unit).allocations ops
    allocs = [1024, 1025, 1026] ∧ allocs.length < 2 ^ 64 - userPortOffset ∧
      (allocs.Nodup ∧ (∀ i ∈ allocs, userPortOffset ≤ i) ∧ allocs.Pairwise (· < ·)) ∧
      ∃ s, (Mailbox.new a 5).run ops = some s ∧ (∀ op ∈ ops, op.OwnHandle a) ∧
        (∀ i b, s.ports i = some b → b.portId = a.portId i) ∧
        ∀ port ty e, s.lookupSender port ty ≠ .error e := by
  intro a ty ops allocs
  have hallocs : allocs = [1024, 1025, 1026] := rfl
  have hlen : allocs.length < 2 ^ 64 - userPortOffset := by rw [hallocs]; decide
  have hown : ∀ op ∈ ops, op.OwnHandle a := by
    intro op hop
    simp only [ops, List.mem_cons, List.mem_singleton, List.not_mem_nil, or_false] at hop
    rcases hop with rfl | rfl | rfl | rfl | rfl <;> first | exact True.intro | rfl
  exact ⟨hallocs, hlen, (ports_allocated_once a 5 ops).1 hlen, _, rfl, hown,
    (ports_allocated_once a 5 ops).2 _ rfl hown⟩

/-- In every state a run reaches from `Mailbox::new`, when it takes fewer than
`2^64 - USER_PORT_OFFSET` indices, binds with `bind_to` only reserved indices and
with `PortHandle::bind` and `bind_once` only handles of indices already
allocated: the counter is `USER_PORT_OFFSET` plus the number of indices taken,
and every index at or above it is vacant, so the next `open_*` call allocates a
vacant index. -/
theorem allocated_index_vacant {V : Type} (a : ActorId) (N : Nat) (ops : List (Op V))
    (s : Mailbox V) (hrun : (Mailbox.new a N).run ops = some s)
    (hbinds : Mailbox.RunBindsAllocated (Mailbox.new a N) ops)
    (hlen : ((Mailbox.new a N : Mailbox V).allocations ops).length < 2 ^ 64 - userPortOffset) :
    s.nextPort = userPortOffset + ((Mailbox.new a N : Mailbox V).allocations ops).length ∧
      ∀ i, s.nextPort ≤ i → s.ports i = none := by
  have hwrap : (Mailbox.new a N : Mailbox V).nextPort +
      ((Mailbox.new a N : Mailbox V).allocations ops).length < 2 ^ 64 := by
    show userPortOffset + _ < 2 ^ 64
    simp only [userPortOffset] at hlen ⊢
    omega
  obtain ⟨hs, hnext⟩ := Mailbox.run_fresh (Mailbox.new_fresh a N) hbinds hrun hwrap
  exact ⟨hnext, hs.vacant⟩

/-- A run that opens a port, binds it and its handle's sender at the reserved
index `7`, and opens and binds a once port: the counter stands at `1026`, past
the two bound indices, and every index from it on is vacant. -/
theorem allocated_index_vacant_bound :
    let a := unknownActorId
    let ty : MessageType Unit := ⟨"unit", fun _ => .ok ()⟩
    let h : PortHandle Unit := ⟨1024, .mpsc 0, ty, 0, none⟩
    let ops : List (Op Unit) :=
      [.openPort ty, .bind h, .bindTo h 7, .openOncePort ty, .bindOnce ⟨1025, a.portId 1025, 1, ty⟩]
    ∃ s, (Mailbox.new a 5).run ops = some s ∧ (s.ports 1024).isSome ∧ (s.ports 1025).isSome ∧
      s.nextPort = 1026 ∧ ∀ i, s.nextPort ≤ i → s.ports i = none := by
  intro a ty h ops
  have hallocs : (Mailbox.new a 5 : Mailbox Unit).allocations ops = [1024, 1025] := by decide
  have hbinds : Mailbox.RunBindsAllocated (Mailbox.new a 5) ops :=
    ⟨trivial, fun _ h₁ => by
      cases h₁
      refine ⟨by simp only [Mailbox.BindsAllocated]; decide, fun _ h₂ => ?_⟩
      cases h₂
      refine ⟨by simp only [Mailbox.BindsAllocated]; decide, fun _ h₃ => ?_⟩
      cases h₃
      refine ⟨trivial, fun _ h₄ => ?_⟩
      cases h₄
      exact ⟨by simp only [Mailbox.BindsAllocated]; decide, fun _ _ => trivial⟩⟩
  obtain ⟨hnext, hvac⟩ :=
    allocated_index_vacant a 5 ops _ rfl hbinds (by rw [hallocs]; decide)
  exact ⟨_, rfl, rfl, rfl, hnext.trans (by rw [hallocs]; rfl), hvac⟩

end Hyperactor
