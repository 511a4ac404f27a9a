import Hyperactor.Mailbox.DialCache

/-!
# The dial router under concurrent callers

`DialMailboxRouter` is shared, and its callers post, bind and unbind
concurrently. `bind` and `unbind` hold the address book's write lock for their
whole body, the cache removals they make included; `lookup_addr` holds the read
lock for the lookup only; `dial` holds the cache entry of its address (its
`DashMap` shard) from the check to the insert, `channel::dial` included. So a
post is two steps, its lookup and its dial, and each cache removal of a writer
is a step of its own (`DialEvent`, `SharedDialRouter.step`).

* `shared_dial_once`: over every interleaving, when `channel::dial` succeeds for
  `a`, the dials of `a` and the evictions of its client balance as along
  sequential runs, so however many posts race for `a`, it is dialed at most once
  between two evictions.
* `run_shared`: a sequential run of calls is the interleaving in which the steps
  of each call are adjacent (`schedule`); it ends in the router the sequential
  run ends in, and makes the same dials.

The lookup and the dial of a post are not one step: an `unbind` that comes
between them evicts the address before the post dials it and caches the client
again. The cache then holds a client for an address no reference is bound to
(`shared_dial_once_race`), a state no sequential run reaches
(`dial_cache_bound`). That race is the only way to a stale client:
* `exclusive_cache_bound`: along every interleaving in which no `bind` or
  `unbind` takes the lock while a post is between its lookup and its dial
  (`Exclusive`), posts racing one another included, the cache holds no stale
  client whenever the lock is free (`SharedDialRouter.CacheBound`).
-/

namespace Hyperactor

namespace DialMailboxRouter

/-- The book half of `bind`, made under the write lock: the new book, and the
addresses `bind` then evicts from the cache. -/
def bindBook (r : DialMailboxRouter) (dest : Reference) (addr : ChannelAddr) :
    BTreeMap Reference ChannelAddr × List ChannelAddr :=
  let (old, addressBook) := r.addressBook.insert dest addr
  (addressBook, match old with
    | some oldAddr => if oldAddr ≠ addr then [oldAddr] else []
    | none => [])

/-- The book half of `unbind`: the book without the keys it collects, and their
addresses, which `unbind` then evicts from the cache. -/
def unbindBook (r : DialMailboxRouter) (dest : Reference) :
    BTreeMap Reference ChannelAddr × List ChannelAddr :=
  ((r.unbindScan dest).foldl (fun book e => book.remove e.1) r.addressBook,
    (r.unbindScan dest).map Prod.snd)

/-- `sender_cache.remove(&addr)`. -/
def evictAddr (r : DialMailboxRouter) (addr : ChannelAddr) : DialMailboxRouter :=
  { r with senderCache := Function.update r.senderCache addr none }

/-- `bind` is its book half followed by its cache removals. -/
theorem bind_eq_bindBook (r : DialMailboxRouter) (dest : Reference) (addr : ChannelAddr) :
    r.bind dest addr = (r.bindBook dest addr).2.foldl evictAddr
      { r with addressBook := (r.bindBook dest addr).1 } := by
  simp only [bind, bindBook, BTreeMap.insert]
  cases r.addressBook.get dest with
  | none => rfl
  | some old => by_cases h : old = addr <;> simp [h, evictAddr]

/-- `unbind` is its book half followed by its cache removals: the removals of
the book and of the cache commute. -/
theorem foldl_evict_eq (l : List (Reference × ChannelAddr)) (r : DialMailboxRouter) :
    l.foldl evict r = (l.map Prod.snd).foldl evictAddr
      { r with addressBook := l.foldl (fun book e => book.remove e.1) r.addressBook } := by
  induction l generalizing r with
  | nil => rfl
  | cons e l ih => exact ih (evict r e)

theorem foldl_evictAddr_addressBook (l : List ChannelAddr) (r : DialMailboxRouter) :
    (l.foldl evictAddr r).addressBook = r.addressBook := by
  induction l generalizing r with
  | nil => rfl
  | cons a l ih => exact ih _

/-- `dial` leaves the book, and caches at most the client `channel::dial`
gives for its own address. -/
theorem dial_senderCache {channelDial : ChannelAddr → Except String MailboxClient}
    {r : DialMailboxRouter} {addr x : ChannelAddr} {actorId : ActorId} {c : MailboxClient}
    (h : (r.dial channelDial addr actorId).2.1.senderCache x = some c) :
    r.senderCache x = some c ∨ x = addr ∧ channelDial addr = .ok c := by
  unfold dial at h
  cases hc : r.senderCache addr with
  | some _ => rw [hc] at h; exact .inl h
  | none =>
    rw [hc] at h
    cases hd : channelDial addr with
    | error _ => rw [hd] at h; exact .inl h
    | ok client =>
      rw [hd] at h
      by_cases hx : x = addr
      · subst hx
        cases (Function.update_same x (some client) r.senderCache).symm.trans h
        exact .inr ⟨rfl, rfl⟩
      · exact .inl ((Function.update_noteq hx _ _).symm.trans h)

theorem dial_addressBook (channelDial : ChannelAddr → Except String MailboxClient)
    (r : DialMailboxRouter) (addr : ChannelAddr) (actorId : ActorId) :
    (r.dial channelDial addr actorId).2.1.addressBook = r.addressBook := by
  unfold dial
  split
  · rfl
  · split <;> rfl

variable {r : DialMailboxRouter} {dest k : Reference} {addr x : ChannelAddr}

/-- An address bound before the book half of `bind` is bound after it, or is
the one `bind` evicts. -/
theorem bindBook_bound (hk : (k, x) ∈ r.addressBook.entries) :
    (∃ k', (k', x) ∈ (r.bindBook dest addr).1.entries) ∨ x ∈ (r.bindBook dest addr).2 := by
  by_cases hkd : k = dest
  · subst hkd
    by_cases hxa : x = addr
    · subst hxa
      exact .inl ⟨k, BTreeMap.mem_insert.mpr (.inl rfl)⟩
    · right
      simp [bindBook, BTreeMap.insert, BTreeMap.get_eq_some.mpr hk, hxa]
  · exact .inl ⟨k, BTreeMap.mem_insert.mpr (.inr ⟨hk, hkd⟩)⟩

/-- An address bound before the book half of `unbind` is bound after it, or is
one `unbind` evicts. -/
theorem unbindBook_bound (hk : (k, x) ∈ r.addressBook.entries) :
    (∃ k', (k', x) ∈ (r.unbindBook dest).1.entries) ∨ x ∈ (r.unbindBook dest).2 := by
  by_cases hscan : ∃ e' ∈ r.unbindScan dest, k = e'.1
  · obtain ⟨e', he', hke⟩ := hscan
    have he'book : e' ∈ r.addressBook.entries := by
      rw [unbind_scan_eq_filter] at he'
      exact (List.mem_filter.mp he').1
    cases BTreeMap.eq_of_key_eq hk he'book hke
    exact .inr (List.mem_map_of_mem Prod.snd he')
  · push_neg at hscan
    refine .inl ⟨k, ?_⟩
    have hmem := ((foldl_evict (r.unbindScan dest) r).1 (k, x)).mpr ⟨hk, hscan⟩
    rwa [foldl_evict_eq, foldl_evictAddr_addressBook] at hmem

end DialMailboxRouter

/-- A step of a caller of a shared dial router. -/
inductive DialEvent where
  /-- Caller `t` posts `envelope`: `lookup_addr`, under the read lock. -/
  | lookup (t : Nat) (envelope : MessageEnvelope)
  /-- Caller `t`'s post dials the address it looked up, holding its cache entry. -/
  | dial (t : Nat)
  /-- The book half of `bind`, under the write lock. -/
  | bind (dest : Reference) (addr : ChannelAddr)
  /-- The book half of `unbind`, under the write lock. -/
  | unbind (dest : Reference)
  /-- The writer's next `sender_cache.remove`, or its release of the write lock. -/
  | evict

/-- A step that takes the write lock: the book half of `bind` or `unbind`. -/
def DialEvent.writes : DialEvent → Bool
  | .bind .. | .unbind .. => true
  | _ => false

/-- A dial router shared by concurrent callers. -/
structure SharedDialRouter where
  router : DialMailboxRouter
  /-- The cache removals left to the `bind` or `unbind` holding the write lock;
  `none` when the lock is free. -/
  writer : Option (List ChannelAddr)
  /-- Each caller's post between its lookup and its dial, with the address it found. -/
  pending : Nat → Option (MessageEnvelope × ChannelAddr)

namespace SharedDialRouter

variable (channelDial : ChannelAddr → Except String MailboxClient)

/-- A router no caller is using. -/
def idle (r : DialMailboxRouter) : SharedDialRouter := ⟨r, none, fun _ => none⟩

/-- One step; `none` when it cannot be taken: a lookup and a writer wait for the
write lock, a caller makes one post at a time, and a dial needs a looked-up post. -/
def step (w : SharedDialRouter) : DialEvent → Option SharedDialRouter
  | .lookup t e => match w.writer, w.pending t with
    | none, none => some (match w.router.lookupAddr e.dest.actorId with
      | none => w
      | some addr => { w with pending := Function.update w.pending t (some (e, addr)) })
    | _, _ => none
  | .dial t => match w.pending t with
    | some (e, addr) => some { w with
        router := (w.router.dial channelDial addr e.dest.actorId).2.1
        pending := Function.update w.pending t none }
    | none => none
  | .bind dest addr => match w.writer with
    | none => some { w with
        router := { w.router with addressBook := (w.router.bindBook dest addr).1 }
        writer := some (w.router.bindBook dest addr).2 }
    | some _ => none
  | .unbind dest => match w.writer with
    | none => some { w with
        router := { w.router with addressBook := (w.router.unbindBook dest).1 }
        writer := some (w.router.unbindBook dest).2 }
    | some _ => none
  | .evict => match w.writer with
    | some (addr :: rest) => some { w with router := w.router.evictAddr addr, writer := some rest }
    | some [] => some { w with writer := none }
    | none => none

/-- A run of steps; `none` when one cannot be taken. -/
def run (w : SharedDialRouter) : List DialEvent → Option SharedDialRouter
  | [] => some w
  | ev :: evs => (w.step channelDial ev).bind fun w => w.run evs

/-- The `channel::dial` calls of a step: those its `dial` reports. -/
def dialCalls (w : SharedDialRouter) : DialEvent → List ChannelAddr
  | .dial t => match w.pending t with
    | some (e, addr) => (w.router.dial channelDial addr e.dest.actorId).2.2
    | none => []
  | _ => []

/-- The `channel::dial` calls of a run, in order, up to a step that cannot be taken. -/
def dials (w : SharedDialRouter) : List DialEvent → List ChannelAddr
  | [] => []
  | ev :: evs => match w.step channelDial ev with
    | some w' => w.dialCalls channelDial ev ++ w'.dials evs
    | none => []

/-- How many steps of a run evict the cached client of `a`. -/
def evictions (a : ChannelAddr) (w : SharedDialRouter) : List DialEvent → Nat
  | [] => 0
  | ev :: evs => match w.step channelDial ev with
    | some w' =>
      ((w.router.senderCache a).isSome && (w'.router.senderCache a).isNone).toNat +
        w'.evictions a evs
    | none => 0

/-! ## The dials of `a` balance its evictions -/

variable {channelDial} {w w' : SharedDialRouter} {a : ChannelAddr} {ev : DialEvent}

/-- What `dial` does to the cache entry of `a`, when `channel::dial` succeeds
for `a`: it dials nothing for `a` and leaves the entry, or it dials `a` once on
an empty entry and fills it. -/
theorem dial_cacheAt (hdial : ∃ c, channelDial a = .ok c) (r : DialMailboxRouter)
    (addr : ChannelAddr) (actorId : ActorId) :
    (r.dial channelDial addr actorId).2.2.count a = 0 ∧
      (r.dial channelDial addr actorId).2.1.senderCache a = r.senderCache a ∨
    (r.dial channelDial addr actorId).2.2.count a = 1 ∧ r.senderCache a = none ∧
      ((r.dial channelDial addr actorId).2.1.senderCache a).isSome := by
  rw [DialMailboxRouter.dial_dialed]
  unfold DialMailboxRouter.dial
  cases hc : r.senderCache addr with
  | some c => exact .inl ⟨rfl, rfl⟩
  | none =>
    simp only [Option.isNone_none, if_true]
    by_cases haddr : addr = a
    · subst haddr
      obtain ⟨c, hc'⟩ := hdial
      rw [hc']
      exact .inr ⟨List.count_singleton_self _, hc, by simp⟩
    · refine .inl ⟨List.count_eq_zero_of_not_mem (by simpa using Ne.symm haddr), ?_⟩
      cases channelDial addr
      · rfl
      · exact Function.update_noteq (Ne.symm haddr) _ _

/-- What one step does to the cache entry of `a`, when `channel::dial` succeeds
for `a`: it dials nothing for `a` and clears the entry or leaves it, or it dials
`a` once on an empty entry and fills it. -/
theorem step_cacheAt (hdial : ∃ c, channelDial a = .ok c) (h : w.step channelDial ev = some w') :
    (w.dialCalls channelDial ev).count a = 0 ∧
      (w'.router.senderCache a = w.router.senderCache a ∨ w'.router.senderCache a = none) ∨
    (w.dialCalls channelDial ev).count a = 1 ∧ w.router.senderCache a = none ∧ (w'.router.senderCache a).isSome := by
  cases ev with
  | lookup t e =>
    simp only [step] at h
    split at h
    · cases h
      exact .inl ⟨rfl, .inl (by split <;> rfl)⟩
    · cases h
  | dial t =>
    simp only [step] at h
    split at h
    · rename_i e addr hp
      cases h
      simp only [dialCalls, hp]
      rcases dial_cacheAt hdial w.router addr e.dest.actorId with ⟨h0, heq⟩ | h1
      · exact .inl ⟨h0, .inl heq⟩
      · exact .inr h1
    · cases h
  | bind dest addr | unbind dest =>
    simp only [step] at h
    split at h <;> cases h
    exact .inl ⟨rfl, .inl rfl⟩
  | evict =>
    simp only [step] at h
    split at h <;> cases h
    · rename_i addr rest _
      by_cases haddr : addr = a
      · subst haddr
        exact .inl ⟨rfl, .inr (Function.update_same _ _ _)⟩
      · exact .inl ⟨rfl, .inl (Function.update_noteq (Ne.symm haddr) _ _)⟩
    · exact .inl ⟨rfl, .inl rfl⟩

/-- Each step balances the dials of `a` against the evictions of its client. -/
theorem step_dials_balance (hdial : ∃ c, channelDial a = .ok c) (h : w.step channelDial ev = some w') :
    (w.dialCalls channelDial ev).count a + (w.router.senderCache a).isSome.toNat =
      ((w.router.senderCache a).isSome && (w'.router.senderCache a).isNone).toNat +
        (w'.router.senderCache a).isSome.toNat := by
  rcases step_cacheAt hdial h with ⟨h0, heq | hnone⟩ | ⟨h1, hnone, hsome⟩
  · rw [h0, heq]; cases w.router.senderCache a <;> rfl
  · rw [h0, hnone]; cases w.router.senderCache a <;> rfl
  · rw [h1, hnone, hsome]; rfl

/-- Along every interleaving, the dials of `a` plus whether `a` is cached at the
start equal its evictions plus whether it is cached at the end. -/
theorem run_dials_balance (hdial : ∃ c, channelDial a = .ok c) {evs : List DialEvent}
    (h : w.run channelDial evs = some w') :
    (w.dials channelDial evs).count a + (w.router.senderCache a).isSome.toNat =
      w.evictions channelDial a evs + (w'.router.senderCache a).isSome.toNat := by
  induction evs generalizing w with
  | nil => cases h; rfl
  | cons ev evs ih =>
    obtain ⟨w₁, hstep, hrun⟩ := Option.bind_eq_some.mp h
    have hbal := step_dials_balance hdial hstep
    have hrest := ih hrun
    simp only [dials, evictions, hstep, List.count_append] at hrest ⊢
    omega

/-! ## Sequential runs -/

variable (channelDial)

/-- The steps of one call, back to back, caller `t` making the post. -/
def events (r : DialMailboxRouter) (t : Nat) : RouterOp → List DialEvent
  | .bind dest addr => .bind dest addr :: List.replicate ((r.bindBook dest addr).2.length + 1) .evict
  | .unbind dest => .unbind dest :: List.replicate ((r.unbindBook dest).2.length + 1) .evict
  | .post e => match r.lookupAddr e.dest.actorId with
    | none => [.lookup t e]
    | some _ => [.lookup t e, .dial t]

/-- A sequential run as an interleaving: the steps of each call back to back. -/
def schedule (t : Nat) : DialMailboxRouter → List RouterOp → List DialEvent
  | _, [] => []
  | r, op :: ops => events r t op ++ schedule t (r.exec channelDial op) ops

variable {channelDial}

theorem run_append (w : SharedDialRouter) (evs₁ evs₂ : List DialEvent) :
    w.run channelDial (evs₁ ++ evs₂) = (w.run channelDial evs₁).bind fun w => w.run channelDial evs₂ := by
  induction evs₁ generalizing w with
  | nil => rfl
  | cons ev evs ih =>
    simp only [List.cons_append, run]
    cases w.step channelDial ev with
    | none => rfl
    | some w₁ => exact ih w₁

theorem run_cons_step (h : w.step channelDial ev = some w') (evs : List DialEvent) :
    w.run channelDial (ev :: evs) = w'.run channelDial evs := by
  rw [run, h, Option.some_bind]

theorem dials_cons_step (h : w.step channelDial ev = some w') (evs : List DialEvent) :
    w.dials channelDial (ev :: evs) = w.dialCalls channelDial ev ++ w'.dials channelDial evs := by
  rw [dials, h]

theorem dials_append {evs₁ : List DialEvent} (h : w.run channelDial evs₁ = some w') (evs₂ : List DialEvent) :
    w.dials channelDial (evs₁ ++ evs₂) = w.dials channelDial evs₁ ++ w'.dials channelDial evs₂ := by
  induction evs₁ generalizing w with
  | nil => cases h; rfl
  | cons ev evs ih =>
    obtain ⟨w₁, hstep, hrun⟩ := Option.bind_eq_some.mp h
    rw [List.cons_append, dials_cons_step hstep, dials_cons_step hstep, ih hrun, List.append_assoc]

/-- The writer's cache removals, then its release of the lock. -/
theorem run_evicts (r : DialMailboxRouter) (l : List ChannelAddr)
    (p : Nat → Option (MessageEnvelope × ChannelAddr)) :
    (⟨r, some l, p⟩ : SharedDialRouter).run channelDial (List.replicate (l.length + 1) .evict) =
      some ⟨l.foldl DialMailboxRouter.evictAddr r, none, p⟩ ∧
    (⟨r, some l, p⟩ : SharedDialRouter).dials channelDial (List.replicate (l.length + 1) .evict) = [] := by
  induction l generalizing r with
  | nil => exact ⟨rfl, rfl⟩
  | cons x l ih =>
    have hstep : (⟨r, some (x :: l), p⟩ : SharedDialRouter).step channelDial .evict =
        some ⟨r.evictAddr x, some l, p⟩ := rfl
    rw [List.length_cons, List.replicate_succ, run_cons_step hstep, dials_cons_step hstep]
    exact ⟨(ih _).1, by rw [(ih _).2]; rfl⟩

/-- The steps of one call, made from an idle router, end idle in the router the
call leaves, and make the call's dials. -/
theorem run_events (r : DialMailboxRouter) (t : Nat) (op : RouterOp) :
    (idle r).run channelDial (events r t op) = some (idle (r.exec channelDial op)) ∧
      (idle r).dials channelDial (events r t op) = r.opDialCalls channelDial op := by
  cases op with
  | bind dest addr =>
    have hstep : (idle r).step channelDial (.bind dest addr) = some
        ⟨{ r with addressBook := (r.bindBook dest addr).1 }, some (r.bindBook dest addr).2, fun _ => none⟩ :=
      rfl
    obtain ⟨hrun, hdials⟩ := @run_evicts channelDial
      { r with addressBook := (r.bindBook dest addr).1 } (r.bindBook dest addr).2 fun _ => none
    rw [events, run_cons_step hstep, hrun, dials_cons_step hstep, hdials, DialMailboxRouter.exec,
      DialMailboxRouter.bind_eq_bindBook]
    exact ⟨rfl, rfl⟩
  | unbind dest =>
    have hstep : (idle r).step channelDial (.unbind dest) = some
        ⟨{ r with addressBook := (r.unbindBook dest).1 }, some (r.unbindBook dest).2, fun _ => none⟩ :=
      rfl
    obtain ⟨hrun, hdials⟩ := @run_evicts channelDial
      { r with addressBook := (r.unbindBook dest).1 } (r.unbindBook dest).2 fun _ => none
    rw [events, run_cons_step hstep, hrun, dials_cons_step hstep, hdials, DialMailboxRouter.exec,
      DialMailboxRouter.unbind, DialMailboxRouter.foldl_evict_eq]
    exact ⟨rfl, rfl⟩
  | post e =>
    simp only [events, DialMailboxRouter.exec, DialMailboxRouter.opDialCalls,
      DialMailboxRouter.postDialCalls, DialMailboxRouter.post, DialMailboxRouter.postDialing_snd]
    cases hl : r.lookupAddr e.dest.actorId with
    | none => exact ⟨by simp [run, step, idle, hl], by simp [dials, step, idle, hl, dialCalls]⟩
    | some addr =>
      have hp : Function.update (Function.update (fun _ => none) t (some (e, addr))) t none =
          fun (_ : Nat) => (none : Option (MessageEnvelope × ChannelAddr)) := by
        simp
      exact ⟨by simp only [run, step, idle, hl, Function.update_same, Option.some_bind, hp],
        by simp [dials, step, idle, hl, dialCalls]⟩

/-- A sequential run, made as the interleaving in which the steps of each call
are adjacent, ends idle in the router the sequential run ends in, and makes the
same dials. -/
theorem run_shared (t : Nat) (r : DialMailboxRouter) (ops : List RouterOp) :
    (idle r).run channelDial (schedule channelDial t r ops) = some (idle (r.run channelDial ops)) ∧
      (idle r).dials channelDial (schedule channelDial t r ops) = r.dials channelDial ops := by
  induction ops generalizing r with
  | nil => exact ⟨rfl, rfl⟩
  | cons op ops ih =>
    obtain ⟨hrun, hdials⟩ := @run_events channelDial r t op
    obtain ⟨hrun', hdials'⟩ := ih (r.exec channelDial op)
    refine ⟨?_, ?_⟩
    · rw [schedule, run_append, hrun, Option.some_bind, hrun']; rfl
    · rw [schedule, dials_append hrun, hdials, hdials']; rfl

/-! ## Posts racing posts keep the cache bound -/

variable (channelDial)

/-- The cache invariant of a shared router: every cached client is the one
`channel::dial` gives for its address, and that address is bound in the book or
still to be evicted by the writer holding the lock; and a post between its
lookup and its dial holds an address bound in the book, with the lock free. -/
structure CacheBound (w : SharedDialRouter) : Prop where
  cached : ∀ x c, w.router.senderCache x = some c → channelDial x = .ok c ∧
    ((∃ k, (k, x) ∈ w.router.addressBook.entries) ∨ x ∈ w.writer.getD [])
  pending : ∀ t e x, w.pending t = some (e, x) →
    w.writer = none ∧ ∃ k, (k, x) ∈ w.router.addressBook.entries

/-- No `bind` or `unbind` of the run takes the write lock while a post is
between its lookup and its dial. -/
def Exclusive (w : SharedDialRouter) : List DialEvent → Prop
  | [] => True
  | ev :: evs => (ev.writes = true → ∀ t, w.pending t = none) ∧
      ∀ w', w.step channelDial ev = some w' → w'.Exclusive evs

variable {channelDial}

theorem idle_cacheBound {r : DialMailboxRouter} (h : DialMailboxRouter.CacheBound channelDial r) :
    (idle r).CacheBound channelDial :=
  ⟨fun x c hc => ⟨(h x c hc).1, .inl (h x c hc).2⟩, fun _ _ _ hp => Option.noConfusion hp⟩

/-- Every step keeps the cache bound, a writer's taking the lock when no post
is pending: a post looks up a bound address and, the lock being free until its
dial, the address stays bound; a writer's book half leaves every cached address
bound or in its list of removals, and each removal clears its address. -/
theorem step_cacheBound (h : w.CacheBound channelDial) (hex : ev.writes = true → ∀ t, w.pending t = none)
    (hs : w.step channelDial ev = some w') : w'.CacheBound channelDial := by
  cases ev with
  | lookup t e =>
    simp only [step] at hs
    split at hs
    · rename_i hw _
      cases hs
      split
      · exact h
      · rename_i addr hl
        refine ⟨h.cached, fun t' e' x hp => ?_⟩
        by_cases ht : t' = t
        · subst ht
          cases (Function.update_same t' _ w.pending).symm.trans hp
          obtain ⟨k, hk, -⟩ := prefixLookup_eq_some.mp hl
          exact ⟨hw, k, hk⟩
        · exact h.pending t' e' x ((Function.update_noteq ht _ _).symm.trans hp)
    · cases hs
  | dial t =>
    simp only [step] at hs
    split at hs
    · rename_i e addr hp
      cases hs
      obtain ⟨hw, kaddr, hkaddr⟩ := h.pending t e addr hp
      refine ⟨fun x c hc => ?_, fun t' e' x hp' => ?_⟩
      · dsimp only at hc ⊢
        rw [DialMailboxRouter.dial_addressBook]
        rcases DialMailboxRouter.dial_senderCache hc with hc | ⟨rfl, hd⟩
        · exact h.cached x c hc
        · exact ⟨hd, .inl ⟨kaddr, hkaddr⟩⟩
      · dsimp only at hp' ⊢
        rw [DialMailboxRouter.dial_addressBook]
        by_cases ht : t' = t
        · subst ht
          exact Option.noConfusion ((Function.update_same t' _ w.pending).symm.trans hp')
        · exact h.pending t' e' x ((Function.update_noteq ht _ _).symm.trans hp')
    · cases hs
  | bind dest addr =>
    simp only [step] at hs
    split at hs
    · rename_i hw
      cases hs
      refine ⟨fun x c hc => ?_, fun t _ _ hp => Option.noConfusion ((hex rfl t).symm.trans hp)⟩
      obtain ⟨hd, ⟨k, hk⟩ | hx⟩ := h.cached x c hc
      · exact ⟨hd, DialMailboxRouter.bindBook_bound hk⟩
      · simp [hw] at hx
    · cases hs
  | unbind dest =>
    simp only [step] at hs
    split at hs
    · rename_i hw
      cases hs
      refine ⟨fun x c hc => ?_, fun t _ _ hp => Option.noConfusion ((hex rfl t).symm.trans hp)⟩
      obtain ⟨hd, ⟨k, hk⟩ | hx⟩ := h.cached x c hc
      · exact ⟨hd, DialMailboxRouter.unbindBook_bound hk⟩
      · simp [hw] at hx
    · cases hs
  | evict =>
    have hnone : ∀ t, w.pending t = none := fun t => by
      cases hp : w.pending t with
      | none => rfl
      | some p =>
        have hw := (h.pending t p.1 p.2 hp).1
        simp only [step, hw] at hs
        cases hs
    simp only [step] at hs
    split at hs
    · rename_i addr rest hw
      cases hs
      refine ⟨fun x c hc => ?_, fun t _ _ hp => Option.noConfusion ((hnone t).symm.trans hp)⟩
      dsimp only [DialMailboxRouter.evictAddr] at hc
      by_cases hx : x = addr
      · subst hx
        exact Option.noConfusion ((Function.update_same x none w.router.senderCache).symm.trans hc)
      · obtain ⟨hd, hb⟩ := h.cached x c ((Function.update_noteq hx _ _).symm.trans hc)
        rw [hw] at hb
        exact ⟨hd, by simpa [hx] using hb⟩
    · rename_i hw
      cases hs
      refine ⟨fun x c hc => ?_, fun t _ _ hp => Option.noConfusion ((hnone t).symm.trans hp)⟩
      obtain ⟨hd, hb⟩ := h.cached x c hc
      rw [hw] at hb
      exact ⟨hd, by simpa using hb⟩
    · cases hs

/-- A run without a `bind` or an `unbind` is exclusive: posts may race one
another freely. -/
theorem exclusive_of_writes_false {evs : List DialEvent} (h : ∀ ev ∈ evs, ev.writes = false) :
    w.Exclusive channelDial evs := by
  induction evs generalizing w with
  | nil => trivial
  | cons ev evs ih =>
    rw [List.forall_mem_cons] at h
    exact ⟨fun hw => absurd hw (by rw [h.1]; decide), fun _ _ => ih h.2⟩

theorem run_cacheBound (h : w.CacheBound channelDial) {evs : List DialEvent}
    (hex : w.Exclusive channelDial evs) (hrun : w.run channelDial evs = some w') :
    w'.CacheBound channelDial := by
  induction evs generalizing w with
  | nil => cases hrun; exact h
  | cons ev evs ih =>
    obtain ⟨w₁, hstep, hrun₁⟩ := Option.bind_eq_some.mp hrun
    exact ih (step_cacheBound h hex.1 hstep) (hex.2 w₁ hstep) hrun₁

end SharedDialRouter

/-- Along every interleaving of the steps of concurrent posts, binds and
unbinds, when `channel::dial` succeeds for `a`, the dials of `a` plus whether
`a` is cached at the start equal the evictions of its client plus whether it is
cached at the end; so a stretch that evicts the client of `a` nowhere dials `a`
at most once, and not at all if `a` is cached at its start. -/
theorem shared_dial_once (channelDial : ChannelAddr → Except String MailboxClient)
    (a : ChannelAddr) (hdial : ∃ c, channelDial a = .ok c) (w : SharedDialRouter)
    (evs : List DialEvent) (w' : SharedDialRouter) (hrun : w.run channelDial evs = some w') :
    (w.dials channelDial evs).count a + (w.router.senderCache a).isSome.toNat =
        w.evictions channelDial a evs + (w'.router.senderCache a).isSome.toNat ∧
      (w.evictions channelDial a evs = 0 → (w.dials channelDial evs).count a ≤ 1 ∧
        ((w.router.senderCache a).isSome → (w.dials channelDial evs).count a = 0)) := by
  have hbal := SharedDialRouter.run_dials_balance hdial hrun
  have hend := Bool.toNat_le (w'.router.senderCache a).isSome
  refine ⟨hbal, fun hev => ⟨by omega, fun hs => ?_⟩⟩
  rw [hs, Bool.toNat_true] at hbal
  omega

/-- A post to an actor of `world1[1]` looks up `unix!@3`; an `unbind` of
`world1[1]` then takes the write lock, evicts `unix!@3`, which is not cached
yet, and releases the lock; the post then dials `unix!@3` and caches its
client. The dial balances as ever, but the cache now holds a client for an
address the book no longer binds. -/
theorem shared_dial_once_race :
    let a : ChannelAddr := ⟨"unix!@3"⟩
    let channelDial : ChannelAddr → Except String MailboxClient := fun x => .ok ⟨x, true⟩
    let proc : ProcId := ⟨⟨"world1"⟩, 1⟩
    let e := MessageEnvelope.newUnknown ⟨⟨proc, "actor1", 0⟩, 1024⟩ ⟨"u", []⟩
    let w := SharedDialRouter.idle (DialMailboxRouter.new.bind (.proc proc) a)
    let evs := [DialEvent.lookup 0 e, .unbind (.proc proc), .evict, .evict, .dial 0]
    ∃ w', w.run channelDial evs = some w' ∧ w'.router.senderCache a = some ⟨a, true⟩ ∧
      w'.router.addressBook.entries = [] ∧ w.dials channelDial evs = [a] ∧
      ((w.dials channelDial evs).count a + (w.router.senderCache a).isSome.toNat =
          w.evictions channelDial a evs + (w'.router.senderCache a).isSome.toNat ∧
        (w.evictions channelDial a evs = 0 → (w.dials channelDial evs).count a ≤ 1 ∧
          ((w.router.senderCache a).isSome → (w.dials channelDial evs).count a = 0))) := by
  intro a channelDial proc e w evs
  exact ⟨_, rfl, by decide, by decide, by decide,
    shared_dial_once channelDial a ⟨_, rfl⟩ w evs _ rfl⟩

/-- Along every interleaving from a new router in which no `bind` or `unbind`
takes the write lock while a post is between its lookup and its dial, however
the posts interleave among themselves: every cached client is the one
`channel::dial` gave for its address, and that address is bound in the book
unless the writer holding the lock is still to evict it; so whenever the lock
is free, the cache holds no stale client. -/
theorem exclusive_cache_bound (channelDial : ChannelAddr → Except String MailboxClient)
    (evs : List DialEvent) (w' : SharedDialRouter)
    (hrun : (SharedDialRouter.idle .new).run channelDial evs = some w')
    (hex : (SharedDialRouter.idle .new).Exclusive channelDial evs) :
    (∀ x c, w'.router.senderCache x = some c → channelDial x = .ok c ∧
      ((∃ k, (k, x) ∈ w'.router.addressBook.entries) ∨ x ∈ w'.writer.getD [])) ∧
    (w'.writer = none → DialMailboxRouter.CacheBound channelDial w'.router) := by
  have h := SharedDialRouter.run_cacheBound
    (SharedDialRouter.idle_cacheBound (DialMailboxRouter.new_cacheBound channelDial)) hex hrun
  refine ⟨h.cached, fun hw x c hc => ?_⟩
  obtain ⟨hd, hb⟩ := h.cached x c hc
  rw [hw] at hb
  exact ⟨hd, by simpa using hb⟩

/-- Binding `world1[1]` to `unix!@3`, then two posts to one of its actors that
both look the address up before either dials: the second to dial finds the
client the first cached, and the address it caches is bound. -/
theorem exclusive_cache_bound_posts :
    let a : ChannelAddr := ⟨"unix!@3"⟩
    let channelDial : ChannelAddr → Except String MailboxClient := fun x => .ok ⟨x, true⟩
    let proc : ProcId := ⟨⟨"world1"⟩, 1⟩
    let e := MessageEnvelope.newUnknown ⟨⟨proc, "actor1", 0⟩, 1024⟩ ⟨"u", []⟩
    let w := SharedDialRouter.idle .new
    let evs := [DialEvent.bind (.proc proc) a, .evict, .lookup 0 e, .lookup 1 e, .dial 1, .dial 0]
    ∃ w', w.run channelDial evs = some w' ∧ w.Exclusive channelDial evs ∧
      w.dials channelDial evs = [a] ∧ w'.router.senderCache a = some ⟨a, true⟩ ∧
      ((∀ x c, w'.router.senderCache x = some c → channelDial x = .ok c ∧
        ((∃ k, (k, x) ∈ w'.router.addressBook.entries) ∨ x ∈ w'.writer.getD [])) ∧
      (w'.writer = none → DialMailboxRouter.CacheBound channelDial w'.router)) := by
  intro a channelDial proc e w evs
  have hex : w.Exclusive channelDial evs :=
    ⟨fun _ _ => rfl, fun _ _ => SharedDialRouter.exclusive_of_writes_false (by decide)⟩
  exact ⟨_, rfl, hex, by decide, by decide, exclusive_cache_bound channelDial evs _ rfl hex⟩

end Hyperactor
