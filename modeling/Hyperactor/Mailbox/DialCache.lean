import Hyperactor.Mailbox.DialRouter

/-!
# The dial cache

`DialMailboxRouter::dial` calls `channel::dial` only on a cache miss, and caches
the client it gets (`dial_dialed`). A run of `bind`, `unbind` and `post` calls
(`RouterOp`, `DialMailboxRouter.run`) therefore dials an address `a` exactly
once per post that resolves to `a` while the cache has no client for `a`
(`dials_count_eq_misses`).

When `channel::dial` succeeds for `a`, each call changes the cache entry of `a`
in one of three ways (`exec_cacheAt`): a `bind` or an `unbind` clears it or
leaves it, and a post leaves it or, on a miss, dials `a` and fills it. The
dials of `a` and the evictions of its client then balance along every run
(`run_dials_balance`), so between two evictions `a` is dialed at most once, and
a post that finds `a` cached uses the cached client (`dial_cache_idempotent`).

Since a rebinding `bind` and an `unbind` evict the addresses they unbind, and a
post caches only the client dialed for the address its lookup found, the cache
never holds a stale client (`CacheBound`, `dial_cache_bound`).
-/

namespace Hyperactor

/-- A call on a dial router. -/
inductive RouterOp where
  | bind (dest : Reference) (addr : ChannelAddr)
  | unbind (dest : Reference)
  | post (envelope : MessageEnvelope)

namespace DialMailboxRouter

variable (channelDial : ChannelAddr → Except String MailboxClient)

/-- The `channel::dial` calls of `post`: the addresses its `dial` reports. -/
def postDialCalls (r : DialMailboxRouter) (envelope : MessageEnvelope) : List ChannelAddr :=
  (r.postDialing channelDial envelope).2.2

/-- The `channel::dial` calls of one call. -/
def opDialCalls (r : DialMailboxRouter) : RouterOp → List ChannelAddr
  | .post envelope => r.postDialCalls channelDial envelope
  | _ => []

/-- Run one call. -/
def exec (r : DialMailboxRouter) : RouterOp → DialMailboxRouter
  | .bind dest addr => r.bind dest addr
  | .unbind dest => r.unbind dest
  | .post envelope => (r.post channelDial envelope).2

/-- Run calls in order. -/
def run (r : DialMailboxRouter) : List RouterOp → DialMailboxRouter
  | [] => r
  | op :: ops => (r.exec channelDial op).run ops

/-- The `channel::dial` calls of a run, in order. -/
def dials (r : DialMailboxRouter) : List RouterOp → List ChannelAddr
  | [] => []
  | op :: ops => r.opDialCalls channelDial op ++ (r.exec channelDial op).dials ops

/-- Whether a call is a post whose destination resolves to `a` while the cache
has no client for `a`. -/
def missesAt (r : DialMailboxRouter) (a : ChannelAddr) : RouterOp → Bool
  | .post envelope => decide (r.lookupAddr envelope.dest.actorId = some a) && (r.senderCache a).isNone
  | _ => false

/-- How many posts of a run resolve to `a` while the cache has no client for `a`. -/
def misses (a : ChannelAddr) (r : DialMailboxRouter) : List RouterOp → Nat
  | [] => 0
  | op :: ops => (r.missesAt a op).toNat + (r.exec channelDial op).misses a ops

/-- Whether a call evicts the cached client of `a`. -/
def evictsAt (r : DialMailboxRouter) (a : ChannelAddr) (op : RouterOp) : Bool :=
  (r.senderCache a).isSome && ((r.exec channelDial op).senderCache a).isNone

/-- How many calls of a run evict the cached client of `a`. -/
def evictions (a : ChannelAddr) (r : DialMailboxRouter) : List RouterOp → Nat
  | [] => 0
  | op :: ops => (r.evictsAt channelDial a op).toNat + (r.exec channelDial op).evictions a ops

/-! ## One call -/

variable {channelDial} {r : DialMailboxRouter} {a : ChannelAddr}

/-- `bind` clears a cache entry or leaves it. -/
theorem bind_senderCache (dest : Reference) (addr x : ChannelAddr) :
    (r.bind dest addr).senderCache x = r.senderCache x ∨ (r.bind dest addr).senderCache x = none := by
  rw [bind_senderCache_eq]
  split_ifs
  · exact .inr rfl
  · exact .inl rfl

/-- `unbind` clears a cache entry or leaves it. -/
theorem unbind_senderCache (dest : Reference) (x : ChannelAddr) :
    (r.unbind dest).senderCache x = r.senderCache x ∨ (r.unbind dest).senderCache x = none := by
  rw [unbind, (foldl_evict _ r).2 x]
  split
  · exact .inr rfl
  · exact .inl rfl

/-- `dial` calls `channel::dial` for its address on a cache miss, and not on a hit. -/
theorem dial_dialed (addr : ChannelAddr) (actorId : ActorId) :
    (r.dial channelDial addr actorId).2.2 = if (r.senderCache addr).isNone then [addr] else [] := by
  unfold dial
  cases r.senderCache addr with
  | some _ => rfl
  | none => cases channelDial addr <;> rfl

/-- A post leaves the router and the dials to its `dial`, when its lookup finds
an address, and does nothing otherwise. -/
theorem postDialing_snd (e : MessageEnvelope) :
    (r.postDialing channelDial e).2 = match r.lookupAddr e.dest.actorId with
      | none => (r, [])
      | some addr => (r.dial channelDial addr e.dest.actorId).2 := by
  rcases hl : r.lookupAddr e.dest.actorId with _ | addr <;> simp only [postDialing, hl]
  rcases r.dial channelDial addr e.dest.actorId with ⟨_ | _, _, _⟩ <;> rfl

/-- A post dials `a` once, on a miss, and nothing for `a` otherwise. -/
theorem postDialCalls_count (e : MessageEnvelope) :
    (r.postDialCalls channelDial e).count a = (r.missesAt a (.post e)).toNat := by
  rw [postDialCalls, postDialing_snd, missesAt]
  rcases r.lookupAddr e.dest.actorId with _ | addr
  · rfl
  · rw [dial_dialed]
    by_cases haddr : addr = a
    · subst haddr
      cases r.senderCache addr <;> simp
    · cases r.senderCache addr <;> simp [haddr, Ne.symm haddr]

/-- A post dials nothing and changes nothing, or it finds the cache empty at the
address it resolves to, dials that address, and caches the client when
`channel::dial` succeeds. -/
theorem post_cases (e : MessageEnvelope) :
    r.postDialCalls channelDial e = [] ∧ (r.post channelDial e).2 = r ∨
    ∃ addr, r.lookupAddr e.dest.actorId = some addr ∧ r.senderCache addr = none ∧
      r.postDialCalls channelDial e = [addr] ∧
      (r.post channelDial e).2 = match channelDial addr with
        | .ok client => { r with senderCache := Function.update r.senderCache addr (some client) }
        | .error _ => r := by
  simp only [postDialCalls, post, postDialing_snd]
  rcases hl : r.lookupAddr e.dest.actorId with _ | addr
  · exact .inl ⟨rfl, rfl⟩
  · rcases hc : r.senderCache addr with _ | c
    · refine .inr ⟨addr, rfl, hc, by simp [dial_dialed, hc], ?_⟩
      simp only [dial, hc]
      cases channelDial addr <;> rfl
    · exact .inl ⟨by simp [dial_dialed, hc], by simp only [dial, hc]⟩

/-- What one call does to the cache entry of `a`, when `channel::dial` succeeds
for `a`: it dials nothing for `a` and clears the entry or leaves it, or it dials
`a` once on an empty entry and fills it. -/
theorem exec_cacheAt (hdial : ∃ c, channelDial a = .ok c) (op : RouterOp) :
    (r.opDialCalls channelDial op).count a = 0 ∧ ((r.exec channelDial op).senderCache a = r.senderCache a ∨
      (r.exec channelDial op).senderCache a = none) ∨
    (r.opDialCalls channelDial op).count a = 1 ∧ r.senderCache a = none ∧
      ((r.exec channelDial op).senderCache a).isSome := by
  cases op with
  | bind dest addr => exact .inl ⟨rfl, bind_senderCache dest addr a⟩
  | unbind dest => exact .inl ⟨rfl, unbind_senderCache dest a⟩
  | post e =>
    simp only [opDialCalls, exec]
    rcases @post_cases channelDial r e with ⟨hd, hpost⟩ | ⟨addr, -, hc, hd, hpost⟩
    · exact .inl ⟨by rw [hd]; rfl, .inl (by rw [hpost])⟩
    · rw [hd, hpost]
      by_cases haddr : addr = a
      · subst haddr
        obtain ⟨c, hc'⟩ := hdial
        rw [hc']
        exact .inr ⟨List.count_singleton_self _, hc, by simp⟩
      · refine .inl ⟨List.count_eq_zero_of_not_mem (by simpa using Ne.symm haddr), .inl ?_⟩
        cases channelDial addr
        · rfl
        · exact Function.update_noteq (Ne.symm haddr) _ _

/-! ## Runs -/

/-- The dials of `a` along a run are the posts that miss at `a`. -/
theorem dials_count_eq_misses (r : DialMailboxRouter) (ops : List RouterOp) :
    (r.dials channelDial ops).count a = r.misses channelDial a ops := by
  induction ops generalizing r with
  | nil => rfl
  | cons op ops ih =>
    rw [dials, misses, List.count_append, ih]
    congr 1
    cases op with
    | post e => exact postDialCalls_count e
    | bind | unbind => rfl

/-- Each call balances the dials of `a` against the evictions of its client:
the dials plus whether `a` was cached before equal the evictions plus whether
it is cached after. -/
theorem exec_dials_balance (hdial : ∃ c, channelDial a = .ok c) (op : RouterOp) :
    (r.opDialCalls channelDial op).count a + (r.senderCache a).isSome.toNat =
      (r.evictsAt channelDial a op).toNat + ((r.exec channelDial op).senderCache a).isSome.toNat := by
  unfold evictsAt
  rcases exec_cacheAt (r := r) hdial op with ⟨h0, heq | hnone⟩ | ⟨h1, hnone, hsome⟩
  · rw [h0, heq]; cases r.senderCache a <;> rfl
  · rw [h0, hnone]; cases r.senderCache a <;> rfl
  · rw [h1, hnone, hsome]; rfl

/-- Along every run, when `channel::dial` succeeds for `a`, the dials of `a` plus
whether `a` is cached at the start equal its evictions plus whether it is cached
at the end. -/
theorem run_dials_balance (hdial : ∃ c, channelDial a = .ok c) (r : DialMailboxRouter)
    (ops : List RouterOp) :
    (r.dials channelDial ops).count a + (r.senderCache a).isSome.toNat =
      r.evictions channelDial a ops + ((r.run channelDial ops).senderCache a).isSome.toNat := by
  induction ops generalizing r with
  | nil => rfl
  | cons op ops ih =>
    have hstep := exec_dials_balance (r := r) hdial op
    have hrest := ih (r.exec channelDial op)
    simp only [dials, evictions, run, List.count_append] at hrest ⊢
    omega

/-! ## What the cache holds -/

/-- Every cached client is the one `channel::dial` gives for its address, and
that address is bound to some reference of the book. -/
def CacheBound (channelDial : ChannelAddr → Except String MailboxClient) (r : DialMailboxRouter) :
    Prop :=
  ∀ x c, r.senderCache x = some c → channelDial x = .ok c ∧ ∃ k, (k, x) ∈ r.addressBook.entries

theorem new_cacheBound (channelDial : ChannelAddr → Except String MailboxClient) :
    CacheBound channelDial new := fun _ _ h => Option.noConfusion h

/-- Every call keeps the cache bound: a rebinding `bind` evicts the address it
replaces, `unbind` the addresses of the keys it removes, and a post caches only
the client `channel::dial` gave for the address its lookup found. -/
theorem exec_cacheBound (h : CacheBound channelDial r) (op : RouterOp) :
    CacheBound channelDial (r.exec channelDial op) := by
  intro x c hc
  cases op with
  | bind dest addr =>
    rw [exec, bind_senderCache_eq] at hc
    split_ifs at hc with hev
    obtain ⟨hd, k, hk⟩ := h x c hc
    refine ⟨hd, ?_⟩
    by_cases hkd : k = dest
    · subst hkd
      have hxa : x = addr := by
        by_contra hne
        exact hev ⟨BTreeMap.get_eq_some.mpr hk, hne⟩
      exact ⟨k, BTreeMap.mem_insert.mpr (.inl (hxa ▸ rfl))⟩
    · exact ⟨k, BTreeMap.mem_insert.mpr (.inr ⟨hk, hkd⟩)⟩
  | unbind dest =>
    obtain ⟨hbook, hcache⟩ := foldl_evict (r.unbindScan dest) r
    rw [exec, unbind, hcache] at hc
    split_ifs at hc with hany
    obtain ⟨hd, k, hk⟩ := h x c hc
    refine ⟨hd, k, (hbook (k, x)).mpr ⟨hk, fun e' he' hkey => hany ?_⟩⟩
    have he'book : e' ∈ r.addressBook.entries := by
      rw [unbind_scan_eq_filter] at he'
      exact (List.mem_filter.mp he').1
    have heq := BTreeMap.eq_of_key_eq hk he'book hkey
    exact List.any_eq_true.mpr ⟨e', he', by simp [← heq]⟩
  | post e =>
    rcases @post_cases channelDial r e with ⟨-, hpost⟩ | ⟨addr, hl, -, -, hpost⟩
    · rw [exec, hpost] at hc ⊢
      exact h x c hc
    · rw [exec, hpost] at hc ⊢
      cases hd : channelDial addr with
      | error err => simp only [hd] at hc ⊢; exact h x c hc
      | ok client =>
        simp only [hd] at hc ⊢
        by_cases hx : x = addr
        · subst hx
          cases (Function.update_same x (some client) r.senderCache).symm.trans hc
          obtain ⟨k, hk, -⟩ := prefixLookup_eq_some.mp hl
          exact ⟨hd, k, hk⟩
        · exact h x c (by simpa [Function.update_noteq hx] using hc)

theorem run_cacheBound (h : CacheBound channelDial r) (ops : List RouterOp) :
    CacheBound channelDial (r.run channelDial ops) := by
  induction ops generalizing r with
  | nil => exact h
  | cons op ops ih => exact ih (exec_cacheBound h op)

end DialMailboxRouter

open DialMailboxRouter in
/-- Along every run from `DialMailboxRouter::new`, the cache holds no stale
client: each cached client is the one `channel::dial` gave for its address, and
the address is still bound to some reference of the book. -/
theorem dial_cache_bound (channelDial : ChannelAddr → Except String MailboxClient)
    (ops : List RouterOp) (x : ChannelAddr) (c : MailboxClient)
    (hc : (new.run channelDial ops).senderCache x = some c) :
    channelDial x = .ok c ∧ ∃ k, (k, x) ∈ (new.run channelDial ops).addressBook.entries :=
  run_cacheBound (new_cacheBound channelDial) ops x c hc

open DialMailboxRouter in
/-- After binding `world1[1]` to `unix!@3` and posting to one of its actors, the
client cached for `unix!@3` is the one dialed, and `world1[1]` is bound to it. -/
theorem dial_cache_bound_post :
    let a : ChannelAddr := ⟨"unix!@3"⟩
    let channelDial : ChannelAddr → Except String MailboxClient := fun x => .ok ⟨x, true⟩
    let proc : ProcId := ⟨⟨"world1"⟩, 1⟩
    let ops := [RouterOp.bind (.proc proc) a,
      .post (.newUnknown ⟨⟨proc, "actor1", 0⟩, 1024⟩ ⟨"u", []⟩)]
    (new.run channelDial ops).senderCache a = some ⟨a, true⟩ ∧ channelDial a = .ok ⟨a, true⟩ ∧
      ∃ k, (k, a) ∈ (new.run channelDial ops).addressBook.entries := by
  intro a channelDial proc ops
  have hc : (new.run channelDial ops).senderCache a = some ⟨a, true⟩ := rfl
  exact ⟨hc, dial_cache_bound channelDial ops a _ hc⟩

open DialMailboxRouter in
/-- Along every run of `bind`, `unbind` and `post` calls on a dial router, the
`channel::dial` calls for `a` are the posts that resolve to `a` while the cache
has no client for `a`; when `channel::dial` succeeds for `a`, a stretch of a run
that evicts the client of `a` nowhere dials `a` at most once, and not at all if
`a` is cached at its start; and a post that resolves to a cached `a` hands the
envelope to the cached client and dials nothing. -/
theorem dial_cache_idempotent (channelDial : ChannelAddr → Except String MailboxClient)
    (a : ChannelAddr) :
    (∀ (r : DialMailboxRouter) ops, (r.dials channelDial ops).count a = r.misses channelDial a ops) ∧
    ((∃ c, channelDial a = .ok c) → ∀ (r : DialMailboxRouter) ops, r.evictions channelDial a ops = 0 →
      (r.dials channelDial ops).count a ≤ 1 ∧
      ((r.senderCache a).isSome → (r.dials channelDial ops).count a = 0)) ∧
    ∀ (r : DialMailboxRouter) e c, r.lookupAddr e.dest.actorId = some a → r.senderCache a = some c →
      r.post channelDial e = (.toClient c, r) ∧ r.postDialCalls channelDial e = [] := by
  refine ⟨dials_count_eq_misses, fun hdial r ops hev => ?_, fun r e c hl hc => ?_⟩
  · have hbal := run_dials_balance hdial r ops
    have hend := Bool.toNat_le ((r.run channelDial ops).senderCache a).isSome
    rw [hev] at hbal
    refine ⟨by omega, fun hs => ?_⟩
    rw [hs] at hbal
    simp only [Bool.toNat_true] at hbal
    omega
  · simp [post, postDialCalls, postDialing, dial, hl, hc]

open DialMailboxRouter in
/-- Binding `world1[1]` to `unix!@3` and posting twice to one of its actors: the
first post dials `unix!@3`, the second uses the cached client, and nothing is
evicted. -/
theorem dial_cache_idempotent_twice :
    let a : ChannelAddr := ⟨"unix!@3"⟩
    let channelDial : ChannelAddr → Except String MailboxClient := fun x => .ok ⟨x, true⟩
    let proc : ProcId := ⟨⟨"world1"⟩, 1⟩
    let e := MessageEnvelope.newUnknown ⟨⟨proc, "actor1", 0⟩, 1024⟩ ⟨"u", []⟩
    let ops := [RouterOp.bind (.proc proc) a, .post e, .post e]
    let r₁ := new.run channelDial [RouterOp.bind (.proc proc) a, .post e]
    new.dials channelDial ops = [a] ∧ new.misses channelDial a ops = 1 ∧
      new.evictions channelDial a ops = 0 ∧ (new.dials channelDial ops).count a ≤ 1 ∧
      r₁.lookupAddr e.dest.actorId = some a ∧ r₁.senderCache a = some ⟨a, true⟩ ∧
      r₁.post channelDial e = (.toClient ⟨a, true⟩, r₁) ∧ r₁.postDialCalls channelDial e = [] := by
  intro a channelDial proc e ops r₁
  have hl : r₁.lookupAddr e.dest.actorId = some a := rfl
  have hc : r₁.senderCache a = some ⟨a, true⟩ := rfl
  obtain ⟨hcount, hbound, hcached⟩ := dial_cache_idempotent channelDial a
  have hdials : new.dials channelDial ops = [a] := by decide
  have hev : new.evictions channelDial a ops = 0 := by decide
  exact ⟨hdials, (hcount new ops).symm.trans (by rw [hdials]; decide), hev,
    (hbound ⟨_, rfl⟩ new ops hev).1, hl, hc, hcached r₁ e _ hl hc⟩

end Hyperactor
