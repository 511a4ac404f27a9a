import Hyperactor.Mailbox.Router

/-!
# The dial router

`DialMailboxRouter` keeps an address book from references to channel
addresses and a cache of the `MailboxClient`s it has dialed. A post looks the
destination actor up with the prefix lookup of `MailboxRouter`
(`lookupAddr`), dials the address found (reusing a cached client) and hands the
envelope to the client; a destination with no address goes to the default
sender.

`bind` and `unbind` keep the book and the cache in step
(`dialRouter_bind_unbind`): `unbind r` scans `range(r..)` while `r` is a
prefix, and that scan finds every key `r` prefixes because those keys form an
interval of the order starting at `r` (`unbind_scan_eq_filter`). The lookup
inherits the router's blind spot (`lookupAddr_misses_bound_prefix`).
-/

namespace Hyperactor

/-- Modelled from the spec: `ChannelAddr`, a transport address. -/
structure ChannelAddr where
  addr : String
  deriving DecidableEq, Repr

/-- `MailboxClient`, an opaque leaf: the address it transmits to, and whether
its buffer's queue still takes envelopes (its processing task is alive). -/
structure MailboxClient where
  addr : ChannelAddr
  bufferOpen : Bool
  deriving DecidableEq, Repr

/-- `MailboxClient::post`: enqueue in the buffer, or the error the envelope is
returned with. -/
def MailboxClient.post (c : MailboxClient) : Except DeliveryError Unit :=
  if c.bufferOpen then .ok () else .error (.brokenLink "failed to enqueue in MailboxClient")

/-- `DialMailboxRouter`, without its `default` sender, which the composition of
senders holds. -/
structure DialMailboxRouter where
  addressBook : BTreeMap Reference ChannelAddr
  senderCache : ChannelAddr → Option MailboxClient

/-- Where `DialMailboxRouter::post` sends an envelope. -/
inductive DialRoute where
  | toDefault
  | toClient (client : MailboxClient)
  | returned (error : DeliveryError)
  deriving DecidableEq, Repr

namespace DialMailboxRouter

/-- `DialMailboxRouter::new_with_default`: an empty book and cache. -/
def new : DialMailboxRouter := ⟨BTreeMap.empty, fun _ => none⟩

/-- `DialMailboxRouter::bind`: insert, evicting the replaced address from the
cache when it differs. -/
def bind (r : DialMailboxRouter) (dest : Reference) (addr : ChannelAddr) : DialMailboxRouter :=
  let (old, addressBook) := r.addressBook.insert dest addr
  { addressBook
    senderCache := match old with
      | some oldAddr => if oldAddr ≠ addr then Function.update r.senderCache oldAddr none
        else r.senderCache
      | none => r.senderCache }

/-- One removal of `unbind`: the key from the book, its address from the cache. -/
def evict (r : DialMailboxRouter) (entry : Reference × ChannelAddr) : DialMailboxRouter :=
  ⟨r.addressBook.remove entry.1, Function.update r.senderCache entry.2 none⟩

/-- The entries `unbind` collects: `range(dest..).take_while(is_prefix_of)`. -/
def unbindScan (r : DialMailboxRouter) (dest : Reference) : List (Reference × ChannelAddr) :=
  (r.addressBook.range dest).takeWhile fun e => dest.isPrefixOf e.1

/-- `DialMailboxRouter::unbind`. -/
def unbind (r : DialMailboxRouter) (dest : Reference) : DialMailboxRouter :=
  (r.unbindScan dest).foldl evict r

/-- `DialMailboxRouter::lookup_addr`. -/
def lookupAddr (r : DialMailboxRouter) (actorId : ActorId) : Option ChannelAddr :=
  prefixLookup r.addressBook actorId

/-- `DialMailboxRouter::dial`: the cached client, or a fresh one from the
transport's `channel::dial`, cached; with the addresses it passed to
`channel::dial`. -/
def dial (r : DialMailboxRouter) (channelDial : ChannelAddr → Except String MailboxClient)
    (addr : ChannelAddr) (actorId : ActorId) :
    Except MailboxSenderError MailboxClient × DialMailboxRouter × List ChannelAddr :=
  match r.senderCache addr with
  | some client => (.ok client, r, [])
  | none =>
    match channelDial addr with
    | .error err => (.error ⟨.unbound actorId "unknown", .channel err⟩, r, [addr])
    | .ok client =>
      (.ok client, { r with senderCache := Function.update r.senderCache addr (some client) }, [addr])

/-- `DialMailboxRouter::post`, with the addresses its `dial` passed to
`channel::dial`. -/
def postDialing (r : DialMailboxRouter) (channelDial : ChannelAddr → Except String MailboxClient)
    (envelope : MessageEnvelope) : DialRoute × DialMailboxRouter × List ChannelAddr :=
  match r.lookupAddr envelope.dest.actorId with
  | none => (.toDefault, r, [])
  | some addr =>
    match r.dial channelDial addr envelope.dest.actorId with
    | (.error err, r, dialed) => (.returned (.unroutable s!"cannot dial destination: {err}"), r, dialed)
    | (.ok client, r, dialed) => (.toClient client, r, dialed)

/-- `DialMailboxRouter::post`. -/
def post (r : DialMailboxRouter) (channelDial : ChannelAddr → Except String MailboxClient)
    (envelope : MessageEnvelope) : DialRoute × DialMailboxRouter :=
  ((r.postDialing channelDial envelope).1, (r.postDialing channelDial envelope).2.1)

/-! ## Binding and unbinding -/

variable {r : DialMailboxRouter} {dest k : Reference} {addr x : ChannelAddr}

/-- Evicting the entries of a list removes their keys from the book and their
addresses from the cache. -/
theorem foldl_evict (l : List (Reference × ChannelAddr)) (r : DialMailboxRouter) :
    (∀ e, e ∈ (l.foldl evict r).addressBook.entries ↔
      e ∈ r.addressBook.entries ∧ ∀ e' ∈ l, e.1 ≠ e'.1) ∧
    ∀ x, (l.foldl evict r).senderCache x = if l.any (·.2 = x) then none else r.senderCache x := by
  induction l generalizing r with
  | nil => simp
  | cons e' l ih =>
    obtain ⟨hbook, hcache⟩ := ih (evict r e')
    refine ⟨fun e => ?_, fun x => ?_⟩
    · rw [List.foldl_cons, hbook]
      simp only [evict, BTreeMap.mem_remove, List.forall_mem_cons]
      tauto
    · rw [List.foldl_cons, hcache]
      by_cases hx : e'.2 = x
      · simp [evict, hx]
      · simp only [List.any_cons, hx, decide_False, Bool.false_or, evict,
          Function.update_noteq (Ne.symm hx)]

/-- The scan of `unbind` finds exactly the entries whose key `dest` prefixes:
they sort contiguously from `dest`. -/
theorem unbind_scan_eq_filter :
    r.unbindScan dest = r.addressBook.entries.filter fun e => dest.isPrefixOf e.1 := by
  have hsorted : (r.addressBook.range dest).Pairwise fun a b => dest ≤ a.1 ∧ a.1 < b.1 :=
    BTreeMap.range_sorted.imp_of_mem fun ha _ hab => ⟨(BTreeMap.mem_range.mp ha).2, hab⟩
  rw [unbindScan, takeWhile_eq_filter hsorted
    fun a b hab hb => Reference.isPrefixOf_of_le_of_le hab.1 hab.2.le hb]
  simp only [BTreeMap.range, List.filter_filter]
  congr 1
  funext e
  cases h : dest.isPrefixOf e.1
  · simp
  · simpa using Reference.IsPrefixOf.le h

/-- `bind` evicts the address `dest` had, exactly when it differs from `addr`. -/
theorem bind_senderCache_eq :
    (r.bind dest addr).senderCache x =
      if r.addressBook.get dest = some x ∧ x ≠ addr then none else r.senderCache x := by
  simp only [bind, BTreeMap.insert]
  cases hold : r.addressBook.get dest with
  | none => simp
  | some old =>
    by_cases hx : x = old
    · subst hx
      by_cases hne : x = addr <;> simp [hne]
    · by_cases hne : old = addr
      · subst hne; simp [hx, Ne.symm hx]
      · simp [hne, hx, Ne.symm hx, Function.update_noteq hx]

/-- `unbind dest` and `bind dest addr` on any book: `unbind` keeps exactly the
entries whose key `dest` does not prefix and evicts the address of every
removed entry, leaving other cached clients alone; `bind` maps `dest` to `addr`,
keeps every other entry, and evicts the address `dest` had exactly when it
differs from `addr`. -/
theorem dialRouter_bind_unbind (r : DialMailboxRouter) (dest : Reference) (addr : ChannelAddr) :
    (∀ e, e ∈ (r.unbind dest).addressBook.entries ↔
      e ∈ r.addressBook.entries ∧ ¬ Reference.IsPrefixOf dest e.1) ∧
    (∀ x, (∃ k, (k, x) ∈ r.addressBook.entries ∧ Reference.IsPrefixOf dest k) →
      (r.unbind dest).senderCache x = none) ∧
    (∀ x, (¬ ∃ k, (k, x) ∈ r.addressBook.entries ∧ Reference.IsPrefixOf dest k) →
      (r.unbind dest).senderCache x = r.senderCache x) ∧
    (∀ e, e ∈ (r.bind dest addr).addressBook.entries ↔
      e = (dest, addr) ∨ (e ∈ r.addressBook.entries ∧ e.1 ≠ dest)) ∧
    (∀ x, (r.bind dest addr).senderCache x =
      if r.addressBook.get dest = some x ∧ x ≠ addr then none else r.senderCache x) := by
  obtain ⟨hbook, hcache⟩ := foldl_evict (r.unbindScan dest) r
  have hscan : ∀ e, e ∈ r.unbindScan dest ↔ e ∈ r.addressBook.entries ∧ Reference.IsPrefixOf dest e.1 := by
    simp [unbind_scan_eq_filter]
  refine ⟨fun e => ?_, fun x hx => ?_, fun x hx => ?_, fun e => BTreeMap.mem_insert,
    fun x => bind_senderCache_eq⟩
  · rw [unbind, hbook]
    constructor
    · rintro ⟨he, hne⟩
      exact ⟨he, fun hp => hne e ((hscan e).mpr ⟨he, hp⟩) rfl⟩
    · rintro ⟨he, hnp⟩
      exact ⟨he, fun e' he' heq => hnp (heq ▸ ((hscan e').mp he').2)⟩
  · obtain ⟨k, hk, hp⟩ := hx
    rw [unbind, hcache, if_pos (List.any_eq_true.mpr ⟨(k, x), (hscan _).mpr ⟨hk, hp⟩, by simp⟩)]
  · rw [unbind, hcache, if_neg]
    simp only [List.any_eq_true, decide_eq_true_eq, not_exists, not_and]
    rintro ⟨k, x'⟩ hmem rfl
    exact hx ⟨k, ((hscan _).mp hmem).1, ((hscan _).mp hmem).2⟩

/-- With `world1[1]` and `world1[1].actor1[0]` in the book, the lookup of
`world1[1].actor2[0]` finds nothing, although `world1[1]` is a bound prefix,
and a post to it goes to the default sender. -/
theorem lookupAddr_misses_bound_prefix (channelDial : ChannelAddr → Except String MailboxClient) :
    let proc : ProcId := ⟨⟨"world1"⟩, 1⟩
    let r := (new.bind (.proc proc) ⟨"unix!@3"⟩).bind (.actor ⟨proc, "actor1", 0⟩) ⟨"unix!@4"⟩
    Reference.IsPrefixOf (.proc proc) (.actor ⟨proc, "actor2", 0⟩) ∧
    r.addressBook.get (.proc proc) = some ⟨"unix!@3"⟩ ∧ r.lookupAddr ⟨proc, "actor2", 0⟩ = none ∧
    (r.post channelDial (.newUnknown ⟨⟨proc, "actor2", 0⟩, 0⟩ ⟨"u", []⟩)).1 = .toDefault :=
  ⟨rfl, rfl, rfl, rfl⟩

end DialMailboxRouter

end Hyperactor
