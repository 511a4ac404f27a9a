import Hyperactor.BTreeMap
import Hyperactor.Mailbox.Envelope

/-!
# Muxers and prefix routers

`MailboxMuxer` routes on the exact destination actor. `MailboxRouter` and
`DialMailboxRouter` route on prefixes, with one lookup (`prefixLookup`): the
cursor `lower_bound(Excluded(d)).prev()` finds the entry with the greatest key
`≤ Reference::Actor(d)`, and the entry is taken when its key is a prefix of `d`.

`prefixLookup_eq_some` says exactly when the lookup finds a value: at a bound
prefix `k` of `d` with no bound key sorting strictly between `k` and `d`. What
it finds is the most specific bound prefix (`prefixLookup_most_specific`), and it
finds nothing when no bound key is a prefix (`prefixLookup_of_no_prefix`). The
converse fails: a bound key that is not a prefix of `d` but sorts between `d`
and its longest bound prefix hides that prefix
(`mailboxRouter_misses_bound_prefix`).

The routers are generic in what they route to (`σ`); in a composition of
senders it names a child sender.
-/

namespace Hyperactor

/-! ## The prefix lookup -/

section PrefixLookup

variable {α : Type} {m : BTreeMap Reference α} {d : ActorId} {v : α}

/-- The lookup of `MailboxRouter::post` and `DialMailboxRouter::lookup_addr`:
the entry before `lower_bound(Excluded(d))`, if its key is a prefix of `d`. -/
def prefixLookup (m : BTreeMap Reference α) (actorId : ActorId) : Option α :=
  match m.lowerBoundPrev (.actor actorId) with
  | none => none
  | some (key, value) => if key.isPrefixOf (.actor actorId) then some value else none

/-- The lookup finds `v` exactly when `v` is bound at a prefix `k` of `d` and no
bound key sorts strictly between `k` and `d`. -/
theorem prefixLookup_eq_some : prefixLookup m d = some v ↔ ∃ k, (k, v) ∈ m.entries ∧
    Reference.IsPrefixOf k (.actor d) ∧ ∀ e ∈ m.entries, k < e.1 → Reference.actor d < e.1 := by
  constructor
  · intro h
    unfold prefixLookup at h
    split at h
    · cases h
    · rename_i key value hfound
      obtain ⟨hmem, -, hmax⟩ := BTreeMap.lowerBoundPrev_spec hfound
      split_ifs at h with hprefix
      cases h
      exact ⟨key, hmem, hprefix, fun e he hlt => lt_of_not_le fun hle => (hmax e he hle).not_lt hlt⟩
  · rintro ⟨k, hmem, hprefix, hbetween⟩
    cases hfound : m.lowerBoundPrev (.actor d) with
    | none =>
      exact absurd hprefix.le (not_le.mpr (BTreeMap.lowerBoundPrev_eq_none.mp hfound _ hmem))
    | some e =>
      obtain ⟨he, hle, hmax⟩ := BTreeMap.lowerBoundPrev_spec hfound
      have hk : k = e.1 := (hmax _ hmem hprefix.le).antisymm
        (not_lt.mp fun hlt => (hbetween e he hlt).not_le hle)
      have heq : (k, v) = e := BTreeMap.eq_of_key_eq hmem he hk
      subst heq
      simp [prefixLookup, hfound, hprefix]

/-- What the lookup finds is bound at the most specific bound prefix of `d`. -/
theorem prefixLookup_most_specific (h : prefixLookup m d = some v) :
    ∃ k, (k, v) ∈ m.entries ∧ Reference.IsPrefixOf k (.actor d) ∧
      ∀ e ∈ m.entries, Reference.IsPrefixOf e.1 (.actor d) → e.1 ≤ k := by
  obtain ⟨k, hmem, hprefix, hbetween⟩ := prefixLookup_eq_some.mp h
  exact ⟨k, hmem, hprefix, fun e he hpe => not_lt.mp fun hlt => (hbetween e he hlt).not_le hpe.le⟩

/-- With no bound prefix of `d` the lookup finds nothing. -/
theorem prefixLookup_of_no_prefix (h : ∀ e ∈ m.entries, ¬ Reference.IsPrefixOf e.1 (.actor d)) :
    prefixLookup m d = none := by
  cases hl : prefixLookup m d with
  | none => rfl
  | some v =>
    obtain ⟨k, hmem, hprefix, -⟩ := prefixLookup_eq_some.mp hl
    exact absurd hprefix (h _ hmem)

end PrefixLookup

/-! ## The muxer -/

/-- `MailboxMuxer`: the `DashMap` from actor id to sender. -/
structure MailboxMuxer (σ : Type) where
  mailboxes : ActorId → Option σ

namespace MailboxMuxer

variable {σ : Type}

/-- `MailboxMuxer::new`. -/
def new : MailboxMuxer σ := ⟨fun _ => none⟩

/-- `MailboxMuxer::bind`: `false`, and nothing replaced, when the actor already
has a sender. -/
def bind (m : MailboxMuxer σ) (actorId : ActorId) (sender : σ) : Bool × MailboxMuxer σ :=
  match m.mailboxes actorId with
  | some _ => (false, m)
  | none => (true, ⟨Function.update m.mailboxes actorId (some sender)⟩)

/-- `MailboxMuxer::unbind`. -/
def unbind (m : MailboxMuxer σ) (actorId : ActorId) : MailboxMuxer σ :=
  ⟨Function.update m.mailboxes actorId none⟩

/-- The decision of `MailboxMuxer::post`: the sender bound at the destination
actor, or the error the envelope is returned with. -/
def route (m : MailboxMuxer σ) (dest : ActorId) : Except DeliveryError σ :=
  match m.mailboxes dest with
  | none => .error (.unroutable s!"no mailbox for actor {dest} registered in muxer")
  | some sender => .ok sender

end MailboxMuxer

/-! ## The prefix router -/

/-- `MailboxRouter`: the sorted map from reference to sender. -/
structure MailboxRouter (σ : Type) where
  entries : BTreeMap Reference σ

namespace MailboxRouter

variable {σ : Type}

/-- `MailboxRouter::new`. -/
def new : MailboxRouter σ := ⟨BTreeMap.empty⟩

/-- `MailboxRouter::bind`: insert, replacing a sender bound at `dest`. -/
def bind (r : MailboxRouter σ) (dest : Reference) (sender : σ) : MailboxRouter σ :=
  ⟨(r.entries.insert dest sender).2⟩

/-- The decision of `MailboxRouter::post`. -/
def route (r : MailboxRouter σ) (dest : ActorId) : Except DeliveryError σ :=
  match prefixLookup r.entries dest with
  | none => .error (.unroutable "no destination found for actor in routing table")
  | some sender => .ok sender

/-- With world `world1` bound through its proc `world1[1]` and through the actor
`world1[1].actor1[0]`, a post to `world1[1].actor2[0]` is returned as
unroutable, although the bound proc is a prefix of the destination: the cursor
stops at `world1[1].actor1[0]`, which sorts between the two. -/
theorem mailboxRouter_misses_bound_prefix :
    let proc : ProcId := ⟨⟨"world1"⟩, 1⟩
    let r : MailboxRouter Nat := (new.bind (.proc proc) 2).bind (.actor ⟨proc, "actor1", 0⟩) 3
    Reference.IsPrefixOf (.proc proc) (.actor ⟨proc, "actor2", 0⟩) ∧ r.entries.get (.proc proc) = some 2 ∧
    r.route ⟨proc, "actor2", 0⟩ = .error (.unroutable "no destination found for actor in routing table") :=
  ⟨rfl, rfl, rfl⟩

end MailboxRouter

/-- `WeakMailboxRouter`: the router, when it can still be upgraded. -/
structure WeakMailboxRouter (σ : Type) where
  upgrade : Option (MailboxRouter σ)

/-- `MailboxRouter::downgrade`. -/
def MailboxRouter.downgrade {σ : Type} (r : MailboxRouter σ) : WeakMailboxRouter σ := ⟨some r⟩

/-- The decision of `WeakMailboxRouter::post`. -/
def WeakMailboxRouter.route {σ : Type} (w : WeakMailboxRouter σ) (dest : ActorId) :
    Except DeliveryError σ :=
  match w.upgrade with
  | some router => router.route dest
  | none => .error (.brokenLink "failed to upgrade WeakMailboxRouter")

end Hyperactor
