import Hyperactor.Mailbox.Envelope

/-!
# A client, its transport and a server

`MailboxClient::post` hands an envelope, with its return handle, to the queue of
the client's `Buffer`. The buffer's task takes the items in order and
`try_post`s each on the transport, returning it `BrokenLink` when the transport
refuses it; a `MailboxServer` receives what the transport delivers and posts it
to its own sender. The transport is outside the sources and is modelled from the
spec's contract: it delivers what it accepted in order, or fails an accepted
envelope back through its ack channel, and the client forwards that envelope to
the envelope's return handle.

Over every interleaving of posts, buffer turns, deliveries, transport failures
and closings (`Link.run`), every envelope posted to the client is, exactly once,
served, in transit, still queued, or returned to its handle; and the envelopes
served, in transit or queued keep the order they were posted in
(`link_accounts`).
-/

namespace Hyperactor

/-- An envelope with the return handle it was posted with. -/
abbrev LinkItem := MessageEnvelope × ReturnHandle

/-- A client, its transport and the server at the other end. -/
structure Link where
  /-- The queue of the client's `Buffer`: items its task has not taken yet. -/
  buffer : List LinkItem
  /-- Whether the buffer's task still receives from its queue. -/
  bufferOpen : Bool
  /-- Modelled from the spec: items `try_post` accepted, neither received nor failed. -/
  transit : List LinkItem
  /-- Modelled from the spec: whether the transport accepts `try_post`. -/
  txOpen : Bool
  /-- Items the server received, in order; it posted each envelope to its sender. -/
  served : List LinkItem
  /-- Items sent as `Undeliverable` to their return handles, with the error
  they were stamped with (none when the transport's ack returned them). -/
  returned : List (LinkItem × Option DeliveryError)

/-- What happens on a link. -/
inductive LinkEvent where
  /-- `MailboxClient::post`. -/
  | post (e : MessageEnvelope) (rh : ReturnHandle)
  /-- One turn of the buffer's task: `try_post` the oldest item. -/
  | process
  /-- The server's `rx.recv()` yields the oldest envelope in transit. -/
  | recv
  /-- The transport fails an envelope in transit and its ack returns it. -/
  | fail (e : MessageEnvelope) (rh : ReturnHandle)
  /-- The transport's status becomes `Closed`. -/
  | closeTx
  /-- The buffer's task ends, which it does only on an empty queue. -/
  | closeBuffer

/-- The items an event posts to the client. -/
def LinkEvent.posted : LinkEvent → List LinkItem
  | .post e rh => [(e, rh)]
  | .process | .recv | .fail _ _ | .closeTx | .closeBuffer => []

namespace Link

/-- `MailboxClient::new`, with its transport open and no server traffic yet. -/
def new : Link := ⟨[], true, [], true, [], []⟩

/-- One event; `none` when it cannot happen. -/
def step (l : Link) : LinkEvent → Option Link
  | .post e rh =>
    some (if l.bufferOpen then { l with buffer := l.buffer ++ [(e, rh)] }
      else { l with returned := l.returned ++
        [((e, rh), some (.brokenLink "failed to enqueue in MailboxClient"))] })
  | .process =>
    match l.buffer with
    | [] => none
    | item :: rest =>
      some (if l.txOpen then { l with buffer := rest, transit := l.transit ++ [item] }
        else { l with buffer := rest, returned := l.returned ++
          [(item, some (.brokenLink "failed to enqueue in MailboxClient"))] })
  | .recv =>
    match l.transit with
    | [] => none
    | item :: rest => some { l with transit := rest, served := l.served ++ [item] }
  | .fail e rh =>
    if (e, rh) ∈ l.transit then
      some { l with transit := l.transit.erase (e, rh), returned := l.returned ++ [((e, rh), none)] }
    else none
  | .closeTx => some { l with txOpen := false }
  | .closeBuffer => if l.buffer = [] then some { l with bufferOpen := false } else none

/-- A run of events. -/
def run (l : Link) : List LinkEvent → Option Link
  | [] => some l
  | ev :: evs => (l.step ev).bind fun l => l.run evs

/-- The items posted are, up to order, those served, in transit, queued and
returned; and the served, in-transit and queued ones are in posting order. -/
structure Accounts (l : Link) (posted : List LinkItem) : Prop where
  perm : posted.Perm (l.served ++ l.transit ++ l.buffer ++ l.returned.map Prod.fst)
  order : (l.served ++ l.transit ++ l.buffer).Sublist posted

variable {l l' : Link} {posted : List LinkItem}

/-- An event that moves nothing between the parts. -/
theorem Accounts.same (h : l.Accounts posted)
    (hl : l'.served ++ l'.transit ++ l'.buffer = l.served ++ l.transit ++ l.buffer)
    (hr : l'.returned = l.returned) : l'.Accounts posted :=
  ⟨hl ▸ hr ▸ h.perm, hl ▸ h.order⟩

/-- An event that returns a newly posted item. -/
theorem Accounts.returned (h : l.Accounts posted) (item : LinkItem) (d : Option DeliveryError)
    (hl : l'.served ++ l'.transit ++ l'.buffer = l.served ++ l.transit ++ l.buffer)
    (hr : l'.returned = l.returned ++ [(item, d)]) :
    l'.Accounts (posted ++ [item]) := by
  refine ⟨?_, hl ▸ h.order.trans (List.sublist_append_left _ _)⟩
  rw [hl, hr, List.map_append, List.map_singleton, ← List.append_assoc]
  exact h.perm.append_right [item]

/-- An event that returns an item that was queued or in transit. -/
theorem Accounts.drop (h : l.Accounts posted) {item : LinkItem} {d : Option DeliveryError}
    (hperm : (l.served ++ l.transit ++ l.buffer).Perm (item :: (l'.served ++ l'.transit ++ l'.buffer)))
    (hsub : (l'.served ++ l'.transit ++ l'.buffer).Sublist (l.served ++ l.transit ++ l.buffer))
    (hr : l'.returned = l.returned ++ [(item, d)]) : l'.Accounts posted := by
  refine ⟨h.perm.trans ((hperm.append_right _).trans ?_), hsub.trans h.order⟩
  rw [hr, List.map_append, List.map_singleton, ← List.append_assoc]
  exact (List.perm_append_singleton _ _).symm

/-- Each event keeps the accounts, with what it posts. -/
theorem step_accounts {ev : LinkEvent} (h : l.Accounts posted) (hstep : l.step ev = some l') :
    l'.Accounts (posted ++ ev.posted) := by
  cases ev with
  | post e rh =>
    cases hstep
    by_cases hopen : l.bufferOpen
    · simp only [if_pos hopen, LinkEvent.posted]
      refine ⟨(h.perm.append_right _).trans ?_, ?_⟩
      · simp only [List.append_assoc]
        exact .append_left _ (.append_left _ (.append_left _ List.perm_append_comm))
      · simpa only [List.append_assoc] using h.order.append (List.Sublist.refl [(e, rh)])
    · simp only [if_neg hopen]
      exact h.returned _ _ rfl rfl
  | process =>
    simp only [step] at hstep
    split at hstep
    · cases hstep
    · rename_i item rest hbuf
      cases hstep
      simp only [LinkEvent.posted, List.append_nil]
      split
      · exact h.same (by simp [hbuf]) rfl
      · exact h.drop (by rw [hbuf]; exact List.perm_middle)
          (by rw [hbuf]; exact (List.sublist_cons_self item rest).append_left _) rfl
  | recv =>
    simp only [step] at hstep
    split at hstep
    · cases hstep
    · rename_i item rest htransit
      cases hstep
      simp only [LinkEvent.posted, List.append_nil]
      exact h.same (by simp [htransit]) rfl
  | fail e rh =>
    simp only [step] at hstep
    split at hstep
    · rename_i hmem
      cases hstep
      simp only [LinkEvent.posted, List.append_nil]
      obtain ⟨pre, post, -, htransit, herase⟩ := List.exists_erase_eq hmem
      have hperm : (l.served ++ l.transit ++ l.buffer).Perm
          ((e, rh) :: (l.served ++ l.transit.erase (e, rh) ++ l.buffer)) := by
        rw [herase, htransit]
        simpa only [List.append_assoc, List.cons_append] using
          @List.perm_middle _ (e, rh) (l.served ++ pre) (post ++ l.buffer)
      exact h.drop hperm (((List.erase_sublist _ _).append_left _).append_right _) rfl
    · cases hstep
  | closeTx =>
    cases hstep
    simp only [LinkEvent.posted, List.append_nil]
    exact h.same rfl rfl
  | closeBuffer =>
    simp only [step] at hstep
    split at hstep <;> cases hstep
    simp only [LinkEvent.posted, List.append_nil]
    exact h.same rfl rfl

/-- Every run keeps the accounts, with what it posts. -/
theorem run_accounts {evs : List LinkEvent} (h : l.Accounts posted) (hrun : l.run evs = some l') :
    l'.Accounts (posted ++ evs.flatMap LinkEvent.posted) := by
  induction evs generalizing l posted with
  | nil => cases hrun; simpa using h
  | cons ev evs ih =>
    obtain ⟨l₁, hstep, hrun⟩ := Option.bind_eq_some.mp hrun
    simpa [List.append_assoc] using ih (step_accounts h hstep) hrun

end Link

/-- Over every interleaving of posts to a client, turns of its buffer's task,
deliveries to the server, transport failures and closings, every envelope
posted is, exactly once, served, in transit, queued, or returned to its handle;
and those served, in transit and queued are in the order they were posted. -/
theorem link_accounts (evs : List LinkEvent) (l : Link) (hrun : Link.new.run evs = some l) :
    (evs.flatMap LinkEvent.posted).Perm (l.served ++ l.transit ++ l.buffer ++ l.returned.map Prod.fst) ∧
      (l.served ++ l.transit ++ l.buffer).Sublist (evs.flatMap LinkEvent.posted) := by
  have hnew : Link.new.Accounts [] := ⟨.nil, .slnil⟩
  have h := Link.run_accounts hnew hrun
  exact ⟨h.perm, h.order⟩

/-- Two posts: the first is delivered, the transport closes, and the second
comes back `BrokenLink`. -/
theorem link_accounts_close :
    let e₁ := MessageEnvelope.newUnknown (unknownActorId.portId 1024) ⟨"u", [1]⟩
    let e₂ := MessageEnvelope.newUnknown (unknownActorId.portId 1024) ⟨"u", [2]⟩
    let evs := [LinkEvent.post e₁ .monitored, .post e₂ .monitored, .process, .closeTx, .process, .recv]
    let l : Link := ⟨[], true, [], false, [(e₁, .monitored)],
      [((e₂, .monitored), some (.brokenLink "failed to enqueue in MailboxClient"))]⟩
    Link.new.run evs = some l ∧
      (evs.flatMap LinkEvent.posted).Perm (l.served ++ l.transit ++ l.buffer ++ l.returned.map Prod.fst) ∧
      (l.served ++ l.transit ++ l.buffer).Sublist (evs.flatMap LinkEvent.posted) := by
  intro e₁ e₂ evs l
  have hrun : Link.new.run evs = some l := rfl
  exact ⟨hrun, link_accounts evs l hrun⟩

end Hyperactor
