import Hyperactor.Mailbox.Envelope

/-!
# The server loop and its stop signal

`MailboxServer::serve` spawns a task that loops: it reads the stop flag
(`borrow_and_update` on a watch channel whose sender the returned
`MailboxServerHandle` holds) and returns `Ok` once the flag is set; otherwise it
waits in a `select!` on the transport's `rx.recv()` and, unless detached, on
`stopped_rx.changed()`. An envelope is posted to the server's sender; a closed
transport ends the task with `Ok`, another transport error with that error; a
change of the flag goes back to the head of the loop, and a closed flag channel
(the handle dropped) detaches that branch for good.

`MailboxServerHandle::stop` sets the flag, and panics with "stop called twice"
when the send fails, which a watch channel does once its receiver is gone, that
is, once the task has returned: a second `stop` while the task runs does not
panic, and a first `stop` after the transport closed does.

`Server.step` is one event of any interleaving of the task and the handle's
owner (`ServeEvent`). Every run from `serve` keeps `Server.Inv`: the branch is
detached only once the handle is gone, and the flag's version is the one the
task saw unless a stop came since.

* `stop_bounds_serve`: after a `stop` returns, the task posts at most one more
  envelope and takes at most two more steps, and until it has returned it can
  always take one;
* `detached_serves`: once the handle is dropped without a stop, `changed` fires
  at most once more, so the loop does not spin on the closed channel, and the
  task returns only when the transport closes or fails.
-/

namespace Hyperactor

/-- Where the serve task is. -/
inductive ServePhase where
  /-- At the head of the loop, about to read the stop flag. -/
  | head
  /-- In `select!` on `rx.recv()` and, unless detached, `stopped_rx.changed()`. -/
  | select
  /-- Returned, with the task's result (`Err` is the transport's error). -/
  | done (result : Except String Unit)

/-- The serve task, its watch channel `(stopped_tx, stopped_rx)`, and what it posted. -/
structure Server where
  phase : ServePhase
  detached : Bool
  /-- The flag's value and version, and the version `stopped_rx` has seen. -/
  stopped : Bool
  version : Nat
  seen : Nat
  /-- Whether the handle still holds `stopped_tx`. -/
  txAlive : Bool
  /-- The envelopes the task posted to its sender, in order. -/
  posted : List MessageEnvelope

/-- One event of the task or of the handle's owner. -/
inductive ServeEvent where
  /-- The head of the loop: `borrow_and_update` on the flag. -/
  | check
  /-- `select!`: `rx.recv()` yields an envelope. -/
  | recv (envelope : MessageEnvelope)
  /-- `select!`: `rx.recv()` fails with `ChannelError::Closed`. -/
  | closed
  /-- `select!`: `rx.recv()` fails with another channel error. -/
  | error (err : String)
  /-- `select!`: `stopped_rx.changed()` completes. -/
  | changed
  /-- `MailboxServerHandle::stop`. -/
  | stop
  /-- The handle is dropped, and `stopped_tx` with it. -/
  | drop
  deriving DecidableEq

namespace ServeEvent

/-- Whether the serve task takes the event. -/
def byTask : ServeEvent → Bool
  | .stop | .drop => false
  | _ => true

/-- The envelopes the event has the task post. -/
def posts : ServeEvent → List MessageEnvelope
  | .recv e => [e]
  | _ => []

end ServeEvent

namespace Server

/-- `MailboxServer::serve`: the task at the head of its loop, the flag unset. -/
def serve : Server := ⟨.head, false, false, 0, 0, true, []⟩

/-- Whether the task still holds `stopped_rx`: it drops it when it returns. -/
def rxAlive (s : Server) : Bool :=
  match s.phase with
  | .done _ => false
  | _ => true

/-- `MailboxServerHandle::stop`: `stopped_tx.send(true).expect(..)`. The send
fails once no receiver is left. -/
def stop (s : Server) : Except String Server :=
  if s.rxAlive then .ok { s with stopped := true, version := s.version + 1 }
  else .error "stop called twice"

/-- One event; `none` when it cannot happen, or for a `stop` that panics. -/
def step (s : Server) : ServeEvent → Option Server
  | .check => match s.phase with
    | .head => some { s with seen := s.version, phase := if s.stopped then .done (.ok ()) else .select }
    | _ => none
  | .recv e => match s.phase with
    | .select => some { s with posted := s.posted ++ [e], phase := .head }
    | _ => none
  | .closed => match s.phase with
    | .select => some { s with phase := .done (.ok ()) }
    | _ => none
  | .error err => match s.phase with
    | .select => some { s with phase := .done (.error err) }
    | _ => none
  | .changed => match s.phase with
    | .select =>
      if s.detached then none
      else if s.seen ≠ s.version then some { s with seen := s.version, detached := false, phase := .head }
      else if s.txAlive then none
      else some { s with detached := true, phase := .head }
    | _ => none
  | .stop => if s.txAlive then s.stop.toOption else none
  | .drop => if s.txAlive then some { s with txAlive := false } else none

/-- A run of events. -/
def run (s : Server) : List ServeEvent → Option Server
  | [] => some s
  | ev :: evs => (s.step ev).bind fun s => s.run evs

/-! ## The invariant -/

/-- What every run from `serve` keeps: the branch is detached only once the
handle is gone, the task has seen no version past the flag's, and, until a stop,
the version the task saw is the flag's. -/
structure Inv (s : Server) : Prop where
  detached : s.detached = true → s.txAlive = false
  seen_le : s.seen ≤ s.version
  unstopped : s.stopped = false → s.seen = s.version

theorem serve_inv : serve.Inv := ⟨nofun, le_rfl, fun _ => rfl⟩

variable {s s' : Server} {ev : ServeEvent}

/-- Everything one step can do: the task's `check` at the head of the loop; in
`select!`, a receive, a closed or failed transport, or `changed` on a new
version or on the closed flag channel; the owner's `stop`, while the task runs;
and the handle's drop. -/
theorem step_cases (h : s.step ev = some s') :
    (ev = .check ∧ s.phase = .head ∧
      s' = { s with seen := s.version, phase := if s.stopped then .done (.ok ()) else .select }) ∨
    (s.phase = .select ∧
      ((∃ e, ev = .recv e ∧ s' = { s with posted := s.posted ++ [e], phase := .head }) ∨
        (ev = .closed ∧ s' = { s with phase := .done (.ok ()) }) ∨
        (∃ err, ev = .error err ∧ s' = { s with phase := .done (.error err) }) ∨
        (ev = .changed ∧ s.detached = false ∧
          (s.seen ≠ s.version ∧ s' = { s with seen := s.version, detached := false, phase := .head } ∨
            s.seen = s.version ∧ s.txAlive = false ∧ s' = { s with detached := true, phase := .head })))) ∨
    (ev = .stop ∧ s.txAlive = true ∧ s.rxAlive = true ∧
      s' = { s with stopped := true, version := s.version + 1 }) ∨
    (ev = .drop ∧ s.txAlive = true ∧ s' = { s with txAlive := false }) := by
  cases ev with
  | check =>
    simp only [step] at h
    split at h <;> cases h
    exact .inl ⟨rfl, ‹_›, rfl⟩
  | recv e =>
    simp only [step] at h
    split at h <;> cases h
    exact .inr (.inl ⟨‹_›, .inl ⟨e, rfl, rfl⟩⟩)
  | closed =>
    simp only [step] at h
    split at h <;> cases h
    exact .inr (.inl ⟨‹_›, .inr (.inl ⟨rfl, rfl⟩)⟩)
  | error err =>
    simp only [step] at h
    split at h <;> cases h
    exact .inr (.inl ⟨‹_›, .inr (.inr (.inl ⟨err, rfl, rfl⟩))⟩)
  | changed =>
    simp only [step] at h
    split at h
    · rename_i hphase
      split_ifs at h with hdet hseen htx <;> cases h
      · exact .inr (.inl ⟨hphase, .inr (.inr (.inr ⟨rfl, by simpa using hdet,
          .inl ⟨hseen, rfl⟩⟩))⟩)
      · exact .inr (.inl ⟨hphase, .inr (.inr (.inr ⟨rfl, by simpa using hdet,
          .inr ⟨not_not.mp hseen, by simpa using htx, rfl⟩⟩))⟩)
    · cases h
  | stop =>
    simp only [step, Server.stop] at h
    split_ifs at h with htx halive <;> simp only [Except.toOption, Option.some.injEq, reduceCtorEq] at h
    exact .inr (.inr (.inl ⟨rfl, htx, halive, h.symm⟩))
  | drop =>
    simp only [step] at h
    split_ifs at h with htx
    cases h
    exact .inr (.inr (.inr ⟨rfl, htx, rfl⟩))

theorem step_inv (h : s.step ev = some s') (hs : s.Inv) : s'.Inv := by
  rcases step_cases h with ⟨-, -, rfl⟩ | ⟨-, ⟨e, -, rfl⟩ | ⟨-, rfl⟩ | ⟨err, -, rfl⟩ |
    ⟨-, -, ⟨-, rfl⟩ | ⟨-, htx, rfl⟩⟩⟩ | ⟨-, -, -, rfl⟩ | ⟨-, -, rfl⟩
  · exact ⟨hs.detached, le_rfl, fun _ => rfl⟩
  · exact ⟨hs.detached, hs.seen_le, hs.unstopped⟩
  · exact ⟨hs.detached, hs.seen_le, hs.unstopped⟩
  · exact ⟨hs.detached, hs.seen_le, hs.unstopped⟩
  · exact ⟨nofun, le_rfl, fun _ => rfl⟩
  · exact ⟨fun _ => htx, hs.seen_le, hs.unstopped⟩
  · exact ⟨hs.detached, Nat.le_succ_of_le hs.seen_le, nofun⟩
  · exact ⟨fun _ => rfl, hs.seen_le, hs.unstopped⟩

theorem run_inv {evs : List ServeEvent} (h : s.run evs = some s') (hs : s.Inv) : s'.Inv := by
  induction evs generalizing s with
  | nil => cases h; exact hs
  | cons ev evs ih =>
    obtain ⟨s₁, hstep, hrun⟩ := Option.bind_eq_some.mp h
    exact ih hrun (step_inv hstep hs)

/-! ## After a stop -/

/-- A stop has been signalled: the flag is set, and a task waiting in `select!`
has not seen the new version, so its `changed` branch is live. -/
structure Stopping (s : Server) : Prop where
  stopped : s.stopped = true
  live : s.phase = .select → s.seen < s.version ∧ s.detached = false

/-- The steps the task can still take: at most two from `select!`, one from the head. -/
def taskBudget (s : Server) : Nat :=
  match s.phase with
  | .head => 1
  | .select => 2
  | .done _ => 0

/-- The envelopes the task can still post: one from `select!`. -/
def postBudget (s : Server) : Nat :=
  match s.phase with
  | .select => 1
  | _ => 0

/-- A `stop` that returns leaves the server stopping. -/
theorem stop_stopping (h : s.step .stop = some s') (hs : s.Inv) : s'.Stopping := by
  simp only [step, Server.stop] at h
  split_ifs at h with htx halive <;> simp only [Except.toOption, Option.some.injEq, reduceCtorEq] at h
  subst h
  refine ⟨rfl, fun _ => ⟨Nat.lt_succ_of_le hs.seen_le, ?_⟩⟩
  cases hd : s.detached
  · rfl
  · exact absurd (hs.detached hd) (by simp [htx])

/-- The posts of a step are its `recv`'s envelope. -/
theorem step_posted (h : s.step ev = some s') : s'.posted = s.posted ++ ev.posts := by
  rcases step_cases h with ⟨rfl, -, rfl⟩ | ⟨-, ⟨e, rfl, rfl⟩ | ⟨rfl, rfl⟩ | ⟨err, rfl, rfl⟩ |
    ⟨rfl, -, ⟨-, rfl⟩ | ⟨-, -, rfl⟩⟩⟩ | ⟨rfl, -, -, rfl⟩ | ⟨rfl, -, rfl⟩ <;>
    simp [ServeEvent.posts]

theorem run_posted {evs : List ServeEvent} (h : s.run evs = some s') :
    s'.posted = s.posted ++ evs.flatMap ServeEvent.posts := by
  induction evs generalizing s with
  | nil => cases h; simp
  | cons ev evs ih =>
    obtain ⟨s₁, hstep, hrun⟩ := Option.bind_eq_some.mp h
    rw [ih hrun, step_posted hstep, List.flatMap_cons, List.append_assoc]

/-- Each event keeps a stopping server stopping, and a task event uses up one of
its steps, a `recv` one of its posts. -/
theorem step_stopping (h : s.step ev = some s') (hst : s.Stopping) :
    s'.Stopping ∧ s'.taskBudget + ev.byTask.toNat ≤ s.taskBudget ∧
      s'.postBudget + ev.posts.length ≤ s.postBudget := by
  rcases step_cases h with ⟨rfl, hphase, rfl⟩ | ⟨hphase, hsel⟩ | ⟨rfl, -, -, rfl⟩ | ⟨rfl, -, rfl⟩
  · simp only [hst.stopped, if_true]
    refine ⟨⟨rfl, nofun⟩, ?_, ?_⟩ <;>
      simp [taskBudget, postBudget, hphase, ServeEvent.byTask, ServeEvent.posts]
  · -- In `select!`, the stop's new version makes `changed` report it, not the closed channel.
    rcases hsel with ⟨e, rfl, rfl⟩ | ⟨rfl, rfl⟩ | ⟨err, rfl, rfl⟩ |
      ⟨rfl, -, ⟨-, rfl⟩ | ⟨hseen, -, -⟩⟩
    rotate_left 4
    · exact absurd hseen (Nat.ne_of_lt (hst.live hphase).1)
    all_goals refine ⟨⟨hst.stopped, nofun⟩, ?_, ?_⟩ <;>
      simp [taskBudget, postBudget, hphase, ServeEvent.byTask, ServeEvent.posts]
  · refine ⟨⟨rfl, fun hsel => ?_⟩, ?_, ?_⟩
    · exact ⟨Nat.lt_succ_of_lt (hst.live hsel).1, (hst.live hsel).2⟩
    all_goals simp [taskBudget, postBudget, ServeEvent.byTask, ServeEvent.posts]
  · refine ⟨⟨hst.stopped, hst.live⟩, ?_, ?_⟩ <;>
      simp [taskBudget, postBudget, ServeEvent.byTask, ServeEvent.posts]

theorem run_stopping {evs : List ServeEvent} (h : s.run evs = some s') (hst : s.Stopping) :
    s'.Stopping ∧ (evs.filter ServeEvent.byTask).length + s'.taskBudget ≤ s.taskBudget ∧
      (evs.flatMap ServeEvent.posts).length + s'.postBudget ≤ s.postBudget := by
  induction evs generalizing s with
  | nil => cases h; simp [hst]
  | cons ev evs ih =>
    obtain ⟨s₁, hstep, hrun⟩ := Option.bind_eq_some.mp h
    obtain ⟨hst₁, htask, hpost⟩ := step_stopping hstep hst
    obtain ⟨hst', htask', hpost'⟩ := ih hrun hst₁
    refine ⟨hst', ?_, ?_⟩
    · cases hb : ev.byTask <;> simp only [hb, Bool.toNat_false, Bool.toNat_true] at htask <;>
        simp [List.filter_cons, hb] <;> omega
    · simp only [List.flatMap_cons, List.length_append]
      omega

/-- A stopping task that has not returned can always take a step: `check` at
the head of the loop, `changed` in `select!`. -/
theorem stopping_progress (hst : s.Stopping) :
    s.rxAlive = false ∨ (s.step .check).isSome ∨ (s.step .changed).isSome := by
  rcases hphase : s.phase with _ | _ | r
  · exact .inr (.inl (by simp [step, hphase]))
  · obtain ⟨hlt, hdet⟩ := hst.live hphase
    exact .inr (.inr (by simp [step, hphase, hdet, Nat.ne_of_lt hlt]))
  · exact .inl (by simp [rxAlive, hphase])

/-! ## After the handle is dropped -/

/-- The handle is gone and no stop came: nobody can set the flag any more. -/
structure Detaching (s : Server) : Prop where
  dropped : s.txAlive = false
  unstopped : s.stopped = false

/-- The times `changed` can still fire: once, until the branch is detached. -/
def changedBudget (s : Server) : Nat := if s.detached then 0 else 1

/-- Each event keeps a detaching server detaching; `changed` uses up the branch,
and the task returns only on a closed or failed transport. -/
theorem step_detaching (h : s.step ev = some s') (hs : s.Inv) (hd : s.Detaching) :
    s'.Detaching ∧ s'.changedBudget + (if ev = .changed then 1 else 0) ≤ s.changedBudget ∧
      (s.rxAlive = true → s'.rxAlive = false → ev = .closed ∨ ∃ err, ev = .error err) := by
  rcases step_cases h with ⟨rfl, -, rfl⟩ | ⟨-, ⟨e, rfl, rfl⟩ | ⟨rfl, rfl⟩ | ⟨err, rfl, rfl⟩ |
    ⟨rfl, hdet, ⟨hseen, -⟩ | ⟨-, -, rfl⟩⟩⟩ | ⟨rfl, htx, -⟩ | ⟨rfl, htx, -⟩
  · exact ⟨⟨hd.dropped, hd.unstopped⟩, by simp [changedBudget], by simp [rxAlive, hd.unstopped]⟩
  · exact ⟨⟨hd.dropped, hd.unstopped⟩, by simp [changedBudget], by simp [rxAlive]⟩
  · exact ⟨⟨hd.dropped, hd.unstopped⟩, by simp [changedBudget], fun _ _ => .inl rfl⟩
  · exact ⟨⟨hd.dropped, hd.unstopped⟩, by simp [changedBudget], fun _ _ => .inr ⟨err, rfl⟩⟩
  · exact absurd (hs.unstopped hd.unstopped) hseen
  · exact ⟨⟨hd.dropped, hd.unstopped⟩, by simp [changedBudget, hdet], by simp [rxAlive]⟩
  all_goals exact absurd htx (by simp [hd.dropped])

theorem run_detaching {evs : List ServeEvent} (h : s.run evs = some s') (hs : s.Inv) (hd : s.Detaching) :
    evs.count .changed + s'.changedBudget ≤ s.changedBudget ∧
      (s.rxAlive = true → s'.rxAlive = false → .closed ∈ evs ∨ ∃ err, .error err ∈ evs) := by
  induction evs generalizing s with
  | nil => cases h; exact ⟨by simp, fun h₁ h₂ => by simp [h₁] at h₂⟩
  | cons ev evs ih =>
    obtain ⟨s₁, hstep, hrun⟩ := Option.bind_eq_some.mp h
    obtain ⟨hd₁, hbud, hend⟩ := step_detaching hstep hs hd
    obtain ⟨hbud', hend'⟩ := ih hrun (step_inv hstep hs) hd₁
    refine ⟨?_, fun halive hdone => ?_⟩
    · simp only [List.count_cons, beq_iff_eq]
      split_ifs at hbud ⊢ <;> omega
    · cases h₁ : s₁.rxAlive
      · rcases hend halive h₁ with rfl | ⟨err, rfl⟩
        · exact .inl (.head _)
        · exact .inr ⟨err, .head _⟩
      · rcases hend' h₁ hdone with hc | ⟨err, he⟩
        · exact .inl (.tail _ hc)
        · exact .inr ⟨err, .tail _ he⟩

theorem taskBudget_le (s : Server) : s.taskBudget ≤ 2 := by
  unfold taskBudget; split <;> decide

theorem postBudget_le (s : Server) : s.postBudget ≤ 1 := by
  unfold postBudget; split <;> decide

theorem changedBudget_le (s : Server) : s.changedBudget ≤ 1 := by
  unfold changedBudget; split <;> decide

end Server

/-- After a `stop` returns, in every interleaving that follows, the serve task
takes at most two more steps and posts at most one more envelope; until it has
returned it can always take a step (`check` or `changed`). -/
theorem stop_bounds_serve (evs : List ServeEvent) (s : Server) (hrun : Server.serve.run evs = some s)
    (s₁ : Server) (hstop : s.step .stop = some s₁) (evs' : List ServeEvent) (s' : Server)
    (hrun' : s₁.run evs' = some s') :
    (evs'.filter ServeEvent.byTask).length ≤ 2 ∧
      (∃ late, s'.posted = s.posted ++ late ∧ late.length ≤ 1) ∧
      (s'.rxAlive = false ∨ (s'.step .check).isSome ∨ (s'.step .changed).isSome) := by
  have hst₁ := Server.stop_stopping hstop (Server.run_inv hrun Server.serve_inv)
  obtain ⟨hst', htask, hpost⟩ := Server.run_stopping hrun' hst₁
  have := s₁.taskBudget_le
  have := s₁.postBudget_le
  refine ⟨by omega, ⟨evs'.flatMap ServeEvent.posts, ?_, by omega⟩, Server.stopping_progress hst'⟩
  rw [Server.run_posted hrun', Server.step_posted hstop]
  simp [ServeEvent.posts]

/-- The task waits in `select!` when the stop comes; it still posts the envelope
it was receiving, then returns at the head of its loop. -/
theorem stop_bounds_serve_recv :
    let e := MessageEnvelope.newUnknown (unknownActorId.portId 1024) ⟨"u", []⟩
    let s : Server := ⟨.select, false, false, 0, 0, true, []⟩
    let s₁ : Server := ⟨.select, false, true, 1, 0, true, []⟩
    let evs' : List ServeEvent := [.recv e, .check]
    let s' : Server := ⟨.done (.ok ()), false, true, 1, 1, true, [e]⟩
    Server.serve.run [.check] = some s ∧ s.step .stop = some s₁ ∧ s₁.run evs' = some s' ∧
      (evs'.filter ServeEvent.byTask).length ≤ 2 ∧
      (∃ late, s'.posted = s.posted ++ late ∧ late.length ≤ 1) ∧
      (s'.rxAlive = false ∨ (s'.step .check).isSome ∨ (s'.step .changed).isSome) :=
  ⟨rfl, rfl, rfl, stop_bounds_serve [.check] _ rfl _ rfl _ _ rfl⟩

/-- Once the handle is dropped without a stop, in every interleaving that
follows, `changed` fires at most once, and the task returns only when the
transport closes or fails. -/
theorem detached_serves (evs : List ServeEvent) (s : Server) (hrun : Server.serve.run evs = some s)
    (hns : s.stopped = false) (s₁ : Server) (hdrop : s.step .drop = some s₁) (evs' : List ServeEvent)
    (s' : Server) (hrun' : s₁.run evs' = some s') :
    evs'.count .changed ≤ 1 ∧
      (s₁.rxAlive = true → s'.rxAlive = false → .closed ∈ evs' ∨ ∃ err, .error err ∈ evs') := by
  have hs₁ := Server.step_inv hdrop (Server.run_inv hrun Server.serve_inv)
  have hd₁ : s₁.Detaching := by
    simp only [Server.step] at hdrop
    split_ifs at hdrop
    cases hdrop
    exact ⟨rfl, hns⟩
  obtain ⟨hbud, hend⟩ := Server.run_detaching hrun' hs₁ hd₁
  have := s₁.changedBudget_le
  exact ⟨by omega, hend⟩

/-- The handle is dropped before the task first reads the flag: `changed`
reports the closed channel once, the task keeps serving, and returns when the
transport closes. -/
theorem detached_serves_closed :
    let e := MessageEnvelope.newUnknown (unknownActorId.portId 1024) ⟨"u", []⟩
    let s₁ : Server := ⟨.head, false, false, 0, 0, false, []⟩
    let evs' : List ServeEvent := [.check, .changed, .check, .recv e, .check, .closed]
    let s' : Server := ⟨.done (.ok ()), true, false, 0, 0, false, [e]⟩
    Server.serve.run [] = some Server.serve ∧ Server.serve.stopped = false ∧
      Server.serve.step .drop = some s₁ ∧ s₁.run evs' = some s' ∧
      evs'.count .changed ≤ 1 ∧
      (s₁.rxAlive = true → s'.rxAlive = false → .closed ∈ evs' ∨ ∃ err, .error err ∈ evs') :=
  ⟨rfl, rfl, rfl, rfl, detached_serves [] _ rfl rfl _ rfl _ _ rfl⟩

end Hyperactor
