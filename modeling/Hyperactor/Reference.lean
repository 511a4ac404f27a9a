import Mathlib.Data.Char
import Mathlib.Data.Prod.Lex
import Mathlib.Data.List.Lex
import Mathlib.Order.WithBot

/-!
# Identifiers and the routing order on references

`WorldId`, `ProcId`, `ActorId` and `PortId` name the runtime's entities; a
`Reference` is the key of the prefix routing tables (`MailboxRouter`,
`DialMailboxRouter`). `reference.rs` is not among the sources, so the order and
the prefix relation are modelled from the spec: references are ordered
lexicographically by world, rank, actor name, pid and port, an absent component
sorting first, and `is_prefix_of` holds of a world or proc reference exactly for
the references inside it, and of any other reference only for itself.

The two facts the routers rely on are proved here: a prefix never sorts after
what it prefixes (`Reference.IsPrefixOf.le`), and the references a given one
prefixes form an interval of the order starting at it
(`Reference.isPrefixOf_of_le_of_le`). Over an actor, the prefixes are its world,
its proc and itself (`Reference.isPrefixOf_actor_iff`).
-/

namespace Hyperactor

/-- A world, named by a string. -/
@[ext]
structure WorldId where
  name : String
  deriving DecidableEq, Repr

/-- A proc: a rank in a world. -/
@[ext]
structure ProcId where
  world : WorldId
  rank : Nat
  deriving DecidableEq, Repr

/-- An actor: a named, pid-indexed actor in a proc. -/
@[ext]
structure ActorId where
  proc : ProcId
  name : String
  pid : Nat
  deriving DecidableEq, Repr

/-- A port of an actor; the index is the `u64` port index. -/
@[ext]
structure PortId where
  actorId : ActorId
  index : Nat
  deriving DecidableEq, Repr

/-- A gang: a named group of actors in a world. -/
@[ext]
structure GangId where
  world : WorldId
  name : String
  deriving DecidableEq, Repr

/-- `ActorId::port_id`. -/
def ActorId.portId (a : ActorId) (index : Nat) : PortId := ⟨a, index⟩

/-- The display form the mailbox tests print: `world[rank].name[pid]`. -/
instance : ToString ActorId where
  toString a := s!"{a.proc.world.name}[{a.proc.rank}].{a.name}[{a.pid}]"

/-- The display form of a port: `world[rank].name[pid][index]`. -/
instance : ToString PortId where
  toString p := s!"{p.actorId}[{p.index}]"

/-- Modelled from the spec: `Reference`, the universal hierarchical reference. -/
inductive Reference where
  | world (id : WorldId)
  | proc (id : ProcId)
  | actor (id : ActorId)
  | port (id : PortId)
  | gang (id : GangId)
  deriving DecidableEq, Repr

namespace Reference

/-- The world id of the reference. -/
def worldId : Reference → WorldId
  | world w => w
  | proc p => p.world
  | actor a => a.proc.world
  | port p => p.actorId.proc.world
  | gang g => g.world

/-- The proc id of the reference, if any. -/
def procId : Reference → Option ProcId
  | world _ => none
  | proc p => some p
  | actor a => some a.proc
  | port p => some p.actorId.proc
  | gang _ => none

/-- The actor name of the reference, if any. -/
def actorName : Reference → Option String
  | world _ => none
  | proc _ => none
  | actor a => some a.name
  | port p => some p.actorId.name
  | gang g => some g.name

/-- The pid of the reference, if any. -/
def pid : Reference → Option Nat
  | actor a => some a.pid
  | port p => some p.actorId.pid
  | _ => none

/-- The port of the reference, if any. -/
def port? : Reference → Option Nat
  | port p => some p.index
  | _ => none

/-- Modelled from the spec: `Reference::is_prefix_of`. -/
def isPrefixOf (self other : Reference) : Bool :=
  match self with
  | world _ => self.worldId == other.worldId
  | proc _ => self.procId == other.procId
  | _ => self == other

/-- `From<ActorId> for Reference`. -/
instance : Coe ActorId Reference := ⟨actor⟩

/-! ## The order -/

/-- The rank of the reference, if any. -/
def rank (r : Reference) : WithBot ℕ := r.procId.map ProcId.rank

/-- The sort key of a reference: world, rank, actor name, pid and port,
compared lexicographically, an absent component first. -/
abbrev Key := List Char ×ₗ WithBot ℕ ×ₗ WithBot (List Char) ×ₗ WithBot ℕ ×ₗ WithBot ℕ

/-- Modelled from the spec: the tuple `Ord for Reference` compares. -/
def key (r : Reference) : Key :=
  toLex (r.worldId.name.data,
    toLex (r.rank,
      toLex ((r.actorName.map String.data : WithBot (List Char)),
        toLex ((r.pid : WithBot ℕ), (r.port? : WithBot ℕ)))))

theorem withBot_some_inj {α : Type} {a b : α} : @Eq (WithBot α) (some a) (some b) ↔ a = b :=
  Option.some_inj

theorem key_injective : Function.Injective key := by
  intro r r' h
  simp only [key, toLex_inj, Prod.mk.injEq] at h
  obtain ⟨hw, hp, hn, hi, hx⟩ := h
  cases r <;> cases r' <;>
    simp_all [worldId, procId, rank, actorName, pid, port?, withBot_some_inj, WorldId.ext_iff,
      ProcId.ext_iff, ActorId.ext_iff, PortId.ext_iff, GangId.ext_iff, String.ext_iff]

/-- Modelled from the spec: `Ord for Reference`. -/
instance : LinearOrder Reference := LinearOrder.lift' key key_injective

theorem le_iff_key {r r' : Reference} : r ≤ r' ↔ r.key ≤ r'.key := Iff.rfl

theorem worldName_le_of_le {r r' : Reference} (h : r ≤ r') :
    r.worldId.name.data ≤ r'.worldId.name.data :=
  Prod.Lex.monotone_fst _ _ h

/-- Two references of one world compare by their ranks first. -/
theorem rank_le_of_le {r r' : Reference} (h : r ≤ r') (hw : r.worldId = r'.worldId) :
    r.rank ≤ r'.rank := by
  have h' := (Prod.Lex.le_iff _ _).mp (le_iff_key.mp h)
  simp only [key, hw, lt_self_iff_false, true_and, false_or] at h'
  exact Prod.Lex.monotone_fst _ _ h'

theorem worldId_eq_of_le_of_le {r k k' : Reference} (h₁ : r ≤ k) (h₂ : k ≤ k')
    (hw : k'.worldId = r.worldId) : k.worldId = r.worldId := by
  have hi := worldName_le_of_le h₂
  rw [hw] at hi
  exact WorldId.ext (String.ext (le_antisymm hi (worldName_le_of_le h₁)))

/-! ## Prefixes -/

/-- The prefix relation as a proposition. -/
abbrev IsPrefixOf (r k : Reference) : Prop := r.isPrefixOf k = true

theorem isPrefixOf_world {w : WorldId} {k : Reference} :
    IsPrefixOf (world w) k ↔ k.worldId = w := by
  simp only [IsPrefixOf, isPrefixOf, worldId, beq_iff_eq]
  exact eq_comm

theorem isPrefixOf_proc {p : ProcId} {k : Reference} :
    IsPrefixOf (proc p) k ↔ k.procId = some p := by
  simp only [IsPrefixOf, isPrefixOf, procId, beq_iff_eq]
  exact eq_comm

theorem isPrefixOf_of_eq_self {r k : Reference} (hr : ∀ w, r ≠ world w) (hp : ∀ p, r ≠ proc p) :
    IsPrefixOf r k ↔ k = r := by
  cases r with
  | world w => exact absurd rfl (hr w)
  | proc p => exact absurd rfl (hp p)
  | actor _ | port _ | gang _ =>
    simp only [IsPrefixOf, isPrefixOf, beq_iff_eq]
    exact eq_comm

/-- The prefixes of an actor are its world, its proc and the actor itself. -/
theorem isPrefixOf_actor_iff {r : Reference} {d : ActorId} :
    IsPrefixOf r (actor d) ↔ r = world d.proc.world ∨ r = proc d.proc ∨ r = actor d := by
  cases r <;> simp [IsPrefixOf, isPrefixOf, worldId, procId]

theorem worldId_of_procId {k : Reference} {p : ProcId} (hk : k.procId = some p) :
    k.worldId = p.world := by
  cases k <;> simp_all [procId, worldId]

/-- A prefix never sorts after what it prefixes. -/
theorem IsPrefixOf.le {r k : Reference} (h : IsPrefixOf r k) : r ≤ k := by
  cases r with
  | world w =>
    have hk : k.worldId = w := isPrefixOf_world.mp h
    exact (Prod.Lex.le_iff _ _).mpr (Or.inr ⟨congrArg (·.name.data) hk.symm, bot_le⟩)
  | proc p =>
    have hk : k.procId = some p := isPrefixOf_proc.mp h
    have hw := worldId_of_procId hk
    refine (Prod.Lex.le_iff _ _).mpr (Or.inr ⟨congrArg (·.name.data) hw.symm, ?_⟩)
    exact (Prod.Lex.le_iff _ _).mpr (Or.inr ⟨by simp only [rank, hk]; rfl, bot_le⟩)
  | actor _ | port _ | gang _ =>
    exact le_of_eq ((isPrefixOf_of_eq_self (by simp) (by simp)).mp h).symm

/-- The references a reference prefixes are contiguous in the order: anything
sorting between a reference and one it prefixes is prefixed by it too. -/
theorem isPrefixOf_of_le_of_le {r k k' : Reference} (h₁ : r ≤ k) (h₂ : k ≤ k')
    (hk' : IsPrefixOf r k') : IsPrefixOf r k := by
  cases r with
  | world w => exact isPrefixOf_world.mpr (worldId_eq_of_le_of_le h₁ h₂ (isPrefixOf_world.mp hk'))
  | proc p =>
    have hp := isPrefixOf_proc.mp hk'
    have hw := worldId_eq_of_le_of_le h₁ h₂ (worldId_of_procId hp)
    have lo := rank_le_of_le h₁ hw.symm
    have hi := rank_le_of_le h₂ (hw.trans (worldId_of_procId hp).symm)
    have hr : k.rank = some p.rank := le_antisymm (by simpa [rank, hp] using hi) lo
    refine isPrefixOf_proc.mpr ?_
    cases k <;> simp_all [rank, procId, worldId, withBot_some_inj, ProcId.ext_iff]
  | actor _ | port _ | gang _ =>
    have hk := (isPrefixOf_of_eq_self (by simp) (by simp)).mp hk'
    subst hk
    exact (isPrefixOf_of_eq_self (by simp) (by simp)).mpr (le_antisymm h₂ h₁)

end Reference

end Hyperactor
