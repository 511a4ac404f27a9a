import Mathlib.Order.Basic
import Mathlib.Data.List.Basic
import Mathlib.Order.Lattice

/-!
# Sorted maps

The routers keep their tables in a `std::collections::BTreeMap`. A `BTreeMap` is
its list of entries in strictly increasing key order, the order carried by the
structure. The operations are the ones the routers call: `insert` (which hands
back the replaced value), `remove`, `get`, `range(from..)`, and the cursor query
`lower_bound(Excluded(x)).prev()`, the entry with the greatest key `≤ x`.

Each operation is characterised by membership of entries (`mem_insert`,
`mem_remove`, `lowerBoundPrev_spec`), so that later proofs never unfold the list
code. `takeWhile_eq_filter` is the scan that `DialMailboxRouter::unbind` runs.
-/

namespace Hyperactor

section Lists

variable {β : Type} {R : β → β → Prop}

/-- The last element of a list sorted by `R` is `R`-above every other one. -/
theorem getLast?_above {l : List β} {b : β} (hl : l.Pairwise R) (hb : l.getLast? = some b) :
    ∀ a ∈ l, a = b ∨ R a b := by
  induction l with
  | nil => simp at hb
  | cons c rest ih =>
    rw [List.pairwise_cons] at hl
    intro a ha
    cases rest with
    | nil => simp_all
    | cons d rest' =>
      have hrest : (d :: rest').getLast? = some b := by simpa using hb
      have hmem : b ∈ d :: rest' := List.mem_of_getLast?_eq_some hrest
      rcases List.mem_cons.mp ha with rfl | ha
      · exact Or.inr (hl.1 b hmem)
      · exact ih hl.2 hrest a ha

/-- `takeWhile` of a sorted list takes exactly the elements satisfying a
predicate that is closed downwards along the order. -/
theorem takeWhile_eq_filter {l : List β} {p : β → Bool} (hl : l.Pairwise R)
    (hp : ∀ a b, R a b → p b → p a) : l.takeWhile p = l.filter p := by
  induction l with
  | nil => rfl
  | cons a rest ih =>
    rw [List.pairwise_cons] at hl
    by_cases ha : p a
    · simp [List.takeWhile_cons, List.filter_cons, ha, ih hl.2]
    · have hnone : rest.filter p = [] :=
        List.filter_eq_nil_iff.mpr fun b hb hpb => ha (hp a b (hl.1 b hb) hpb)
      simp [List.takeWhile_cons, List.filter_cons, ha, hnone]

end Lists

/-- `BTreeMap<K, V>`: entries in strictly increasing key order. -/
structure BTreeMap (κ α : Type) [LinearOrder κ] where
  entries : List (κ × α)
  sorted : entries.Pairwise (fun a b => a.1 < b.1)

namespace BTreeMap

variable {κ α : Type} [LinearOrder κ]

/-- `BTreeMap::new`. -/
def empty : BTreeMap κ α := ⟨[], .nil⟩

/-- `get`: the value bound at a key. -/
def get (m : BTreeMap κ α) (k : κ) : Option α :=
  (m.entries.find? (fun e => e.1 = k)).map Prod.snd

/-- The entry list after inserting `(k, v)` in key order, replacing an entry at `k`. -/
def insertEntry (k : κ) (v : α) : List (κ × α) → List (κ × α)
  | [] => [(k, v)]
  | e :: rest =>
    if k < e.1 then (k, v) :: e :: rest
    else if k = e.1 then (k, v) :: rest
    else e :: insertEntry k v rest

theorem mem_insertEntry {k : κ} {v : α} {l : List (κ × α)} {e : κ × α}
    (hl : l.Pairwise (fun a b => a.1 < b.1)) :
    e ∈ insertEntry k v l ↔ e = (k, v) ∨ (e ∈ l ∧ e.1 ≠ k) := by
  induction l with
  | nil => simp [insertEntry]
  | cons c rest ih =>
    rw [List.pairwise_cons] at hl
    have above : ∀ b ∈ rest, c.1 < b.1 := hl.1
    unfold insertEntry
    split_ifs with hlt heq
    · have hne : ∀ b ∈ c :: rest, b.1 ≠ k := by
        intro b hb
        rcases List.mem_cons.mp hb with rfl | hb
        · exact ne_of_gt hlt
        · exact ne_of_gt (hlt.trans (above b hb))
      rw [List.mem_cons (a := e)]
      exact or_congr_right ⟨fun h => ⟨h, hne e h⟩, And.left⟩
    · have key : e ∈ c :: rest ∧ e.1 ≠ k ↔ e ∈ rest := by
        constructor
        · rintro ⟨hm, hk⟩
          rcases List.mem_cons.mp hm with rfl | hm
          · exact absurd heq.symm hk
          · exact hm
        · exact fun hm => ⟨List.mem_cons_of_mem _ hm, fun h => ne_of_gt (above e hm) (h.trans heq)⟩
      rw [List.mem_cons, key]
    · have hne : e = c → e.1 ≠ k := fun h hk => heq (hk ▸ h ▸ rfl)
      rw [List.mem_cons, ih hl.2, List.mem_cons, or_and_right, and_iff_left_of_imp hne, or_left_comm]

theorem insertEntry_sorted {k : κ} {v : α} {l : List (κ × α)}
    (hl : l.Pairwise (fun a b => a.1 < b.1)) :
    (insertEntry k v l).Pairwise (fun a b => a.1 < b.1) := by
  induction l with
  | nil => simp [insertEntry]
  | cons c rest ih =>
    have hl' := List.pairwise_cons.mp hl
    unfold insertEntry
    split_ifs with hlt heq
    · refine List.Pairwise.cons (fun b hb => ?_) hl
      rcases List.mem_cons.mp hb with rfl | hb
      · exact hlt
      · exact hlt.trans (hl'.1 b hb)
    · exact List.Pairwise.cons (fun b hb => heq ▸ hl'.1 b hb) hl'.2
    · refine List.Pairwise.cons (fun b hb => ?_) (ih hl'.2)
      rcases (mem_insertEntry hl'.2).mp hb with rfl | ⟨hb, -⟩
      · exact lt_of_le_of_ne (not_lt.mp hlt) (Ne.symm heq)
      · exact hl'.1 b hb

/-- `insert`: the value previously bound at `k`, and the map with `k ↦ v`. -/
def insert (m : BTreeMap κ α) (k : κ) (v : α) : Option α × BTreeMap κ α :=
  (m.get k, ⟨insertEntry k v m.entries, insertEntry_sorted m.sorted⟩)

/-- `remove`: the map without the entry at `k`. -/
def remove (m : BTreeMap κ α) (k : κ) : BTreeMap κ α :=
  ⟨m.entries.filter (fun e => e.1 ≠ k), m.sorted.filter _⟩

/-- `range(x..)`: the entries with key `≥ x`, in key order. -/
def range (m : BTreeMap κ α) (x : κ) : List (κ × α) :=
  m.entries.filter (fun e => x ≤ e.1)

/-- `lower_bound(Excluded(x)).prev()`: the entry just before the first key
`> x`, that is the last entry whose key is `≤ x`. -/
def lowerBoundPrev (m : BTreeMap κ α) (x : κ) : Option (κ × α) :=
  (m.entries.filter (fun e => e.1 ≤ x)).getLast?

/-! ## Membership characterisations -/

variable {m : BTreeMap κ α} {k x : κ} {v : α} {e e' : κ × α}

theorem eq_of_pairwise_key {l : List (κ × α)} (hl : l.Pairwise (fun a b => a.1 < b.1))
    (he : e ∈ l) (he' : e' ∈ l) (hk : e.1 = e'.1) : e = e' := by
  induction l with
  | nil => simp at he
  | cons c rest ih =>
    rw [List.pairwise_cons] at hl
    rcases List.mem_cons.mp he with rfl | hr <;> rcases List.mem_cons.mp he' with rfl | hr'
    · rfl
    · exact absurd hk (ne_of_lt (hl.1 e' hr'))
    · exact absurd hk (ne_of_gt (hl.1 e hr))
    · exact ih hl.2 hr hr'

/-- Keys are unique. -/
theorem eq_of_key_eq (he : e ∈ m.entries) (he' : e' ∈ m.entries) (hk : e.1 = e'.1) : e = e' :=
  eq_of_pairwise_key m.sorted he he' hk

theorem get_eq_some : m.get k = some v ↔ (k, v) ∈ m.entries := by
  constructor
  · intro h
    obtain ⟨e, hfind, rfl⟩ := Option.map_eq_some'.mp h
    have hk : e.1 = k := by simpa using List.find?_some hfind
    subst hk
    exact List.mem_of_find?_eq_some hfind
  · intro h
    cases hfind : m.entries.find? (fun e => e.1 = k) with
    | none => exact absurd (List.find?_eq_none.mp hfind _ h) (by simp)
    | some e =>
      have hk : e.1 = k := by simpa using List.find?_some hfind
      have := eq_of_key_eq (List.mem_of_find?_eq_some hfind) h hk
      simp [get, hfind, this]

theorem mem_insert : e ∈ (m.insert k v).2.entries ↔ e = (k, v) ∨ (e ∈ m.entries ∧ e.1 ≠ k) :=
  mem_insertEntry m.sorted

theorem mem_remove : e ∈ (m.remove k).entries ↔ e ∈ m.entries ∧ e.1 ≠ k := by
  simp [remove]

theorem mem_range : e ∈ m.range x ↔ e ∈ m.entries ∧ x ≤ e.1 := by
  simp [range]

theorem range_sorted : (m.range x).Pairwise (fun a b => a.1 < b.1) := m.sorted.filter _

/-- The cursor query finds nothing exactly when every key is `> x`. -/
theorem lowerBoundPrev_eq_none : m.lowerBoundPrev x = none ↔ ∀ e ∈ m.entries, x < e.1 := by
  simp [lowerBoundPrev, List.filter_eq_nil_iff]

/-- The cursor query finds an entry whose key is the greatest key `≤ x`. -/
theorem lowerBoundPrev_spec (h : m.lowerBoundPrev x = some e) :
    e ∈ m.entries ∧ e.1 ≤ x ∧ ∀ e' ∈ m.entries, e'.1 ≤ x → e'.1 ≤ e.1 := by
  have h' : (m.entries.filter (fun e => e.1 ≤ x)).getLast? = some e := h
  have hmem : e ∈ m.entries ∧ e.1 ≤ x := by simpa using List.mem_of_getLast?_eq_some h'
  refine ⟨hmem.1, hmem.2, fun e' he' hle => ?_⟩
  have := getLast?_above (m.sorted.filter _) h' e' (List.mem_filter.mpr ⟨he', by simpa using hle⟩)
  rcases this with rfl | hlt
  · exact le_rfl
  · exact hlt.le

end BTreeMap

end Hyperactor
