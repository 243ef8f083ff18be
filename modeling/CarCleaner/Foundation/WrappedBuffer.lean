import CarCleaner.Foundation.Histories
import Mathlib.Data.List.TakeDrop
import Mathlib.Data.Nat.ModEq

/-!
# Buffers whose index wraps late

A row of slots is filled from the front.  One index is both the place of the next
write and the number of slots a reader takes, and it returns to the first slot
only at the next write after the last slot has been filled.  Every lap around the
row therefore starts with the loss of all slots of the lap before it.
-/

namespace CarCleaner
namespace Foundation

universe u v w

/-- A row of `capacity` slots and the index of the next write. -/
structure WrappedBuffer (slot : Type u) (capacity : Nat) where
  slots : List slot
  next : Nat
  capacity_pos : 0 < capacity
  length_eq : slots.length = capacity
  next_le : next ≤ capacity
deriving DecidableEq

namespace WrappedBuffer

variable {slot : Type u} {capacity : Nat}

/-- The slot of the next write, after the wrap. -/
def index (b : WrappedBuffer slot capacity) : Nat :=
  if capacity ≤ b.next then 0 else b.next

theorem index_lt (b : WrappedBuffer slot capacity) : b.index < capacity := by
  unfold index
  split
  · exact b.capacity_pos
  · omega

/-- A write into the next slot, which may depend on what the slot holds. -/
def store (b : WrappedBuffer slot capacity) (write : slot -> slot) :
    WrappedBuffer slot capacity where
  slots := b.slots.modify b.index write
  next := b.index + 1
  capacity_pos := b.capacity_pos
  length_eq := by
    rw [List.length_modify, b.length_eq]
  next_le := b.index_lt

def kept (b : WrappedBuffer slot capacity) : List slot :=
  b.slots.take b.next

/-- The index returns to the front; the slots stay as they are. -/
def reset (b : WrappedBuffer slot capacity) : WrappedBuffer slot capacity :=
  { b with next := 0, next_le := Nat.zero_le _ }

/-- The slots behind those that a reader takes. -/
def fresh (b : WrappedBuffer slot capacity) : List slot :=
  b.slots.drop b.next

theorem length_kept (b : WrappedBuffer slot capacity) : b.kept.length = b.next := by
  rw [kept, List.length_take, b.length_eq]
  exact Nat.min_eq_left b.next_le

theorem kept_eq_nil {b : WrappedBuffer slot capacity} (h : b.next = 0) :
    b.kept = [] := by
  rw [kept, h, List.take_zero]

/-!
# One write

A write whose result can be read off without the old content of its slot adds
that result to what is kept, after the loss of everything if the row was full.
-/

variable {value : Type v} {view : slot -> value}

theorem take_index (b : WrappedBuffer slot capacity) :
    b.slots.take b.index = if b.next < capacity then b.kept else [] := by
  unfold index
  split
  · next h =>
      rw [if_neg (by omega), List.take_zero]
  · next h =>
      rw [if_pos (by omega), kept]

theorem kept_store (b : WrappedBuffer slot capacity) {write : slot -> slot} {v : value}
    (hwrite : forall s, view (write s) = v) :
    (b.store write).kept.map view =
      (if b.next < capacity then b.kept.map view else []) ++ [v] := by
  have hlt : b.index < b.slots.length := by
    rw [b.length_eq]
    exact b.index_lt
  have hlength : (b.slots.take b.index).length = b.index := by
    rw [List.length_take]
    exact Nat.min_eq_left hlt.le
  have hkept : (b.store write).kept = b.slots.take b.index ++ [write b.slots[b.index]] := by
    change (b.slots.modify b.index write).take (b.index + 1) = _
    rw [List.modify_eq_take_cons_drop hlt, List.take_append, hlength,
      List.take_of_length_le (by omega), Nat.add_sub_cancel_left]
    rfl
  rw [hkept, List.map_append, take_index, apply_ite (List.map view), List.map_singleton,
    hwrite, List.map_nil]

/-- In front of the wrap, a write takes the first of the other slots. -/
theorem store_of_fresh {b : WrappedBuffer slot capacity} {s : slot} {rest : List slot}
    (h : b.fresh = s :: rest) (write : slot -> slot) :
    (b.store write).kept = b.kept ++ [write s] ∧ (b.store write).fresh = rest := by
  have hlt : b.next < capacity := by
    have hlength := congrArg List.length h
    rw [fresh, List.length_drop, b.length_eq, List.length_cons] at hlength
    omega
  have hindex : b.index = b.next := if_neg (not_le.mpr hlt)
  have hstored : (b.store write).slots = b.kept ++ [write s] ++ rest := by
    have hbehind : b.next < b.slots.length := by
      rw [b.length_eq]
      exact hlt
    change b.slots.modify b.index write = _
    rw [hindex, List.modify_eq_take_cons_drop hbehind]
    change b.kept ++ _ = _
    rw [fresh, List.drop_eq_getElem_cons hbehind, List.cons.injEq] at h
    rw [h.1, h.2, List.append_assoc, List.singleton_append]
  have hnext : (b.store write).next = (b.kept ++ [write s]).length := by
    change b.index + 1 = _
    rw [hindex, List.length_append, b.length_kept, List.length_singleton]
  constructor
  · rw [kept, hstored, hnext, List.take_left]
  · rw [fresh, hstored, hnext, List.drop_left]

theorem next_store_of_lt {b : WrappedBuffer slot capacity} (h : b.next < capacity)
    (write : slot -> slot) : (b.store write).next = b.next + 1 := by
  change b.index + 1 = b.next + 1
  rw [index, if_neg (by omega)]

theorem kept_store_of_lt {b : WrappedBuffer slot capacity} (h : b.next < capacity)
    {write : slot -> slot} {v : value} (hwrite : forall s, view (write s) = v) :
    (b.store write).kept.map view = b.kept.map view ++ [v] := by
  rw [kept_store b hwrite, if_pos h]

/-!
# Many writes

The elements that are lost fill whole laps: after `n` writes into an empty
buffer, all but the last lap.  These are the oldest ones in excess of the capacity
only when the row was never overrun or is full.
-/

/-- Number of the writes that precede the last lap of `n` writes. -/
def lapStart (capacity n : Nat) : Nat :=
  capacity * ((n - 1) / capacity)

theorem lapStart_succ {n : Nat} (hpos : 0 < capacity) :
    lapStart capacity (n + 1) =
      if n - lapStart capacity n < capacity then lapStart capacity n else n := by
  unfold lapStart
  cases n with
  | zero =>
      simp [hpos]
  | succ m =>
      have hdivMod := Nat.div_add_mod m capacity
      have hmod := Nat.mod_lt m hpos
      rw [Nat.add_sub_cancel, Nat.add_sub_cancel]
      split
      · next h =>
          have hsame : (m + 1) / capacity = m / capacity := by
            apply Nat.div_eq_of_lt_le
            · rw [Nat.mul_comm]
              omega
            · rw [Nat.add_one_mul, Nat.mul_comm]
              omega
          rw [hsame]
      · next h =>
          have hfull : m + 1 = capacity * (m / capacity + 1) := by
            rw [Nat.mul_add_one]
            omega
          have hnext : (m + 1) / capacity = m / capacity + 1 := by
            rw [hfull, Nat.mul_div_cancel_left _ hpos]
          rw [hnext, <- hfull]

theorem lapStart_le (capacity n : Nat) : lapStart capacity n ≤ n :=
  (Nat.mul_div_le _ _).trans (Nat.sub_le _ _)

/-- What is kept after `n` writes into an empty buffer is the last lap. -/
theorem kept_stateAfter {elem : Type w} {put : elem -> slot -> slot} {f : elem -> value}
    (hput : forall x s, view (put x s) = f x) {b : WrappedBuffer slot capacity}
    (hempty : b.next = 0) (xs : List elem) :
    (stateAfter (fun b x => b.store (put x)) b xs).kept.map view =
      (xs.map f).drop (lapStart capacity xs.length) := by
  refine stateAfter_invariant
    (fun xs (b : WrappedBuffer slot capacity) =>
      b.kept.map view = (xs.map f).drop (lapStart capacity xs.length))
    ?_ ?_ xs
  · simp [kept_eq_nil hempty]
  · intro past x ih
    have hnext := congrArg List.length ih
    simp only [List.length_map, length_kept, List.length_drop] at hnext
    have hle := lapStart_le capacity past.length
    rw [kept_store _ (hput x), ih, hnext, List.length_append, List.length_singleton,
      lapStart_succ b.capacity_pos, List.map_append]
    split
    · rw [List.drop_append_of_le_length (by simpa using hle)]
      rfl
    · rw [List.drop_left' (by simp)]
      rfl

theorem next_stateAfter {elem : Type w} {put : elem -> slot -> slot}
    {b : WrappedBuffer slot capacity} (hempty : b.next = 0) (xs : List elem) :
    (stateAfter (fun b x => b.store (put x)) b xs).next =
      xs.length - lapStart capacity xs.length := by
  let size : slot -> Unit := fun _ => ()
  have hput : forall x s, size (put x s) = (fun _ => () : elem -> Unit) x := fun _ _ => rfl
  have hkept := congrArg List.length (kept_stateAfter hput hempty xs)
  rwa [List.length_map, length_kept, List.length_drop, List.length_map] at hkept

/-- The last lap holds the newest elements only in these cases. -/
theorem lapStart_eq_iff {n : Nat} (hpos : 0 < capacity) :
    lapStart capacity n = n - capacity <-> n ≤ capacity ∨ capacity ∣ n := by
  unfold lapStart
  constructor
  · intro h
    by_cases hle : n ≤ capacity
    · exact Or.inl hle
    · refine Or.inr ⟨(n - 1) / capacity + 1, ?_⟩
      rw [Nat.mul_add_one, h]
      omega
  · intro hlap
    rcases hlap with hle | ⟨k, rfl⟩
    · have hone : (n - 1) / capacity = 0 := Nat.div_eq_of_lt (by omega)
      rw [hone, Nat.mul_zero]
      omega
    · cases k with
      | zero =>
          simp
      | succ k =>
          have hlast : (capacity * (k + 1) - 1) / capacity = k := by
            apply Nat.div_eq_of_lt_le
            · rw [Nat.mul_add_one, Nat.mul_comm]
              omega
            · rw [Nat.mul_comm (k + 1)]
              have hle : capacity * 1 ≤ capacity * (k + 1) :=
                Nat.mul_le_mul_left capacity (by omega)
              omega
          rw [hlast, Nat.mul_add_one, Nat.add_sub_cancel]

/-!
# One slot

Write number `n` into an empty buffer goes to slot `n % capacity`, so a slot has been
written by the elements of one residue class.
-/

/-- The elements that go to slot `i`, oldest first. -/
def landing {elem : Type w} (capacity i : Nat) (xs : List elem) : List elem :=
  (xs.zipIdx.filter fun p => p.2 % capacity == i).map Prod.fst

theorem landing_snoc {elem : Type w} (i : Nat) (xs : List elem) (x : elem) :
    landing capacity i (xs ++ [x]) =
      if xs.length % capacity = i then landing capacity i xs ++ [x]
      else landing capacity i xs := by
  rw [landing, List.zipIdx_append, List.filter_append, List.map_append, <- landing]
  split
  · next h => simp [h]
  · next h => simp [h]

theorem landing_ne_nil {elem : Type w} {i : Nat} {xs : List elem} (hlt : i < capacity)
    (hi : i < xs.length) : landing capacity i xs ≠ [] := by
  have hmem : xs[i] ∈ landing capacity i xs := by
    refine List.mem_map.mpr ⟨(xs[i], i), List.mem_filter.mpr ⟨?_, ?_⟩, rfl⟩
    · exact List.mk_mem_zipIdx_iff_getElem?.mpr (List.getElem?_eq_getElem hi)
    · simp [Nat.mod_eq_of_lt hlt]
  exact List.ne_nil_of_mem hmem

theorem index_store (b : WrappedBuffer slot capacity) (write : slot -> slot) :
    (b.store write).index = (b.index + 1) % capacity := by
  have hlt := b.index_lt
  change (if capacity ≤ b.index + 1 then 0 else b.index + 1) = _
  split
  · next h =>
      rw [show b.index + 1 = capacity by omega, Nat.mod_self]
  · next h =>
      rw [Nat.mod_eq_of_lt (by omega)]

theorem getElem?_store (b : WrappedBuffer slot capacity) (write : slot -> slot) (i : Nat) :
    (b.store write).slots[i]? =
      if b.index = i then b.slots[i]?.map write else b.slots[i]? := by
  change (b.slots.modify b.index write)[i]? = _
  rw [List.getElem?_modify]
  split
  · rfl
  · exact Option.map_id_apply

theorem index_stateAfter {elem : Type w} {put : elem -> slot -> slot}
    {b : WrappedBuffer slot capacity} (hempty : b.next = 0) (xs : List elem) :
    (stateAfter (fun b x => b.store (put x)) b xs).index = xs.length % capacity := by
  refine stateAfter_invariant
    (fun xs (b : WrappedBuffer slot capacity) => b.index = xs.length % capacity) ?_ ?_ xs
  · unfold index
    split
    · simp
    · simpa using hempty
  · intro past x ih
    rw [index_store, ih, List.length_append, List.length_singleton, Nat.mod_add_mod]

theorem getElem?_stateAfter {elem : Type w} {put : elem -> slot -> slot}
    {b : WrappedBuffer slot capacity} (hempty : b.next = 0) (xs : List elem) (i : Nat) :
    (stateAfter (fun b x => b.store (put x)) b xs).slots[i]? =
      b.slots[i]?.map fun s => stateAfter (fun s x => put x s) s (landing capacity i xs) := by
  induction xs using List.reverseRecOn with
  | nil =>
      exact Option.map_id_apply.symm
  | append_singleton past x ih =>
      rw [stateAfter_snoc, getElem?_store, index_stateAfter hempty, ih, landing_snoc]
      split
      · rw [Option.map_map]
        simp only [stateAfter_snoc]
        rfl
      · rfl

end WrappedBuffer

end Foundation
end CarCleaner
