import Mathlib.Data.List.Basic
import Mathlib.Data.List.Induction
import Mathlib.Data.Nat.ModEq
import Mathlib.Logic.Function.Basic

/-!
# Writes into a memory

A memory is a function of its cells, and a program that draws or copies changes it by a
list of writes.  A cell holds what the last write to it left there.
-/

namespace CarCleaner
namespace Foundation

universe u v

variable {cell : Type u} {value : Type v}

section Memory

variable [DecidableEq cell]

def writeAll (memory : cell -> value) (writes : List (cell × value)) : cell -> value :=
  writes.foldl (fun memory write => Function.update memory write.1 write.2) memory

theorem writeAll_cons (memory : cell -> value) (write : cell × value)
    (writes : List (cell × value)) :
    writeAll memory (write :: writes) =
      writeAll (Function.update memory write.1 write.2) writes :=
  rfl

theorem writeAll_snoc (memory : cell -> value) (writes : List (cell × value))
    (write : cell × value) :
    writeAll memory (writes ++ [write]) =
      Function.update (writeAll memory writes) write.1 write.2 :=
  List.foldl_concat _ _ _ _

theorem writeAll_of_not_mem {writes : List (cell × value)} {c : cell}
    (h : c ∉ writes.map Prod.fst) (memory : cell -> value) :
    writeAll memory writes c = memory c := by
  induction writes generalizing memory with
  | nil =>
      rfl
  | cons write later ih =>
      rw [List.map_cons, List.mem_cons, not_or] at h
      rw [writeAll_cons, ih h.2, Function.update_of_ne h.1]

end Memory

/-!
# Consecutive writes around a ring

The cells `1`, ..., `size` form a ring; writing goes on at cell 1 behind the last one.
-/

/-- The cell that is `k` places behind `start`. -/
def ringCell (size start k : Nat) : Nat :=
  (start - 1 + k) % size + 1

def ringWrites (size start : Nat) (values : List value) : List (Nat × value) :=
  values.zipIdx.map fun p => (ringCell size start p.2, p.1)

theorem ringCell_of_le {size start k : Nat} (hpos : 1 ≤ start) (hle : start + k ≤ size) :
    ringCell size start k = start + k := by
  rw [ringCell, Nat.mod_eq_of_lt (by omega)]
  omega

/-- The ring that starts one place later. -/
theorem ringCell_succ {size start : Nat} (hpos : 1 ≤ start) (hle : start ≤ size) (k : Nat) :
    ringCell size start (k + 1) = ringCell size (if size < start + 1 then 1 else start + 1) k := by
  unfold ringCell
  split
  · have hstart : start - 1 + (k + 1) = size + (1 - 1 + k) := by
      omega
    rw [hstart, Nat.add_mod_left]
  · have hstart : start - 1 + (k + 1) = start + 1 - 1 + k := by
      omega
    rw [hstart]

theorem ringCell_ne {size k n : Nat} (hlt : k < n) (hnear : n < k + size) (start : Nat) :
    ringCell size start k ≠ ringCell size start n := by
  intro h
  have hmod : start - 1 + k ≡ start - 1 + n [MOD size] := Nat.succ.inj h
  have hdvd := (Nat.modEq_iff_dvd' hlt.le).mp (Nat.ModEq.add_left_cancel' _ hmod)
  exact absurd (Nat.le_of_dvd (by omega) hdvd) (by omega)

theorem ringWrites_cons {size start : Nat} (hpos : 1 ≤ start) (hle : start ≤ size) (v : value)
    (values : List value) :
    ringWrites size start (v :: values) =
      (start, v) ::
        ringWrites size (if size < start + 1 then 1 else start + 1) values := by
  rw [ringWrites, List.zipIdx_cons', List.map_cons, List.map_map, ringWrites,
    ringCell_of_le hpos hle]
  congr 1
  apply List.map_congr_left
  intro p _
  rw [Function.comp_apply, Prod.map_snd, Prod.map_fst, ringCell_succ hpos hle]
  rfl

theorem ringWrites_snoc (size start : Nat) (values : List value) (v : value) :
    ringWrites size start (values ++ [v]) =
      ringWrites size start values ++ [(ringCell size start values.length, v)] := by
  rw [ringWrites, List.zipIdx_append, List.map_append, <- ringWrites]
  simp

theorem mem_map_ringWrites {size start c : Nat} {values : List value} :
    c ∈ (ringWrites size start values).map Prod.fst <->
      exists k, k < values.length ∧ c = ringCell size start k := by
  induction values using List.reverseRecOn with
  | nil =>
      simp [ringWrites]
  | append_singleton values v ih =>
      rw [ringWrites_snoc, List.map_append, List.mem_append, ih, List.length_append,
        List.length_singleton]
      simp only [List.map_singleton, List.mem_singleton, Nat.lt_succ_iff_lt_or_eq,
        or_and_right, exists_or, exists_eq_left]

/-- Writes that end in front of the last cell go to an interval. -/
theorem mem_map_ringWrites_of_le {size start : Nat} {values : List value} (hpos : 1 ≤ start)
    (hend : start + values.length ≤ size + 1) (c : Nat) :
    c ∈ (ringWrites size start values).map Prod.fst <->
      start ≤ c ∧ c < start + values.length := by
  rw [mem_map_ringWrites]
  constructor
  · intro h
    rcases h with ⟨k, hk, rfl⟩
    rw [ringCell_of_le hpos (by omega)]
    omega
  · intro h
    rcases h with ⟨hlow, hhigh⟩
    refine ⟨c - start, by omega, ?_⟩
    rw [ringCell_of_le hpos (by omega)]
    omega

theorem ringCell_mem {size : Nat} (hsize : 0 < size) (start k : Nat) :
    1 ≤ ringCell size start k ∧ ringCell size start k ≤ size := by
  have hmod := Nat.mod_lt (start - 1 + k) hsize
  unfold ringCell
  omega

/-- The next cell is the one behind, or cell 1 behind the last one. -/
theorem ringCell_eq_or {size : Nat} (hsize : 0 < size) (start k : Nat) :
    ringCell size start (k + 1) = ringCell size start k + 1 ∨
      ringCell size start k = size ∧ ringCell size start (k + 1) = 1 := by
  have hmod := Nat.mod_lt (start - 1 + k) hsize
  have hsucc : (start - 1 + (k + 1)) % size = ((start - 1 + k) % size + 1) % size := by
    rw [Nat.mod_add_mod, Nat.add_assoc]
  unfold ringCell
  rw [hsucc]
  rcases Nat.lt_or_ge ((start - 1 + k) % size + 1) size with hlt | hge
  · left
    rw [Nat.mod_eq_of_lt hlt]
  · right
    rw [show (start - 1 + k) % size + 1 = size by omega, Nat.mod_self]
    exact ⟨rfl, rfl⟩

/-- Writes that leave a cell of the ring out fill an interval from its first cell on. -/
theorem ringWrites_fill_iff {size start : Nat} {values : List value} (hpos : 1 ≤ start)
    (hle : start ≤ size) (hne : values ≠ []) (hlt : values.length < size) (first : Nat) :
    (forall c, c ∈ (ringWrites size start values).map Prod.fst <->
        first ≤ c ∧ c < first + values.length) <->
      start = first ∧ first + values.length ≤ size + 1 := by
  have hlength := List.length_pos_of_ne_nil hne
  constructor
  · intro h
    simp only [mem_map_ringWrites] at h
    rcases (h first).mpr ⟨le_rfl, by omega⟩ with ⟨k, hk, hfirst⟩
    rcases (h (first + values.length - 1)).mpr (by omega) with ⟨n, hn, hlast⟩
    have hsize := (ringCell_mem (by omega : 0 < size) start n).2
    cases k with
    | zero =>
        rw [ringCell_of_le hpos hle] at hfirst
        omega
    | succ k =>
        have hbefore := (h (ringCell size start k)).mp ⟨k, by omega, rfl⟩
        rcases ringCell_eq_or (by omega : 0 < size) start k with hsucc | ⟨hend, hsucc⟩
        · omega
        · omega
  · intro hstart c
    rcases hstart with ⟨rfl, hend⟩
    exact mem_map_ringWrites_of_le hpos hend c

/--
What consecutive writes leave: a cell that is covered more than once holds the last value
written to it, and a cell that is not covered stays as it was.
-/
structure RingBlit (size start : Nat) (values : List value) (old new : Nat -> value) :
    Prop where
  covered : forall (k : Nat) (hk : k < values.length), values.length ≤ k + size ->
    new (ringCell size start k) = values.get ⟨k, hk⟩
  untouched : forall c, (forall k, k < values.length -> c ≠ ringCell size start k) ->
    new c = old c

section Interval

variable {size start : Nat} {values : List value} {old new : Nat -> value}

theorem RingBlit.inside (h : RingBlit size start values old new) (hpos : 1 ≤ start)
    (hend : start + values.length ≤ size + 1) {k : Nat} (hk : k < values.length) :
    new (start + k) = values.get ⟨k, hk⟩ := by
  rw [<- h.covered k hk (by omega), ringCell_of_le hpos (by omega)]

theorem RingBlit.outside (h : RingBlit size start values old new) (hpos : 1 ≤ start)
    (hend : start + values.length ≤ size + 1) {c : Nat}
    (hc : c < start ∨ start + values.length ≤ c) : new c = old c := by
  apply h.untouched
  intro k hk heq
  rw [ringCell_of_le hpos (by omega)] at heq
  omega

end Interval

theorem ringBlit_writeAll (size start : Nat) (values : List value) (old : Nat -> value) :
    RingBlit size start values old (writeAll old (ringWrites size start values)) where
  covered := by
    induction values using List.reverseRecOn with
    | nil =>
        intro k hk
        exact absurd hk (Nat.not_lt_zero k)
    | append_singleton values v ih =>
        intro k hk hlast
        rw [List.length_append, List.length_singleton] at hk hlast
        rw [ringWrites_snoc, writeAll_snoc]
        rcases Nat.lt_succ_iff_lt_or_eq.mp hk with hlt | rfl
        · rw [Function.update_of_ne (ringCell_ne hlt (by omega) start), ih k hlt (by omega)]
          simp [List.getElem_append_left hlt]
        · rw [Function.update_self]
          simp
  untouched c hc := by
    apply writeAll_of_not_mem
    intro hmem
    rcases mem_map_ringWrites.mp hmem with ⟨k, hk, heq⟩
    exact hc k hk heq

theorem exists_last_covering {size k n : Nat} (hsize : 0 < size) (hk : k < n)
    (start : Nat) :
    exists k', k' < n ∧ n ≤ k' + size ∧ ringCell size start k = ringCell size start k' := by
  have hdivMod := Nat.div_add_mod (n - 1 - k) size
  have hmod := Nat.mod_lt (n - 1 - k) hsize
  refine ⟨k + size * ((n - 1 - k) / size), by omega, by omega, ?_⟩
  rw [ringCell, ringCell, <- Nat.add_assoc, Nat.add_mul_mod_self_left]

/-- The two conditions determine every cell. -/
theorem RingBlit.unique {size start : Nat} {values : List value} {old new new' : Nat -> value}
    (hsize : 0 < size) (h : RingBlit size start values old new)
    (h' : RingBlit size start values old new') : new = new' := by
  funext c
  by_cases hcovered : exists k, k < values.length ∧ c = ringCell size start k
  · rcases hcovered with ⟨k, hk, rfl⟩
    rcases exists_last_covering hsize hk start with ⟨k', hk', hlast, hcell⟩
    rw [hcell, h.covered k' hk' hlast, h'.covered k' hk' hlast]
  · have huntouched : forall k, k < values.length -> c ≠ ringCell size start k :=
      fun k hk heq => hcovered ⟨k, hk, heq⟩
    rw [h.untouched c huntouched, h'.untouched c huntouched]

end Foundation
end CarCleaner
