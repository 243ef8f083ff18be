import Mathlib.Order.Monotone.Basic

/-!
# Consecutive segments

The natural numbers are cut into consecutive segments of positive lengths.  Every number
has one segment, and one place in it.
-/

namespace CarCleaner
namespace Foundation

structure Segments where
  len : Nat -> Nat
  len_pos : forall n, 0 < len n

namespace Segments

variable (s : Segments)

/-- The first number of a segment. -/
def start : Nat -> Nat
  | 0 => 0
  | n + 1 => start n + s.len n

/-- The segment of the number `t` behind the start of segment `n`, and the place in it. -/
def locateFrom : Nat -> Nat -> Nat -> Nat × Nat
  | 0, n, t => (n, t)
  | fuel + 1, n, t => if t < s.len n then (n, t) else locateFrom fuel (n + 1) (t - s.len n)

/-- The segment of a number and its place there. -/
def locate (t : Nat) : Nat × Nat :=
  s.locateFrom t 0 t

theorem start_succ (n : Nat) : s.start (n + 1) = s.start n + s.len n := rfl

theorem start_strictMono : StrictMono s.start :=
  strictMono_nat_of_lt_succ fun n => Nat.lt_add_of_pos_right (s.len_pos n)

theorem locateFrom_spec {fuel n t : Nat} (h : t ≤ fuel) :
    s.start (s.locateFrom fuel n t).1 + (s.locateFrom fuel n t).2 = s.start n + t ∧
      (s.locateFrom fuel n t).2 < s.len (s.locateFrom fuel n t).1 := by
  induction fuel generalizing n t with
  | zero =>
      have hpos := s.len_pos n
      simp only [locateFrom]
      exact ⟨trivial, by omega⟩
  | succ fuel ih =>
      have hpos := s.len_pos n
      simp only [locateFrom]
      split
      · next hinside => exact ⟨rfl, hinside⟩
      · next hbehind =>
          rcases ih (n := n + 1) (t := t - s.len n) (by omega) with ⟨hplace, hlt⟩
          refine ⟨?_, hlt⟩
          rw [hplace, start]
          omega

theorem start_add_locate (t : Nat) : s.start (s.locate t).1 + (s.locate t).2 = t :=
  (s.locateFrom_spec le_rfl).1.trans (Nat.zero_add t)

theorem locate_lt (t : Nat) : (s.locate t).2 < s.len (s.locate t).1 :=
  (s.locateFrom_spec le_rfl).2

variable {s} {m n r t : Nat}

/-- A number lies in the segments between two starts that it lies between. -/
theorem le_locate_iff : n ≤ (s.locate t).1 <-> s.start n ≤ t := by
  have hplace := s.start_add_locate t
  have hlt := s.locate_lt t
  constructor
  · intro h
    have hstart := s.start_strictMono.monotone h
    omega
  · intro h
    by_contra hbefore
    have hnext : s.start ((s.locate t).1 + 1) ≤ s.start n :=
      s.start_strictMono.monotone (by omega)
    rw [start] at hnext
    omega

theorem locate_injective : Function.Injective s.locate := by
  intro t t' h
  rw [<- s.start_add_locate t, h, s.start_add_locate]

attribute [irreducible] start locate

end Segments

end Foundation
end CarCleaner
