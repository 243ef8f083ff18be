import Mathlib.Order.Basic

/-!
# Runs of machines fed by an input stream

A task of an embedded program is a loop: each turn reads what the outside world
offers at that moment and updates the memory of the task.  A run is therefore
determined by the start state and an input stream.  This module fixes that
notion for total steps and for steps that may stop with a fault, and states the
induction rules used to carry an invariant along a run.
-/

namespace CarCleaner
namespace Foundation

universe u v w

variable {state : Type u} {input : Type v} {fault : Type w}

/-!
# Total steps
-/

/-- State in front of turn `n` when every turn succeeds. -/
def stateAt (step : state -> input -> state) (start : state)
    (feed : Nat -> input) : Nat -> state
  | 0 => start
  | n + 1 => step (stateAt step start feed n) (feed n)

theorem stateAt_succ (step : state -> input -> state) (start : state)
    (feed : Nat -> input) (n : Nat) :
    stateAt step start feed (n + 1) =
      step (stateAt step start feed n) (feed n) := rfl

theorem stateAt_invariant {step : state -> input -> state} {start : state}
    {feed : Nat -> input} (Inv : Nat -> state -> Prop)
    (hstart : Inv 0 start)
    (hstep : forall n s, Inv n s -> Inv (n + 1) (step s (feed n))) (n : Nat) :
    Inv n (stateAt step start feed n) := by
  induction n with
  | zero =>
      exact hstart
  | succ n ih =>
      exact hstep n _ ih

/-!
# Steps that may stop with a fault

Chaining two such steps stops at the first fault, so a chain that succeeds
splits into two steps that succeed.
-/

@[simp] theorem ok_bind {alpha beta : Type v} (a : alpha)
    (f : alpha -> Except fault beta) :
    (Except.ok a >>= f) = f a := rfl

theorem bind_eq_ok {alpha beta : Type v} {x : Except fault alpha}
    {f : alpha -> Except fault beta} {b : beta} (h : (x >>= f) = .ok b) :
    exists a, x = .ok a ∧ f a = .ok b := by
  cases x with
  | error e =>
      cases h
  | ok a =>
      exact ⟨a, rfl, h⟩

theorem exists_ok_of_isOk {alpha : Type v} {x : Except fault alpha}
    (h : x.isOk = true) : exists a, x = .ok a := by
  cases x with
  | error e =>
      cases h
  | ok a =>
      exact ⟨a, rfl⟩

def valueOf {alpha : Type v} (x : Except fault alpha)
    (h : exists a, x = .ok a) : alpha :=
  match x, h with
  | .ok a, _ => a
  | .error _, h =>
      False.elim (by
        rcases h with ⟨a, ha⟩
        cases ha)

theorem eq_ok_valueOf {alpha : Type v} (x : Except fault alpha)
    (h : exists a, x = .ok a) : x = .ok (valueOf x h) := by
  rcases h with ⟨a, rfl⟩
  rfl

/-- State in front of turn `n`, or the fault that ended the run before it. -/
def outcomeAt (step : state -> input -> Except fault state) (start : state)
    (feed : Nat -> input) : Nat -> Except fault state
  | 0 => .ok start
  | n + 1 => (outcomeAt step start feed n).bind fun s => step s (feed n)

theorem outcomeAt_succ_of_ok {step : state -> input -> Except fault state}
    {start s : state} {feed : Nat -> input} {n : Nat}
    (h : outcomeAt step start feed n = .ok s) :
    outcomeAt step start feed (n + 1) = step s (feed n) := by
  rw [outcomeAt, h]
  rfl

theorem outcomeAt_succ_ok {step : state -> input -> Except fault state}
    {start s' : state} {feed : Nat -> input} {n : Nat}
    (h : outcomeAt step start feed (n + 1) = .ok s') :
    exists s, outcomeAt step start feed n = .ok s ∧
      step s (feed n) = .ok s' := by
  cases hn : outcomeAt step start feed n with
  | error e =>
      rw [outcomeAt, hn] at h
      cases h
  | ok s =>
      rw [outcomeAt_succ_of_ok hn] at h
      exact ⟨s, rfl, h⟩

/-- Total correctness: the invariant excludes every fault, so no run is cut short. -/
theorem outcomeAt_total {step : state -> input -> Except fault state}
    {start : state} {feed : Nat -> input} (Inv : Nat -> state -> Prop)
    (hstart : Inv 0 start)
    (hstep : forall n s, Inv n s ->
      exists s', step s (feed n) = .ok s' ∧ Inv (n + 1) s') (n : Nat) :
    exists s, outcomeAt step start feed n = .ok s ∧ Inv n s := by
  induction n with
  | zero =>
      exact ⟨start, rfl, hstart⟩
  | succ n ih =>
      rcases ih with ⟨s, hs, hinv⟩
      rcases hstep n s hinv with ⟨s', hs', hinv'⟩
      exact ⟨s', by rw [outcomeAt_succ_of_ok hs, hs'], hinv'⟩

end Foundation
end CarCleaner
