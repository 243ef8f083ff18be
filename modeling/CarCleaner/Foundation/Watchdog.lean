import Mathlib.Algebra.Order.Group.Defs
import Mathlib.Tactic.Abel
import Mathlib.Tactic.Linarith
import CarCleaner.Foundation.Run

/-!
# Watchdogs over an arbitrary time line

A watchdog measures how long nothing has happened.  It keeps two instants: the
start of the measured window and the last observation.  A turn that finds the
window as long as the limit reports it and restarts the window; another turn may
restart the window because something happened; every other turn only moves the
last observation forward.

The verdict of a turn looks at what the turns before it stored, so it lags one
observation behind.  The lemmas below say what a verdict means in terms of the
clock readings of the run.
-/

namespace CarCleaner
namespace Foundation

universe u

/-- The two instants kept by a watchdog. -/
structure Watchdog (time : Type u) where
  start : time
  last : time

/-- One turn: its clock readings in program order, and whether something happened. -/
structure Observation (time : Type u) where
  opened : time
  closed : time
  happened : Bool

namespace Watchdog

variable {time : Type u} [AddCommGroup time] [LinearOrder time]

def Expired (limit : time) (w : Watchdog time) : Prop :=
  limit ≤ w.last - w.start

instance (limit : time) (w : Watchdog time) : Decidable (Expired limit w) :=
  inferInstanceAs (Decidable (limit ≤ w.last - w.start))

def observe (limit : time) (w : Watchdog time) (o : Observation time) :
    Watchdog time :=
  if Expired limit w then
    { w with start := o.opened }
  else if o.happened then
    { start := o.opened, last := o.closed }
  else
    { w with last := o.closed }

/-- A turn restarts the window when it reports or when something happened. -/
def Restarts (limit : time) (w : Watchdog time) (o : Observation time) : Prop :=
  Expired limit w ∨ o.happened = true

theorem observe_of_expired {limit : time} {w : Watchdog time}
    (o : Observation time) (h : Expired limit w) :
    observe limit w o = { w with start := o.opened } := by
  simp [observe, h]

theorem observe_of_quiet {limit : time} {w : Watchdog time}
    {o : Observation time} (h : ¬ Restarts limit w o) :
    observe limit w o = { w with last := o.closed } := by
  have hexp : ¬ Expired limit w := fun hexp => h (Or.inl hexp)
  have hhap : o.happened = false := by
    cases hcase : o.happened with
    | false => rfl
    | true => exact absurd (Or.inr hcase) h
  simp [observe, hexp, hhap]

theorem observe_start_of_restarts {limit : time} {w : Watchdog time}
    {o : Observation time} (h : Restarts limit w o) :
    (observe limit w o).start = o.opened := by
  by_cases hexp : Expired limit w
  · rw [observe_of_expired o hexp]
  · have hhap : o.happened = true := h.resolve_left hexp
    simp [observe, hexp, hhap]

theorem observe_start_cases (limit : time) (w : Watchdog time)
    (o : Observation time) :
    (observe limit w o).start = w.start ∨
      (observe limit w o).start = o.opened := by
  by_cases h : Restarts limit w o
  · exact Or.inr (observe_start_of_restarts h)
  · rw [observe_of_quiet h]
    exact Or.inl rfl

theorem observe_last_cases (limit : time) (w : Watchdog time)
    (o : Observation time) :
    (observe limit w o).last = w.last ∨
      (observe limit w o).last = o.closed := by
  by_cases hexp : Expired limit w
  · rw [observe_of_expired o hexp]
    exact Or.inl rfl
  · by_cases hhap : o.happened = true <;>
      simp [observe, hexp, hhap]

/-!
# Windows along a run
-/

def windowAt (limit : time) (w : Watchdog time)
    (feed : Nat -> Observation time) (n : Nat) : Watchdog time :=
  stateAt (observe limit) w feed n

def RestartsAt (limit : time) (w : Watchdog time)
    (feed : Nat -> Observation time) (n : Nat) : Prop :=
  Restarts limit (windowAt limit w feed n) (feed n)

theorem windowAt_succ (limit : time) (w : Watchdog time)
    (feed : Nat -> Observation time) (n : Nat) :
    windowAt limit w feed (n + 1) =
      observe limit (windowAt limit w feed n) (feed n) :=
  stateAt_succ _ _ _ _

/-- Between two turns without a restart the start stays and the last reading is kept. -/
theorem windowAt_succ_of_quiet {limit : time} {w : Watchdog time}
    {feed : Nat -> Observation time} (k j : Nat)
    (hquiet : forall m, k ≤ m -> m ≤ k + j -> ¬ RestartsAt limit w feed m) :
    windowAt limit w feed (k + j + 1) =
      { start := (windowAt limit w feed k).start,
        last := (feed (k + j)).closed } := by
  induction j with
  | zero =>
      have hk : ¬ RestartsAt limit w feed k := hquiet k le_rfl (by omega)
      rw [Nat.add_zero, windowAt_succ, observe_of_quiet hk]
      rfl
  | succ j ih =>
      have hprev := ih fun m hkm hmj => hquiet m hkm (by omega)
      have hlast := hquiet (k + (j + 1)) (by omega) (by omega)
      rw [windowAt_succ, observe_of_quiet hlast]
      rw [show k + (j + 1) = k + j + 1 by omega, hprev]

/-- After a last restart the window spans from it to the last turn. -/
theorem windowAt_succ_since_restart {limit : time} {w : Watchdog time}
    {feed : Nat -> Observation time} {k m : Nat} (hkm : k ≤ m)
    (hrestart : RestartsAt limit w feed k)
    (hquiet : forall i, k < i -> i ≤ m -> ¬ RestartsAt limit w feed i)
    (hreport : ¬ Expired limit (windowAt limit w feed m)) :
    windowAt limit w feed (m + 1) =
      { start := (feed k).opened, last := (feed m).closed } := by
  rcases Nat.eq_or_lt_of_le hkm with heq | hlt
  · subst heq
    have hhap : (feed k).happened = true := hrestart.resolve_left hreport
    rw [windowAt_succ]
    simp [observe, hreport, hhap]
  · rcases Nat.exists_eq_add_of_lt hlt with ⟨j, rfl⟩
    have hspan := windowAt_succ_of_quiet (k + 1) j
      fun i hi hij => hquiet i (by omega) (by omega)
    have hstart := observe_start_of_restarts hrestart
    rw [show k + j + 1 = k + 1 + j by omega, hspan, windowAt_succ, hstart]

/-- The readings of a run are taken in program order from a clock that never goes back. -/
structure Chronological (w : Watchdog time) (feed : Nat -> Observation time) :
    Prop where
  start_le : w.start ≤ (feed 0).opened
  last_le : w.last ≤ (feed 0).opened
  within : forall n, (feed n).opened ≤ (feed n).closed
  between : forall n, (feed n).closed ≤ (feed (n + 1)).opened

variable {limit : time} {w : Watchdog time} {feed : Nat -> Observation time}

omit [AddCommGroup time] in
theorem Chronological.opened_le_opened (h : Chronological w feed) {m n : Nat}
    (hmn : m ≤ n) : (feed m).opened ≤ (feed n).opened := by
  induction hmn with
  | refl => exact le_rfl
  | step _ ih => exact ih.trans ((h.within _).trans (h.between _))

theorem Chronological.last_le_opened (h : Chronological w feed) (limit : time)
    (n : Nat) :
    (windowAt limit w feed n).last ≤ (feed n).opened := by
  induction n with
  | zero =>
      exact h.last_le
  | succ n ih =>
      rw [windowAt_succ]
      rcases observe_last_cases limit (windowAt limit w feed n) (feed n) with
        heq | heq
      · rw [heq]
        exact ih.trans (h.opened_le_opened n.le_succ)
      · rw [heq]
        exact h.between n

theorem Chronological.last_le_closed (h : Chronological w feed) (limit : time)
    (n : Nat) :
    (windowAt limit w feed (n + 1)).last ≤ (feed n).closed := by
  rw [windowAt_succ]
  rcases observe_last_cases limit (windowAt limit w feed n) (feed n) with
    heq | heq
  · rw [heq]
    exact (h.last_le_opened limit n).trans (h.within n)
  · rw [heq]

theorem Chronological.opened_le_start (h : Chronological w feed) {m n : Nat}
    (hmn : m < n) (hrestart : RestartsAt limit w feed m) :
    (feed m).opened ≤ (windowAt limit w feed n).start := by
  induction hmn with
  | refl =>
      rw [windowAt_succ, observe_start_of_restarts hrestart]
  | @step n hmn ih =>
      rw [windowAt_succ]
      rcases observe_start_cases limit (windowAt limit w feed n) (feed n) with
        heq | heq
      · rw [heq]
        exact ih
      · rw [heq]
        exact h.opened_le_opened (by have := Nat.le_of_succ_le hmn; omega)

variable [IsOrderedAddMonoid time]

/-- A report needs an observation at least one limit after every restart before it. -/
theorem Chronological.limit_le_of_expired (h : Chronological w feed) {m n : Nat}
    (hmn : m ≤ n) (hrestart : RestartsAt limit w feed m)
    (hexp : Expired limit (windowAt limit w feed (n + 1))) :
    limit ≤ (feed n).closed - (feed m).opened := by
  have hstart := h.opened_le_start (Nat.lt_succ_of_le hmn) hrestart
  have hlast := h.last_le_closed limit n
  exact hexp.trans (sub_le_sub hlast hstart)

theorem Chronological.not_expired_succ (h : Chronological w feed)
    (hlimit : 0 < limit) {n : Nat}
    (hexp : Expired limit (windowAt limit w feed n)) :
    ¬ Expired limit (windowAt limit w feed (n + 1)) := by
  intro hnext
  rw [windowAt_succ, observe_of_expired _ hexp] at hnext
  have hlast := h.last_le_opened limit n
  have hle : limit ≤ 0 := hnext.trans (sub_nonpos.mpr hlast)
  exact absurd hlimit (not_lt.mpr hle)

end Watchdog

end Foundation
end CarCleaner
