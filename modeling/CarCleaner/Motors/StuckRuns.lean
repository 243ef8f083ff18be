import CarCleaner.Motors.Task

/-!
# The stuck detector in runs of the motor task

Along a run the static time stamps of `check_distance` are the window of a
watchdog: a `MOTORS_FORWARD_BACKWARD` iteration restarts it when it sees a
movement, a `MOTORS_ROTATE` iteration never does.  All results about when the
detector fires are read off that window.
-/

namespace CarCleaner
namespace Motors

open Foundation

namespace MotorRun

variable {run : MotorRun}

/-!
# The window of a run
-/

theorem stuckAt_iff (n : Nat) :
    run.StuckAt n <-> (run.task n).stuckTimer.Passed := by
  unfold StuckAt
  by_cases h : run.ForwardAt n
  · rcases forward_loop h with ⟨_, _, _, hrecord⟩
    rw [hrecord, decide_eq_true_iff]
  · rcases rotate_loop h with ⟨_, _, _, hrecord⟩
    rw [hrecord, decide_eq_true_iff]

/-- Iteration `n` as the watchdog sees it. -/
def observation (run : MotorRun) (n : Nat) : Observation Int where
  opened := (run.outside.loop n).checkFirst
  closed := (run.outside.loop n).checkSecond
  happened := decide (run.ForwardAt n ∧ run.MovedAt n)

def window (run : MotorRun) (n : Nat) : Watchdog Int :=
  Watchdog.windowAt stuckLimit StuckTimer.boot.toWatchdog run.observation n

def RestartsAt (run : MotorRun) (n : Nat) : Prop :=
  Watchdog.RestartsAt stuckLimit StuckTimer.boot.toWatchdog run.observation n

/-- The time stamps of `check_distance` simulate the watchdog. -/
theorem stuckTimer_toWatchdog (n : Nat) :
    (run.task n).stuckTimer.toWatchdog = run.window n := by
  induction n with
  | zero =>
      rw [run.task_zero]
      rfl
  | succ n ih =>
      rw [window, Watchdog.windowAt_succ]
      change _ = Watchdog.observe stuckLimit (run.window n) (run.observation n)
      rw [← ih]
      by_cases h : run.ForwardAt n
      · rcases forward_loop h with ⟨_, _, htask, _⟩
        rw [htask, checkDistance_toWatchdog]
        simp [observation, h, MovedAt]
      · rcases rotate_loop h with ⟨_, _, htask, _⟩
        have hstill : ¬ Moved 1 (3 / 2) := by
          decide +kernel
        rw [htask, checkDistance_toWatchdog]
        simp [observation, h, hstill]

theorem stuckAt_iff_expired (n : Nat) :
    run.StuckAt n <-> Watchdog.Expired stuckLimit (run.window n) := by
  rw [stuckAt_iff, StuckTimer.passed_iff_expired, stuckTimer_toWatchdog]

theorem restartsAt_iff (n : Nat) :
    run.RestartsAt n <-> run.StuckAt n ∨ (run.ForwardAt n ∧ run.MovedAt n) := by
  rw [stuckAt_iff_expired]
  simp [RestartsAt, Watchdog.RestartsAt, Watchdog.Restarts, observation, window]

theorem not_stuckAt_zero : ¬ run.StuckAt 0 := by
  rw [stuckAt_iff_expired]
  show ¬ stuckLimit ≤ (0 : Int) - 0
  decide

theorem stuckAt_succ_iff_of_quiet {n : Nat}
    (hquiet : forall m, m ≤ n -> ¬ run.RestartsAt m) :
    run.StuckAt (n + 1) <-> stuckLimit ≤ (run.outside.loop n).checkSecond := by
  have hspan : run.window (0 + n + 1) =
      { start := 0, last := (run.outside.loop (0 + n)).checkSecond } :=
    Watchdog.windowAt_succ_of_quiet 0 n fun m _ hm => hquiet m (by omega)
  rw [Nat.zero_add] at hspan
  rw [stuckAt_iff_expired, hspan]
  change stuckLimit ≤ (run.outside.loop n).checkSecond - 0 <-> _
  rw [sub_zero]

theorem chronological (hclock : run.outside.Nondecreasing) :
    Watchdog.Chronological StuckTimer.boot.toWatchdog run.observation where
  start_le := hclock.init_nonneg.trans hclock.init_le
  last_le := hclock.init_nonneg.trans hclock.init_le
  within := hclock.first_le
  between := fun n =>
    (hclock.second_le n).trans ((hclock.pid_le n).trans (hclock.end_le n))

theorem not_stuckAt_succ (hclock : run.outside.Nondecreasing) {n : Nat}
    (hstuck : run.StuckAt n) : ¬ run.StuckAt (n + 1) := by
  rw [stuckAt_iff_expired] at hstuck ⊢
  exact (chronological hclock).not_expired_succ (by decide) hstuck

theorem checkFirst_le_checkFirst (hclock : run.outside.Nondecreasing) {m n : Nat}
    (hmn : m ≤ n) :
    (run.outside.loop m).checkFirst ≤ (run.outside.loop n).checkFirst :=
  (chronological hclock).opened_le_opened hmn

theorem pidTime_le_checkFirst (hclock : run.outside.Nondecreasing) {m n : Nat}
    (hmn : m < n) :
    (run.outside.loop m).pidTime ≤ (run.outside.loop n).checkFirst :=
  ((hclock.pid_le m).trans (hclock.end_le m)).trans
    (checkFirst_le_checkFirst hclock hmn)

/-- Before the detector fires it has read a clock three seconds after every restart. -/
theorem stuckLimit_le_of_stuckAt_succ (hclock : run.outside.Nondecreasing)
    {m n : Nat} (hmn : m ≤ n) (hrestart : run.RestartsAt m)
    (hstuck : run.StuckAt (n + 1)) :
    stuckLimit ≤
      (run.outside.loop n).checkSecond - (run.outside.loop m).checkFirst :=
  (chronological hclock).limit_le_of_expired hmn hrestart
    ((stuckAt_iff_expired (n + 1)).mp hstuck)

theorem checkSecond_le_checkFirst (hclock : run.outside.Nondecreasing) (n : Nat) :
    (run.outside.loop n).checkSecond ≤ (run.outside.loop (n + 1)).checkFirst :=
  (chronological hclock).between n

theorem stuckLimit_le_of_stuckAt (hclock : run.outside.Nondecreasing) {m n : Nat}
    (hmn : m < n) (hrestart : run.RestartsAt m) (hstuck : run.StuckAt n) :
    stuckLimit ≤
      (run.outside.loop n).checkFirst - (run.outside.loop m).checkFirst := by
  cases n with
  | zero => exact absurd hmn (Nat.not_lt_zero m)
  | succ n =>
      have hlimit := stuckLimit_le_of_stuckAt_succ hclock (Nat.le_of_lt_succ hmn)
        hrestart hstuck
      exact hlimit.trans (sub_le_sub_right (checkSecond_le_checkFirst hclock n) _)

/-!
# The mode
-/

theorem forwardAt_zero : run.ForwardAt 0 := by
  rw [ForwardAt, run.task_zero]
  rfl

theorem forwardAt_succ_of_not_stuckAt {n : Nat} (h : ¬ run.StuckAt n) :
    run.ForwardAt (n + 1) := by
  rw [stuckAt_iff] at h
  by_cases hforward : run.ForwardAt n
  · rcases forward_loop hforward with ⟨_, _, htask, _⟩
    rw [ForwardAt, htask]
    simp [stateAfterCheck, h]
  · rcases rotate_loop hforward with ⟨_, _, htask, _⟩
    rw [ForwardAt, htask]

theorem forwardAt_of_never_stuckAt {n : Nat}
    (hnever : forall m, m < n -> ¬ run.StuckAt m) : run.ForwardAt n := by
  cases n with
  | zero =>
      exact forwardAt_zero
  | succ n =>
      exact forwardAt_succ_of_not_stuckAt (hnever n (Nat.lt_succ_self n))

theorem not_forwardAt_succ {n : Nat} (hforward : run.ForwardAt n)
    (hstuck : run.StuckAt n) : ¬ run.ForwardAt (n + 1) := by
  rw [stuckAt_iff] at hstuck
  rcases forward_loop hforward with ⟨_, _, htask, _⟩
  rw [ForwardAt, htask]
  simp [stateAfterCheck, hstuck]

end MotorRun

end Motors
end CarCleaner
