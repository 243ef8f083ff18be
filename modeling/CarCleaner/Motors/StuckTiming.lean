import CarCleaner.Motors.StuckRuns

/-!
# When the detector may fire

The window of the detector starts at boot, not at the first iteration of the
task, and a report restarts it although the rotation that follows does not.
This module relates the time of a report to the first iteration and to the
rotation before it.
-/

namespace CarCleaner
namespace Motors

open Foundation

/-!
# Distances as a function of the received elements
-/

/-- The last distance received before iteration `n`, or the initial 0. -/
def Outside.distanceBefore (out : Outside) : Nat -> Rat
  | 0 => 0
  | n + 1 => (out.loop n).received.getD (out.distanceBefore n)

/-- No iteration up to `n` changes the distance by more than 2 cm. -/
def Outside.StillUntil (out : Outside) (n : Nat) : Prop :=
  forall m, m ≤ n -> ¬ Moved (out.distanceBefore m) (out.distanceBefore (m + 1))

namespace MotorRun

variable {run : MotorRun}

theorem distanceCm_eq (n : Nat) :
    (run.task n).distanceCm = run.outside.distanceBefore n := by
  induction n with
  | zero =>
      rw [run.task_zero]
      rfl
  | succ n ih =>
      rw [distanceCm_succ, Outside.distanceBefore, ← ih]
      rfl

theorem distance_eq (n : Nat) :
    run.distance n = run.outside.distanceBefore (n + 1) := by
  rw [← distanceCm_succ, distanceCm_eq]

theorem prevMeasurement_eq {n : Nat} (hnever : forall m, m < n -> ¬ run.StuckAt m) :
    (run.task n).pid.prevMeasurement = run.outside.distanceBefore n := by
  cases n with
  | zero =>
      rw [run.task_zero]
      rfl
  | succ n =>
      have hforward : run.ForwardAt n :=
        forwardAt_of_never_stuckAt fun m hm => hnever m (hm.trans (Nat.lt_succ_self n))
      rw [prevMeasurement_succ_of_forwardAt hforward, distance_eq]

theorem movedAt_iff {n : Nat} (hnever : forall m, m < n -> ¬ run.StuckAt m) :
    run.MovedAt n <->
      Moved (run.outside.distanceBefore n) (run.outside.distanceBefore (n + 1)) := by
  rw [MovedAt, distance_eq, prevMeasurement_eq hnever]

theorem not_restartsAt_iff_stillUntil {n : Nat}
    (hnever : forall m, m ≤ n -> ¬ run.StuckAt m) :
    (forall m, m ≤ n -> ¬ run.RestartsAt m) <-> run.outside.StillUntil n := by
  have hmoved : forall m, m ≤ n -> (run.RestartsAt m <->
      Moved (run.outside.distanceBefore m) (run.outside.distanceBefore (m + 1))) := by
    intro m hmn
    have hbefore : forall k, k < m -> ¬ run.StuckAt k :=
      fun k hk => hnever k (by omega)
    rw [restartsAt_iff, movedAt_iff hbefore]
    simp [hnever m hmn, forwardAt_of_never_stuckAt hbefore]
  constructor
  · intro h m hmn
    rw [← hmoved m hmn]
    exact h m hmn
  · intro h m hmn
    rw [hmoved m hmn]
    exact h m hmn

/-!
# The first report
-/

/-- No report and no rotation within the first two seconds of the task. -/
def QuietAfterStart (run : MotorRun) : Prop :=
  forall n, run.StuckAt n ∨ ¬ run.ForwardAt (n + 1) ->
    2000000 < (run.outside.loop n).checkFirst - (run.outside.loop 0).checkFirst

theorem exists_stuckAt_of_stillUntil {n : Nat} (hstill : run.outside.StillUntil n)
    (hlate : stuckLimit ≤ (run.outside.loop n).checkSecond) :
    exists k, k ≤ n + 1 ∧ run.StuckAt k := by
  by_contra hnone
  have hnever : forall m, m ≤ n -> ¬ run.StuckAt m :=
    fun m hm h => hnone ⟨m, by omega, h⟩
  have hwindow := (not_restartsAt_iff_stillUntil hnever).mpr hstill
  exact hnone ⟨n + 1, le_rfl, (stuckAt_succ_iff_of_quiet hwindow).mpr hlate⟩

theorem stillUntil_of_stuckAt_succ {n : Nat}
    (hquiet : forall m, m ≤ n -> ¬ run.RestartsAt m) (hstuck : run.StuckAt (n + 1)) :
    run.outside.StillUntil n ∧ stuckLimit ≤ (run.outside.loop n).checkSecond := by
  have hnever : forall m, m ≤ n -> ¬ run.StuckAt m :=
    fun m hm h => hquiet m hm ((restartsAt_iff m).mpr (Or.inl h))
  constructor
  · exact (not_restartsAt_iff_stillUntil hnever).mp hquiet
  · exact (stuckAt_succ_iff_of_quiet hquiet).mp hstuck

theorem late_of_restartsAt (hclock : run.outside.Nondecreasing) {m n : Nat}
    (hmn : m < n) (hrestart : run.RestartsAt m) (hstuck : run.StuckAt n) :
    2000000 < (run.outside.loop n).checkFirst - (run.outside.loop 0).checkFirst := by
  have hlimit := stuckLimit_le_of_stuckAt hclock hmn hrestart hstuck
  have hfirst := checkFirst_le_checkFirst hclock (Nat.zero_le m)
  unfold stuckLimit at hlimit
  omega

/--
The first two seconds are quiet exactly when no car that has not moved yet
reaches, within them, the third second since boot.
-/
theorem quietAfterStart_iff (hclock : run.outside.Nondecreasing) :
    run.QuietAfterStart <->
      forall n, run.outside.StillUntil n ->
        3000000 ≤ (run.outside.loop n).checkSecond ->
        2000000 < (run.outside.loop (n + 1)).checkFirst -
          (run.outside.loop 0).checkFirst := by
  constructor
  · intro hquiet n hstill hlate
    rcases exists_stuckAt_of_stillUntil hstill hlate with ⟨k, hk, hstuck⟩
    have hfirst := checkFirst_le_checkFirst hclock hk
    exact (hquiet k (Or.inl hstuck)).trans_le (sub_le_sub_right hfirst _)
  · intro hearly n hreport
    have hstuck : run.StuckAt n := by
      rcases hreport with hstuck | hrotate
      · exact hstuck
      · exact not_not.mp fun h => hrotate (forwardAt_succ_of_not_stuckAt h)
    by_cases hrestart : exists m, m < n ∧ run.RestartsAt m
    · rcases hrestart with ⟨m, hmn, hrestart⟩
      exact late_of_restartsAt hclock hmn hrestart hstuck
    · cases n with
      | zero =>
          exact absurd hstuck not_stuckAt_zero
      | succ n =>
          have hwindow : forall m, m ≤ n -> ¬ run.RestartsAt m :=
            fun m hm h => hrestart ⟨m, by omega, h⟩
          rcases stillUntil_of_stuckAt_succ hwindow hstuck with ⟨hstill, hlate⟩
          exact hearly n hstill hlate

end MotorRun

theorem silentSensor_not_quietAfterStart :
    ¬ (MotorRun.ofOutside silentSensor).QuietAfterStart := by
  intro h
  have hfirst := h 1 (Or.inl (by decide +kernel))
  exact absurd hfirst (by decide +kernel)

theorem quietAfterStart_iff_silentSensor :
    (MotorRun.ofOutside silentSensor).QuietAfterStart <->
      forall n, silentSensor.StillUntil n ->
        3000000 ≤ (silentSensor.loop n).checkSecond ->
        2000000 < (silentSensor.loop (n + 1)).checkFirst -
          (silentSensor.loop 0).checkFirst :=
  MotorRun.quietAfterStart_iff (everyTwentyMs_nondecreasing (by decide) _)

/-!
# Reports after a rotation
-/

namespace MotorRun

variable {run : MotorRun}

/-- Less than one second passes between a report and the call in its rotation. -/
def ShortRotations (run : MotorRun) : Prop :=
  forall n, run.ForwardAt n -> run.StuckAt n ->
    (run.outside.loop (n + 1)).checkSecond - (run.outside.loop n).checkFirst < 1000000

/--
The call in a rotation does not report, and the next report comes more than two
seconds after the end of the iteration that rotates.
-/
def RotationsSeparated (run : MotorRun) : Prop :=
  forall n, run.ForwardAt n -> run.StuckAt n ->
    ¬ run.StuckAt (n + 1) ∧
      forall m, n + 1 < m -> run.StuckAt m ->
        (forall i, n + 1 < i -> i < m -> ¬ run.StuckAt i) ->
        2000000 < (run.outside.loop m).checkFirst - (run.outside.loop (n + 1)).loopEnd

/--
The iteration after a report rotates and does not report.  After a short
rotation the call in front of any later report is more than two seconds behind
the call of the rotation, so the report is too.  It also is more than two seconds
behind the end of the rotating iteration, unless the pause there is longer than
the one in front of the report.
-/
theorem rotations_separated (hclock : run.outside.Nondecreasing)
    (hshort : run.ShortRotations) (n : Nat) (hforward : run.ForwardAt n)
    (hstuck : run.StuckAt n) :
    ¬ run.ForwardAt (n + 1) ∧ ¬ run.StuckAt (n + 1) ∧
      forall m, n < m -> run.StuckAt (m + 1) ->
        2000000 < (run.outside.loop m).checkSecond -
            (run.outside.loop (n + 1)).checkSecond ∧
          2000000 < (run.outside.loop (m + 1)).checkFirst -
            (run.outside.loop (n + 1)).checkSecond ∧
          ((run.outside.loop (n + 1)).loopEnd -
              (run.outside.loop (n + 1)).checkSecond ≤
            (run.outside.loop (m + 1)).checkFirst -
              (run.outside.loop m).checkSecond ->
            2000000 < (run.outside.loop (m + 1)).checkFirst -
              (run.outside.loop (n + 1)).loopEnd) := by
  refine ⟨not_forwardAt_succ hforward hstuck, not_stuckAt_succ hclock hstuck, ?_⟩
  intro m hnm hnext
  have hrestart : run.RestartsAt n := (restartsAt_iff n).mpr (Or.inl hstuck)
  have hlimit := stuckLimit_le_of_stuckAt_succ hclock hnm.le hrestart hnext
  have hpause := hshort n hforward hstuck
  have hlag := checkSecond_le_checkFirst hclock m
  unfold stuckLimit at hlimit
  refine ⟨?_, ?_, ?_⟩
  · omega
  · omega
  · intro hends
    omega

end MotorRun

/-- Clock of a run whose rotation 152 takes 999 ms and pauses for 60 ms. -/
def slowClock (n : Nat) : Int :=
  if n < 152 then 10000000 + 20000 * n
  else if n = 152 then 14019000
  else 11019000 + 20000 * n

theorem slowClock_le (n : Nat) : slowClock n ≤ 11019000 + 20000 * n := by
  unfold slowClock
  split
  · omega
  · split <;> omega

def slowRotation : Outside where
  initTime := 10000000
  loop := fun n =>
    { received := if n % 12 = 0 then some 50 else none
      checkFirst := slowClock n
      checkSecond := slowClock n
      pidTime := slowClock n
      loopEnd := if n = 151 then 13040000 else slowClock (n + 1) }

theorem slowClock_succ (n : Nat) :
    slowClock n ≤ slowClock (n + 1) ∧ slowClock (n + 1) < slowClock n + 1000000 := by
  unfold slowClock
  constructor
  · split <;> split <;> omega
  · split <;> split <;> omega

theorem slowRotation_nondecreasing : slowRotation.Nondecreasing where
  init_nonneg := by
    decide
  init_le := by
    decide
  first_le := by
    intro n
    exact le_rfl
  second_le := by
    intro n
    exact le_rfl
  pid_le := by
    intro n
    simp only [slowRotation]
    split
    · next h =>
        subst h
        decide
    · exact (slowClock_succ n).1
  end_le := by
    intro n
    simp only [slowRotation]
    split
    · next h =>
        subst h
        decide
    · exact le_rfl

theorem slowRotation_shortRotations :
    (MotorRun.ofOutside slowRotation).ShortRotations := by
  intro n _ _
  show slowClock (n + 1) - slowClock n < 1000000
  have hstep := (slowClock_succ n).2
  omega

theorem slowRotation_report :
    (MotorRun.ofOutside slowRotation).ForwardAt 151 ∧
      (MotorRun.ofOutside slowRotation).StuckAt 151 := by
  decide +kernel

/-- The next report comes 1.98 s after the rotation has ended. -/
theorem slowRotation_not_rotationsSeparated :
    slowRotation.Nondecreasing ∧ (MotorRun.ofOutside slowRotation).ShortRotations ∧
      ¬ (MotorRun.ofOutside slowRotation).RotationsSeparated := by
  refine ⟨slowRotation_nondecreasing, slowRotation_shortRotations, ?_⟩
  intro h
  rcases slowRotation_report with ⟨hforward, hstuck⟩
  have hrestart : (MotorRun.ofOutside slowRotation).RestartsAt 151 :=
    (MotorRun.restartsAt_iff 151).mpr (Or.inl hstuck)
  have hnone : forall i, 152 < i -> i < 252 ->
      ¬ (MotorRun.ofOutside slowRotation).StuckAt i := by
    intro i hlow hhigh hreport
    rcases Nat.exists_eq_add_of_lt hlow with ⟨j, rfl⟩
    have hlimit := MotorRun.stuckLimit_le_of_stuckAt_succ slowRotation_nondecreasing
      (show 151 ≤ 152 + j by omega) hrestart hreport
    change stuckLimit ≤ slowClock (152 + j) - 13020000 at hlimit
    have hclock := slowClock_le (152 + j)
    unfold stuckLimit at hlimit
    omega
  have hgap := (h 151 hforward hstuck).2 252 (by decide)
    (by decide +kernel) hnone
  exact absurd hgap (by decide +kernel)

theorem rotations_separated_slowRotation :
    ¬ (MotorRun.ofOutside slowRotation).ForwardAt 152 ∧
      ¬ (MotorRun.ofOutside slowRotation).StuckAt 152 :=
  have hseparated := MotorRun.rotations_separated slowRotation_nondecreasing
    slowRotation_shortRotations 151 slowRotation_report.1 slowRotation_report.2
  ⟨hseparated.1, hseparated.2.1⟩

end Motors
end CarCleaner
