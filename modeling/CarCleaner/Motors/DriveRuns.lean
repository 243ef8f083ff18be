import CarCleaner.Motors.StuckRuns

/-!
# The motors calls of a run

Every iteration makes one call of `motors_control`.  A call with a controller
result runs in the mode that the stuck test has just chosen, so it drives
straight only where the test fails.  As long as no distance has been received
the controller works with the initial distance 0.
-/

namespace CarCleaner
namespace Motors

open Foundation
open Firmware

/-- After the call both motors follow the sign of its speed. -/
structure MotorsCall.Straight (call : MotorsCall) : Prop where
  state_eq : call.state = .forwardBackward
  positive : call.percentIn255 > 0 ->
    call.regs.motor1 = some .forward ∧ call.regs.motor2 = some .forward
  negative : call.percentIn255 < 0 ->
    call.regs.motor1 = some .backward ∧ call.regs.motor2 = some .backward
  zero : call.percentIn255 = 0 ->
    call.regs.in1 = .low ∧ call.regs.in2 = .low ∧
      call.regs.in3 = .low ∧ call.regs.in4 = .low

theorem wheelOf_eq_stopped_iff {plus minus : ForceLevel} :
    wheelOf plus minus = some .stopped <-> plus = .low ∧ minus = .low := by
  cases plus <;> cases minus <;>
    simp [wheelOf]

theorem MotorsCall.straight_of_motorsControl {call : MotorsCall} {regs : Mcpwm}
    (hstate : call.state = .forwardBackward)
    (h : motorsControl .forwardBackward call.percentIn255 regs = .ok call.regs) :
    call.Straight := by
  have hwheels := motorsControl_wheels h
  constructor
  · exact hstate
  · intro hpos
    simpa [commanded, hpos] using hwheels
  · intro hneg
    have hpos : ¬ call.percentIn255 > 0 := by omega
    simpa [commanded, hpos, hneg] using hwheels
  · intro hzero
    rw [hzero] at hwheels
    have hleft := wheelOf_eq_stopped_iff.mp hwheels.1
    have hright := wheelOf_eq_stopped_iff.mp hwheels.2
    exact ⟨hleft.1, hleft.2, hright.1, hright.2⟩

namespace MotorRun

/-!
# Speeds of the controller
-/

/-- Every call with a result of `pid_controler_update` drives straight. -/
def PidCallsStraight (run : MotorRun) : Prop :=
  forall n, (run.record n).call.source = .pid -> (run.record n).call.Straight

variable {run : MotorRun} {n : Nat}

theorem source_eq_pid_iff :
    (run.record n).call.source = .pid <-> run.ForwardAt n := by
  by_cases h : run.ForwardAt n
  · rcases forward_loop h with ⟨_, _, _, hrecord⟩
    simp [hrecord, h]
  · rcases rotate_loop h with ⟨_, _, _, hrecord⟩
    simp [hrecord, h]

theorem stateAfterCheck_eq_forwardBackward_iff :
    run.stateAfterCheck n = .forwardBackward <->
      ¬ (run.task n).stuckTimer.Passed := by
  unfold stateAfterCheck
  split
  · next h => simp [h]
  · next h => simp [h]

theorem straight_of_not_passed (hforward : run.ForwardAt n)
    (h : ¬ (run.task n).stuckTimer.Passed) : (run.record n).call.Straight := by
  rcases forward_loop hforward with ⟨regs, hregs, _, hrecord⟩
  have hstate := stateAfterCheck_eq_forwardBackward_iff.mpr h
  rw [hstate] at hregs
  apply MotorsCall.straight_of_motorsControl
  · rw [hrecord]
    exact hstate
  · rw [hrecord]
    exact hregs

/--
Controller results are executed straight exactly when no
`MOTORS_FORWARD_BACKWARD` iteration finds the stuck timer passed.
-/
theorem pidCallsStraight_iff (run : MotorRun) :
    run.PidCallsStraight <->
      forall n, run.ForwardAt n -> ¬ (run.task n).stuckTimer.Passed := by
  constructor
  · intro h n hforward
    have hcall := h n (source_eq_pid_iff.mpr hforward)
    rcases forward_loop hforward with ⟨_, _, _, hrecord⟩
    rw [hrecord] at hcall
    exact stateAfterCheck_eq_forwardBackward_iff.mp hcall.state_eq
  · intro h n hsource
    have hforward := source_eq_pid_iff.mp hsource
    exact straight_of_not_passed hforward (h n hforward)

end MotorRun

/-- A wall at 50 cm that never moves. -/
def standingCar : Outside :=
  everyTwentyMs 10000000 fun n => if n % 12 = 0 then some 50 else none

/-- The stuck car executes a forward speed as a rotation. -/
theorem standingCar_not_pidCallsStraight :
    ¬ (MotorRun.ofOutside standingCar).PidCallsStraight := by
  intro h
  have hcall := h 151 (by decide +kernel)
  exact absurd hcall.state_eq (by decide +kernel)

/-!
# Driving before the first distance

Until the first element arrives the loop works with distance 0 and a controller
that has never seen another one, so every result is the proportional value -5.
-/

namespace MotorRun

variable {run : MotorRun} {n : Nat}

def BlindUntil (run : MotorRun) (n : Nat) : Prop :=
  forall k, k < n -> (run.outside.loop k).received = none

/-- Before the first distance no wheel is driven and no rotation is started. -/
def StillBeforeFirstDistance (run : MotorRun) : Prop :=
  forall n, run.BlindUntil (n + 1) ->
    (run.record n).call.percentIn255 = 0 ∧ run.ForwardAt (n + 1)

/-- The part of the task that only a received distance changes. -/
structure Blind (task : MotorTask) : Prop where
  tuned : Tuned task.pid
  distanceCm_eq : task.distanceCm = 0
  prevMeasurement_eq : task.pid.prevMeasurement = 0
  differentiator_eq : task.pid.differentiator = 0

theorem blind_bootTask (initTime : Int) : Blind (bootTask initTime) where
  tuned := tuned_pidControlerInit initTime
  distanceCm_eq := rfl
  prevMeasurement_eq := rfl
  differentiator_eq := rfl

theorem Blind.kickOf_eq {task : MotorTask} (h : Blind task) (now : Int) :
    kickOf task.pid now 0 = 0 := by
  rw [kickOf, h.prevMeasurement_eq, sub_zero, zero_div]

theorem Blind.differentiator_update {task : MotorTask} (h : Blind task)
    (now : Int) (setpoint : Rat) :
    (pidControlerUpdate task.pid now 0 setpoint).1.differentiator = 0 := by
  rw [h.tuned.differentiator_update, h.kickOf_eq, h.differentiator_eq, filterStep,
    mul_zero, add_zero]

theorem Blind.result_eq {task : MotorTask} (h : Blind task) (now : Int) :
    (pidControlerUpdate task.pid now 0 wallSetpoint).2 = -5 := by
  rw [pidControlerUpdate_result, h.tuned.out_update, h.kickOf_eq,
    h.differentiator_eq]
  decide +kernel

theorem Blind.distance_eq (h : Blind (run.task n))
    (hnone : (run.outside.loop n).received = none) : run.distance n = 0 := by
  rw [distance, distanceUsed, hnone, Option.getD_none, h.distanceCm_eq]

theorem Blind.loop (h : Blind (run.task n))
    (hnone : (run.outside.loop n).received = none) : Blind (run.task (n + 1)) := by
  have hdistance := h.distance_eq hnone
  have hcm : (run.task (n + 1)).distanceCm = 0 := by
    rw [distanceCm_succ, hdistance]
  by_cases hforward : run.ForwardAt n
  · have hpid := pid_succ_of_forwardAt hforward
    rw [update, hdistance] at hpid
    constructor
    · rw [hpid]
      exact h.tuned.update _ _ _
    · exact hcm
    · rw [hpid]
      rfl
    · rw [hpid]
      exact h.differentiator_update _ _
  · have hpid := pid_succ_of_not_forwardAt hforward
    constructor
    · rw [hpid]
      exact h.tuned
    · exact hcm
    · rw [hpid]
      exact h.prevMeasurement_eq
    · rw [hpid]
      exact h.differentiator_eq

theorem blind_task (hblind : run.BlindUntil n) : Blind (run.task n) := by
  induction n with
  | zero =>
      rw [run.task_zero]
      exact blind_bootTask _
  | succ n ih =>
      have hprev := ih fun k hk => hblind k (hk.trans (Nat.lt_succ_self n))
      exact hprev.loop (hblind n (Nat.lt_succ_self n))

theorem Blind.not_movedAt (h : Blind (run.task n))
    (hnone : (run.outside.loop n).received = none) : ¬ run.MovedAt n := by
  rw [MovedAt, h.distance_eq hnone, h.prevMeasurement_eq]
  decide +kernel

theorem not_stuckAt_of_blind (hblind : run.BlindUntil n)
    (hearly : forall k, k < n -> (run.outside.loop k).checkSecond < stuckLimit) :
    forall k, k ≤ n -> ¬ run.StuckAt k := by
  intro k
  induction k using Nat.strong_induction_on with
  | h k ih =>
      intro hkn
      cases k with
      | zero => exact not_stuckAt_zero
      | succ k =>
          have hquiet : forall m, m ≤ k -> ¬ run.RestartsAt m := by
            intro m hmk hrestart
            rcases (restartsAt_iff m).mp hrestart with hstuck | ⟨_, hmoved⟩
            · exact ih m (by omega) (by omega) hstuck
            · have hblind' : Blind (run.task m) :=
                blind_task fun i hi => hblind i (by omega)
              exact hblind'.not_movedAt (hblind m (by omega)) hmoved
          rw [stuckAt_succ_iff_of_quiet hquiet, not_le]
          exact hearly k (by omega)

theorem call_of_blind_forward (hblind : run.BlindUntil (n + 1))
    (hforward : run.ForwardAt n) :
    (run.record n).call.percentIn255 = -5 ∧
      (run.record n).call.regs.cmprMotor1 = 149 ∧
      (run.record n).call.regs.cmprMotor2 = 149 := by
  have hblind' : Blind (run.task n) := blind_task fun k hk => hblind k (by omega)
  have hdistance := hblind'.distance_eq (hblind n (Nat.lt_succ_self n))
  rcases forward_loop hforward with ⟨regs, hregs, _, hrecord⟩
  have hspeed : (run.update n).2 = -5 := by
    rw [update, hdistance]
    exact hblind'.result_eq _
  rw [hspeed] at hregs hrecord
  rcases motorsControl_ok (run.stateAfterCheck n) (show -255 ≤ (-5 : Int) by decide)
    (by decide) (run.task n).regs with ⟨regs', hregs', hleft, hright⟩
  rw [hregs] at hregs'
  cases hregs'
  rw [hrecord]
  exact ⟨rfl, hleft, hright⟩

theorem call_of_rotation (h : ¬ run.ForwardAt n) :
    (run.record n).call.percentIn255 = 80 ∧
      (run.record n).call.state = .rotate := by
  rcases rotate_loop h with ⟨_, _, _, hrecord⟩
  rw [hrecord]
  exact ⟨rfl, rfl⟩

/--
Before the first distance every controller call commands -5 and every rotation
call 80.  An iteration that drives and is not found stuck turns both wheels
backward with 149 ticks and keeps driving, and while the clock has not passed
three seconds no iteration does anything else.
-/
theorem before_first_distance (run : MotorRun) (n : Nat)
    (hblind : run.BlindUntil (n + 1)) :
    (run.ForwardAt n -> (run.record n).call.percentIn255 = -5) ∧
      (¬ run.ForwardAt n -> (run.record n).call.percentIn255 = 80 ∧
        (run.record n).call.state = .rotate) ∧
      (run.ForwardAt n -> ¬ run.StuckAt n ->
        (run.record n).call.regs.duty1 = -149 ∧
          (run.record n).call.regs.duty2 = -149 ∧ run.ForwardAt (n + 1)) ∧
      ((forall k, k < n -> (run.outside.loop k).checkSecond < 3000000) ->
        run.ForwardAt n ∧ ¬ run.StuckAt n) := by
  have hbefore : run.BlindUntil n := fun k hk => hblind k (by omega)
  refine ⟨fun hforward => (call_of_blind_forward hblind hforward).1,
    call_of_rotation, ?_, ?_⟩
  · intro hforward hnot
    rcases call_of_blind_forward hblind hforward with ⟨hspeed, hleft, hright⟩
    have hstraight := straight_of_not_passed hforward
      (fun hpassed => hnot ((stuckAt_iff n).mpr hpassed))
    have hwheels := hstraight.negative (by rw [hspeed]; decide)
    refine ⟨?_, ?_, forwardAt_succ_of_not_stuckAt hnot⟩
    · rw [Mcpwm.duty1, hwheels.1, hleft]
      rfl
    · rw [Mcpwm.duty2, hwheels.2, hright]
      rfl
  · intro hearly
    have hnever := not_stuckAt_of_blind hbefore hearly
    exact ⟨forwardAt_of_never_stuckAt fun k hk => hnever k hk.le, hnever n le_rfl⟩

end MotorRun

theorem silentSensor_not_stillBeforeFirstDistance :
    ¬ (MotorRun.ofOutside silentSensor).StillBeforeFirstDistance := by
  intro h
  have hspeed := (h 0 fun _ _ => rfl).1
  exact absurd hspeed (by decide +kernel)

/-- At 10 s the car drives backward, is found stuck 20 ms later, and rotates. -/
theorem before_first_distance_silentSensor :
    ((MotorRun.ofOutside silentSensor).record 1).call.percentIn255 = -5 ∧
      ((MotorRun.ofOutside silentSensor).record 2).call.percentIn255 = 80 :=
  ⟨(MotorRun.before_first_distance (MotorRun.ofOutside silentSensor) 1
      (fun _ _ => rfl)).1 (by decide +kernel),
    ((MotorRun.before_first_distance (MotorRun.ofOutside silentSensor) 2
      (fun _ _ => rfl)).2.1 (by decide +kernel)).1⟩

end Motors
end CarCleaner
