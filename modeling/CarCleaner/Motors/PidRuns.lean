import CarCleaner.Foundation.Run
import CarCleaner.Motors.Bridge
import CarCleaner.Motors.Pid

/-!
# The controller along a run

Two results about every state that updates can reach: a larger measurement
never lowers the speed or the signed duty, and measurements from a 16-bit
sensor keep the memory of the controller bounded.
-/

namespace CarCleaner
namespace Motors

open Foundation

/-- States reached from `pid_controler_init` by any updates. -/
inductive PidReachable : PidControler -> Prop where
  | init (now : Int) : PidReachable (pidControlerInit now)
  | update {pid : PidControler} (now : Int) (measurement setpoint : Rat) :
      PidReachable pid ->
      PidReachable (pidControlerUpdate pid now measurement setpoint).1

theorem PidReachable.tuned {pid : PidControler} (h : PidReachable pid) :
    Tuned pid := by
  induction h with
  | init now => exact tuned_pidControlerInit now
  | update now measurement setpoint _ ih => exact ih.update now measurement setpoint

/-!
# Monotonicity in the measurement
-/

theorem kickOf_mono (pid : PidControler) (now : Int) : Monotone (kickOf pid now) := by
  intro m1 m2 hle
  have hdt : 0 < 2100 * dtOf pid now := mul_pos (by norm_num) (dtOf_pos pid now)
  exact div_le_div_of_nonneg_right (sub_le_sub_right hle _) hdt.le

theorem Tuned.out_mono {pid : PidControler} (h : Tuned pid) (now : Int)
    {m1 m2 : Rat} (hle : m1 ≤ m2) (setpoint : Rat) :
    (pidControlerUpdate pid now m1 setpoint).1.out ≤
      (pidControlerUpdate pid now m2 setpoint).1.out := by
  rw [h.out_update, h.out_update]
  apply saturate_mono (by norm_num)
  have hfilter : filterStep (19 / 21) (kickOf pid now m1) pid.differentiator ≤
      filterStep (19 / 21) (kickOf pid now m2) pid.differentiator :=
    filterStep_mono (19 / 21) pid.differentiator (kickOf_mono pid now hle)
  linarith

theorem Tuned.forward_duty {pid : PidControler} (h : Tuned pid) (now : Int)
    (measurement setpoint : Rat) (regs : Mcpwm) :
    exists regs',
      motorsControl .forwardBackward
          (pidControlerUpdate pid now measurement setpoint).2 regs = .ok regs' ∧
        regs'.duty1 = dutyOf (pidControlerUpdate pid now measurement setpoint).2 ∧
        regs'.duty2 = dutyOf (pidControlerUpdate pid now measurement setpoint).2 := by
  have hmem := h.result_mem now measurement setpoint
  exact motorsControl_duty (by omega) (by omega) regs

/-- A farther wall never gives a slower forward drive. -/
theorem farther_wall_not_slower {pid : PidControler} (hreach : PidReachable pid)
    (now : Int) {m1 m2 : Rat} (hle : m1 ≤ m2) (setpoint : Rat) (regs : Mcpwm) :
    (pidControlerUpdate pid now m1 setpoint).2 ≤
        (pidControlerUpdate pid now m2 setpoint).2 ∧
      exists regs1 regs2,
        motorsControl .forwardBackward (pidControlerUpdate pid now m1 setpoint).2 regs =
          .ok regs1 ∧
        motorsControl .forwardBackward (pidControlerUpdate pid now m2 setpoint).2 regs =
          .ok regs2 ∧
        regs1.duty1 ≤ regs2.duty1 ∧ regs1.duty2 ≤ regs2.duty2 := by
  have htuned := hreach.tuned
  have hp : (pidControlerUpdate pid now m1 setpoint).2 ≤
      (pidControlerUpdate pid now m2 setpoint).2 :=
    truncate_mono (htuned.out_mono now hle setpoint)
  rcases htuned.forward_duty now m1 setpoint regs with ⟨regs1, hok1, hleft1, hright1⟩
  rcases htuned.forward_duty now m2 setpoint regs with ⟨regs2, hok2, hleft2, hright2⟩
  refine ⟨hp, regs1, regs2, hok1, hok2, ?_, ?_⟩
  · rw [hleft1, hleft2]
    exact dutyOf_mono hp
  · rw [hright1, hright2]
    exact dutyOf_mono hp

/-- The controller after 20 ms at 20 cm. -/
def pidAtTwenty : PidControler :=
  (pidControlerUpdate (pidControlerInit 0) 20000 20 wallSetpoint).1

theorem farther_wall_not_slower_pidAtTwenty :
    (pidControlerUpdate pidAtTwenty 40000 25 wallSetpoint).2 ≤
        (pidControlerUpdate pidAtTwenty 40000 30 wallSetpoint).2 ∧
      exists regs1 regs2,
        motorsControl .forwardBackward (pidControlerUpdate pidAtTwenty 40000 25 wallSetpoint).2
            dcMotorInit = .ok regs1 ∧
        motorsControl .forwardBackward (pidControlerUpdate pidAtTwenty 40000 30 wallSetpoint).2
            dcMotorInit = .ok regs2 ∧
        regs1.duty1 ≤ regs2.duty1 ∧ regs1.duty2 ≤ regs2.duty2 :=
  farther_wall_not_slower ((PidReachable.init 0).update 20000 20 wallSetpoint) 40000
    (show (25 : Rat) ≤ 30 by norm_num) wallSetpoint dcMotorInit

/-!
# Boundedness of the memory

The distance sensor measures at most 6553.5 cm, so two measurements differ by at
most that much and the worst kick is the one at the floor of the time step.
-/

/-- The controller in front of update `n`, fed with clock readings and measurements. -/
def pidAt (start : Int) (feed : Nat -> Int × Rat) (n : Nat) : PidControler :=
  stateAt (fun pid i => (pidControlerUpdate pid i.1 i.2 wallSetpoint).1)
    (pidControlerInit start) feed n

structure PidBounded (pid : PidControler) : Prop where
  tuned : Tuned pid
  measured : 0 ≤ pid.prevMeasurement ∧ pid.prevMeasurement ≤ 13107 / 2
  differentiator_le : |pid.differentiator| ≤ 65535 / 2

theorem pidBounded_init (start : Int) : PidBounded (pidControlerInit start) where
  tuned := tuned_pidControlerInit start
  measured := by
    norm_num [pidControlerInit]
  differentiator_le := by
    norm_num [pidControlerInit]

theorem abs_kickOf_le {pid : PidControler} (h : PidBounded pid) (now : Int)
    {measurement : Rat} (hlow : 0 ≤ measurement) (hhigh : measurement ≤ 13107 / 2) :
    |kickOf pid now measurement| ≤ (1 - 19 / 21) * (65535 / 2) := by
  have hfloor := dtOf_floor pid now
  have hdt : 0 < 2100 * dtOf pid now := mul_pos (by norm_num) (dtOf_pos pid now)
  have hmove : |measurement - pid.prevMeasurement| ≤ 13107 / 2 := by
    rw [abs_le]
    constructor
    · linarith [h.measured.2]
    · linarith [h.measured.1]
  rw [kickOf, abs_div, abs_of_pos hdt, div_le_iff₀ hdt]
  linarith

theorem PidBounded.update {pid : PidControler} (h : PidBounded pid) (now : Int)
    {measurement : Rat} (hlow : 0 ≤ measurement) (hhigh : measurement ≤ 13107 / 2)
    (setpoint : Rat) :
    PidBounded (pidControlerUpdate pid now measurement setpoint).1 where
  tuned := h.tuned.update now measurement setpoint
  measured := ⟨hlow, hhigh⟩
  differentiator_le := by
    rw [h.tuned.differentiator_update]
    exact abs_filterStep_le (by norm_num) (abs_kickOf_le h now hlow hhigh)
      h.differentiator_le

theorem pidBounded_pidAt (start : Int) {feed : Nat -> Int × Rat}
    (hrange : forall n, 0 ≤ (feed n).2 ∧ (feed n).2 ≤ 13107 / 2) (n : Nat) :
    PidBounded (pidAt start feed n) :=
  stateAt_invariant (fun _ pid => PidBounded pid) (pidBounded_init start)
    (fun n _ h => h.update (feed n).1 (hrange n).1 (hrange n).2 wallSetpoint) n

/-- An update that divides by a positive number and leaves bounded values. -/
structure UpdateBounded (pid : PidControler) (now : Int) (measurement : Rat) :
    Prop where
  divisor_pos :
    0 < 2 * (pidControlerUpdate pid now measurement wallSetpoint).1.tau + dtOf pid now
  integrator_eq :
    (pidControlerUpdate pid now measurement wallSetpoint).1.integrator = 0
  differentiator_le :
    |(pidControlerUpdate pid now measurement wallSetpoint).1.differentiator| ≤ 65535 / 2
  result_mem :
    -235 ≤ (pidControlerUpdate pid now measurement wallSetpoint).2 ∧
      (pidControlerUpdate pid now measurement wallSetpoint).2 ≤ 235

theorem divisor_pos (pid : PidControler) (now : Int) (measurement setpoint : Rat) :
    0 < 2 * (pidControlerUpdate pid now measurement setpoint).1.tau + dtOf pid now := by
  have hdt := dtOf_pos pid now
  have htau : (pidControlerUpdate pid now measurement setpoint).1.tau =
      10 * dtOf pid now := rfl
  rw [htau]
  linarith

/-- The memory of the controller stays bounded for every clock. -/
theorem pid_memory_bounded (start : Int) (feed : Nat -> Int × Rat)
    (hrange : forall n, 0 ≤ (feed n).2 ∧ (feed n).2 ≤ 13107 / 2) (n : Nat) :
    UpdateBounded (pidAt start feed n) (feed n).1 (feed n).2 := by
  have hbounded := pidBounded_pidAt start hrange n
  have hnext := hbounded.update (feed n).1 (hrange n).1 (hrange n).2 wallSetpoint
  constructor
  · exact divisor_pos _ _ _ _
  · exact hnext.tuned.integrator_eq
  · exact hnext.differentiator_le
  · exact hbounded.tuned.result_mem _ _ _

theorem pid_memory_bounded_constant :
    UpdateBounded (pidAt 0 (fun _ => (0, 100)) 3) 0 100 :=
  pid_memory_bounded 0 (fun _ => (0, 100)) (by norm_num) 3

end Motors
end CarCleaner
