import Mathlib.Data.Rat.Floor
import Mathlib.Tactic.FieldSimp
import Mathlib.Tactic.Positivity
import CarCleaner.Foundation.LinearFilter
import CarCleaner.Foundation.MachineNumbers

/-!
# The distance controller

`pid_controler_init` and `pid_controler_update` over exact rationals.  The time
step has a floor of one millisecond and the filter constant is tied to it, so
the derivative is a recursive filter whose gain is always `19 / 21`.
-/

namespace CarCleaner
namespace Motors

open Foundation

/-- `PID_controler_t`. -/
structure PidControler where
  kp : Rat
  ki : Rat
  kd : Rat
  prevTime : Int
  currTime : Int
  prevError : Rat
  prevMeasurement : Rat
  tau : Rat
  proportional : Rat
  integrator : Rat
  differentiator : Rat
  minResult : Rat
  maxResult : Rat
  out : Rat
deriving DecidableEq, Repr

/-- `pid_controler_init` when `esp_timer_get_time` returns `now`. -/
def pidControlerInit (now : Int) : PidControler where
  kp := 1 / 2
  ki := 0
  kd := 1 / 200
  prevTime := now
  currTime := now
  prevError := 0
  prevMeasurement := 0
  tau := 0
  proportional := 0
  integrator := 0
  differentiator := 0
  minResult := -235
  maxResult := 235
  out := 0

/-- The static `setpoint`, in centimetres from the wall. -/
def wallSetpoint : Rat := 10

/-- The time step in seconds: a 64-bit difference of time stamps with a floor. -/
def dtOf (pid : PidControler) (now : Int) : Rat :=
  let dtInt : Int := (now - pid.prevTime).bmod (2 ^ 64)
  let dtF : Rat := dtInt / 1000000
  if dtF ≤ 1 / 1000 then 1 / 1000 else dtF

/-- The two limits applied to the integrator. -/
def limitIntegrator (pid : PidControler) (integrator : Rat) : Rat :=
  let integrator := if integrator > pid.maxResult then pid.maxResult else integrator
  if integrator < pid.minResult then pid.minResult else integrator

/-- `pid_controler_update` when `esp_timer_get_time` returns `now`. -/
def pidControlerUpdate (pid : PidControler) (now : Int)
    (measurement setpoint : Rat) : PidControler × Int :=
  let currError := measurement - setpoint
  let dtF := dtOf pid now
  let tau := 10 * dtF
  let proportional := pid.kp * currError
  let integrator := limitIntegrator pid
    (pid.integrator + 1 / 2 * pid.ki * (pid.prevError + currError) * dtF)
  let differentiator :=
    (2 * pid.kd * (measurement - pid.prevMeasurement)
      + (2 * tau - dtF) * pid.differentiator) / (2 * tau + dtF)
  let out := saturate pid.minResult pid.maxResult
    (proportional + integrator + differentiator)
  ({ pid with
      currTime := now
      tau := tau
      proportional := proportional
      integrator := integrator
      differentiator := differentiator
      prevError := currError
      prevMeasurement := measurement
      prevTime := now
      out := out },
    truncate out)

/-!
# What every update keeps

The gains and limits are those of `pid_controler_init`, and with a zero integral
gain the integrator stays at zero.
-/

structure Tuned (pid : PidControler) : Prop where
  kp_eq : pid.kp = 1 / 2
  ki_eq : pid.ki = 0
  kd_eq : pid.kd = 1 / 200
  minResult_eq : pid.minResult = -235
  maxResult_eq : pid.maxResult = 235
  integrator_eq : pid.integrator = 0

theorem tuned_pidControlerInit (now : Int) : Tuned (pidControlerInit now) where
  kp_eq := rfl
  ki_eq := rfl
  kd_eq := rfl
  minResult_eq := rfl
  maxResult_eq := rfl
  integrator_eq := rfl

theorem limitIntegrator_zero {pid : PidControler} (h : Tuned pid) :
    limitIntegrator pid 0 = 0 := by
  simp only [limitIntegrator, h.minResult_eq, h.maxResult_eq]
  norm_num

theorem Tuned.update {pid : PidControler} (h : Tuned pid) (now : Int)
    (measurement setpoint : Rat) :
    Tuned (pidControlerUpdate pid now measurement setpoint).1 where
  kp_eq := h.kp_eq
  ki_eq := h.ki_eq
  kd_eq := h.kd_eq
  minResult_eq := h.minResult_eq
  maxResult_eq := h.maxResult_eq
  integrator_eq := by
    simp [pidControlerUpdate, h.ki_eq, h.integrator_eq, limitIntegrator_zero h]

theorem pidControlerUpdate_prevMeasurement (pid : PidControler) (now : Int)
    (measurement setpoint : Rat) :
    (pidControlerUpdate pid now measurement setpoint).1.prevMeasurement =
      measurement := rfl

theorem dtOf_floor (pid : PidControler) (now : Int) : 1 / 1000 ≤ dtOf pid now := by
  simp only [dtOf]
  split
  · exact le_rfl
  · next h => exact (not_le.mp h).le

theorem dtOf_pos (pid : PidControler) (now : Int) : 0 < dtOf pid now :=
  lt_of_lt_of_le (by norm_num) (dtOf_floor pid now)

/-!
# The derivative as a recursive filter
-/

def kickOf (pid : PidControler) (now : Int) (measurement : Rat) : Rat :=
  (measurement - pid.prevMeasurement) / (2100 * dtOf pid now)

theorem Tuned.differentiator_update {pid : PidControler} (h : Tuned pid)
    (now : Int) (measurement setpoint : Rat) :
    (pidControlerUpdate pid now measurement setpoint).1.differentiator =
      filterStep (19 / 21) (kickOf pid now measurement) pid.differentiator := by
  have hdt := (dtOf_pos pid now).ne'
  simp only [pidControlerUpdate, h.kd_eq, filterStep, kickOf]
  field_simp
  ring

theorem Tuned.out_update {pid : PidControler} (h : Tuned pid) (now : Int)
    (measurement setpoint : Rat) :
    (pidControlerUpdate pid now measurement setpoint).1.out =
      saturate (-235) 235
        (1 / 2 * (measurement - setpoint) +
          filterStep (19 / 21) (kickOf pid now measurement) pid.differentiator) := by
  have hint := (h.update now measurement setpoint).integrator_eq
  rw [← h.differentiator_update now measurement setpoint]
  simp only [pidControlerUpdate] at hint ⊢
  rw [hint, h.minResult_eq, h.maxResult_eq, h.kp_eq, add_zero]

theorem pidControlerUpdate_result (pid : PidControler) (now : Int)
    (measurement setpoint : Rat) :
    (pidControlerUpdate pid now measurement setpoint).2 =
      truncate (pidControlerUpdate pid now measurement setpoint).1.out := by
  simp only [pidControlerUpdate]

theorem Tuned.result_mem {pid : PidControler} (h : Tuned pid) (now : Int)
    (measurement setpoint : Rat) :
    -235 ≤ (pidControlerUpdate pid now measurement setpoint).2 ∧
      (pidControlerUpdate pid now measurement setpoint).2 ≤ 235 := by
  rw [pidControlerUpdate_result, h.out_update]
  have hmem := saturate_mem (show (-235 : Rat) ≤ 235 by norm_num)
    (1 / 2 * (measurement - setpoint) +
      filterStep (19 / 21) (kickOf pid now measurement) pid.differentiator)
  exact truncate_mem (by simpa using hmem.1) (by simpa using hmem.2)

end Motors
end CarCleaner
