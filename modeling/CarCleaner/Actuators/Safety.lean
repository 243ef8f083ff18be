import CarCleaner.Motors.Task
import CarCleaner.Servo.Task

/-!
# Compare values of the actuators

Every value that the motor task and the servo task write to a comparator is
accepted by the driver, so no `ESP_ERROR_CHECK` on a compare value aborts.  The
mode of the motors may even be switched from outside between two iterations.
-/

namespace CarCleaner
namespace Actuators

open Foundation
open Firmware
open Motors
open Servo

/-- The task in front of an iteration for which the mode has been set, if at all. -/
def switchMode (mode : Option MotorsState) (task : MotorTask) : MotorTask :=
  { task with mainMotorsState := mode.getD task.mainMotorsState }

def switchedLoop (task : MotorTask) (i : Option MotorsState × LoopInput) :
    Except Fault (MotorTask × LoopRecord) :=
  motorLoop (switchMode i.1 task) i.2

def switchedTaskAt (initTime : Int) (feed : Nat -> Option MotorsState × LoopInput)
    (n : Nat) : Except Fault MotorTask :=
  outcomeAt (fun task i => do let next <- switchedLoop task i; pure next.1)
    (bootTask initTime) feed n

/-- A call of `motors_control` whose compare values the driver accepts. -/
structure SafeCall (call : MotorsCall) : Prop where
  ticks_eq : percentIntoTicks call.percentIn255 = .ok (call.regs.cmprMotor1 : Int)
  same : call.regs.cmprMotor2 = call.regs.cmprMotor1
  zero_iff : call.regs.cmprMotor1 = 0 <-> call.percentIn255 = 0
  ticks_mem : call.percentIn255 ≠ 0 ->
    149 ≤ call.regs.cmprMotor1 ∧ call.regs.cmprMotor1 ≤ 184

theorem safeCall_of_motorsControl {call : MotorsCall} {regs : Mcpwm}
    (hlow : -255 ≤ call.percentIn255) (hhigh : call.percentIn255 ≤ 255)
    (h : motorsControl call.state call.percentIn255 regs = .ok call.regs) :
    SafeCall call := by
  rcases motorsControl_ok call.state hlow hhigh regs with ⟨regs', hregs', hleft, hright⟩
  rw [h] at hregs'
  cases hregs'
  constructor
  · rw [hleft]
    exact percentIntoTicks_eq hlow hhigh
  · rw [hright, hleft]
  · rw [hleft]
    constructor
    · intro hticks
      by_contra hne
      have hmem := ticksOf_mem hne
      omega
    · intro hzero
      rw [hzero, ticksOf_zero]
  · intro hne
    rw [hleft]
    exact ticksOf_mem hne

theorem motorLoop_safe {task : MotorTask} (h : Tuned task.pid) (i : LoopInput) :
    exists next, motorLoop task i = .ok next ∧ SafeCall next.2.call ∧
      Tuned next.1.pid := by
  rcases motorLoop_ok h i with ⟨next, hnext, htuned⟩
  refine ⟨next, hnext, ?_, htuned⟩
  rw [motorLoop] at hnext
  cases hstate : task.mainMotorsState with
  | forwardBackward =>
      rw [hstate] at hnext
      rcases bind_eq_ok hnext with ⟨regs, hregs, hpure⟩
      have hmem := h.result_mem i.pidTime (distanceUsed task i) wallSetpoint
      have hlow := le_trans (show (-255 : Int) ≤ -235 by decide) hmem.1
      have hhigh := le_trans hmem.2 (show (235 : Int) ≤ 255 by decide)
      cases hpure
      exact safeCall_of_motorsControl hlow hhigh hregs
  | rotate =>
      rw [hstate] at hnext
      rcases bind_eq_ok hnext with ⟨regs, hregs, hpure⟩
      have hlow : (-255 : Int) ≤ 80 := by decide
      have hhigh : (80 : Int) ≤ 255 := by decide
      cases hpure
      exact safeCall_of_motorsControl hlow hhigh hregs

theorem switchedTaskAt_ok (initTime : Int)
    (feed : Nat -> Option MotorsState × LoopInput) (n : Nat) :
    exists task, switchedTaskAt initTime feed n = .ok task ∧ Tuned task.pid := by
  refine outcomeAt_total (fun _ (task : MotorTask) => Tuned task.pid)
    (tuned_pidControlerInit initTime) ?_ n
  intro k task htuned
  have hswitched : Tuned (switchMode (feed k).1 task).pid := htuned
  rcases motorLoop_safe hswitched (feed k).2 with ⟨next, hnext, _, htuned'⟩
  exact ⟨next.1, by rw [switchedLoop, hnext]; rfl, htuned'⟩

/--
No write to an actuator aborts.  Every iteration of the motor task succeeds and
writes accepted compare values, and so does every step of the servo task,
whatever arrives on `car/servo` in between.
-/
theorem actuator_writes_accepted (initTime : Int)
    (feed : Nat -> Option MotorsState × LoopInput) (reason : Mqtt.ResetReason)
    (eTasks : EventGroup) (inputs : Nat -> ServoInput) (n : Nat) :
    (exists task next, switchedTaskAt initTime feed n = .ok task ∧
      switchedLoop task (feed n) = .ok next ∧ SafeCall next.2.call) ∧
    (exists sys next, systemAt reason eTasks inputs n = .ok sys ∧
      systemStep reason sys (inputs n) = .ok next ∧
      500 ≤ next.servo.servoCmpr ∧ next.servo.servoCmpr ≤ 2500) := by
  constructor
  · rcases switchedTaskAt_ok initTime feed n with ⟨task, htask, htuned⟩
    have hswitched : Tuned (switchMode (feed n).1 task).pid := htuned
    rcases motorLoop_safe hswitched (feed n).2 with ⟨next, hnext, hsafe, _⟩
    exact ⟨task, next, htask, hnext, hsafe⟩
  · rcases systemAt_ok reason eTasks inputs n with ⟨sys, hsys, hsafe⟩
    rcases systemStep_ok hsafe reason (inputs n) with ⟨next, hnext, hsafe'⟩
    exact ⟨sys, next, hsys, hnext, hsafe'.servoCmpr_mem⟩

end Actuators
end CarCleaner
