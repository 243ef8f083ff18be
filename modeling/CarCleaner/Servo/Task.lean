import CarCleaner.Foundation.Run
import CarCleaner.Firmware.Mcpwm
import CarCleaner.Mqtt.Handler

/-!
# The servo task

`servo_motor_task` waits for an angle, writes it and pauses for 100 ms.  Angles
come from the MQTT handler through `q_servo_angle`, so the task and the handler
form one system whose runs interleave handled events and steps of the task.
-/

namespace CarCleaner
namespace Servo

open Foundation
open Firmware
open Mqtt

/-- Program points of the loop of `servo_motor_task`. -/
inductive Phase where
  | receiving
  | applying
  | pausing
deriving DecidableEq, Repr

/-- The static `angle`, the program point and the comparator of the servo. -/
structure ServoMotor where
  phase : Phase
  angle : Int
  servoCmpr : Nat
deriving DecidableEq, Repr

/-- The task in front of its loop, with the servo in the centre. -/
def ServoMotor.boot : ServoMotor where
  phase := .receiving
  angle := 0
  servoCmpr := 1500

def periodTicks : Nat := 20000

/-- `set_angle`: the compare value it writes. -/
def setAngle (angle : Int) : Except Fault Nat := do
  let scaled <- checked (2000 * angle)
  let dutyUs <- checked (500 + scaled.tdiv 180)
  setCompareValue periodTicks (uint32OfInt dutyUs)

structure ServoSystem where
  hiveMQ : HiveMQ
  servo : ServoMotor
deriving DecidableEq

/-- One step of the task; it waits as long as `q_servo_angle` is empty. -/
def servoStep (sys : ServoSystem) : Except Fault ServoSystem :=
  match sys.servo.phase with
  | .receiving =>
      match sys.hiveMQ.qServoAngle.receive? with
      | none => pure sys
      | some (angle, rest) =>
          pure
            { hiveMQ := { sys.hiveMQ with qServoAngle := rest }
              servo := { sys.servo with phase := .applying, angle := angle } }
  | .applying => do
      let servoCmpr <- setAngle sys.servo.angle
      pure
        { sys with
          servo := { sys.servo with phase := .pausing, servoCmpr := servoCmpr } }
  | .pausing => pure { sys with servo := { sys.servo with phase := .receiving } }

/-- What happens next: the client delivers an event, or the task takes a step. -/
inductive ServoInput where
  | event (event : MqttEvent)
  | step
deriving DecidableEq, Repr

def systemStep (reason : ResetReason) (sys : ServoSystem) :
    ServoInput -> Except Fault ServoSystem
  | .event event =>
      pure { sys with hiveMQ := (mqttsHiveMQHandler reason sys.hiveMQ event).1 }
  | .step => servoStep sys

def ServoSystem.boot (eTasks : EventGroup) : ServoSystem where
  hiveMQ := HiveMQ.boot eTasks
  servo := ServoMotor.boot

def systemAt (reason : ResetReason) (eTasks : EventGroup) (feed : Nat -> ServoInput)
    (n : Nat) : Except Fault ServoSystem :=
  outcomeAt (systemStep reason) (ServoSystem.boot eTasks) feed n

/-!
# Angles and compare values

A clamped angle gives a compare value between 500 and 2500 ticks, far below the
period.
-/

def dutyOf (angle : Int) : Nat :=
  500 + (2000 * angle.toNat) / 180

theorem setAngle_eq {angle : Int} (hlow : 0 ≤ angle) (hhigh : angle ≤ 180) :
    setAngle angle = .ok (dutyOf angle) := by
  have hscaled : checked (2000 * angle) = .ok (2000 * angle) :=
    checked_eq_ok (by omega) (by omega)
  have hduty : (500 + (2000 * angle).tdiv 180 : Int) = (dutyOf angle : Int) := by
    rw [Int.tdiv_eq_ediv_of_nonneg (by omega), dutyOf]
    omega
  have hle : dutyOf angle ≤ 2500 := by
    rw [dutyOf]
    omega
  rw [setAngle, hscaled, ok_bind, hduty, checked_eq_ok (by omega) (by omega),
    ok_bind, uint32OfInt_natCast (by omega)]
  exact setCompareValue_eq_ok (hle.trans (by decide))

theorem dutyOf_mem {angle : Int} (hlow : 0 ≤ angle) (hhigh : angle ≤ 180) :
    500 ≤ dutyOf angle ∧ dutyOf angle ≤ 2500 := by
  rw [dutyOf]
  omega

structure ServoSafe (sys : ServoSystem) : Prop where
  waiting : sys.hiveMQ.AnglesClamped
  angle_mem : 0 ≤ sys.servo.angle ∧ sys.servo.angle ≤ 180
  servoCmpr_mem : 500 ≤ sys.servo.servoCmpr ∧ sys.servo.servoCmpr ≤ 2500

theorem servoSafe_boot (eTasks : EventGroup) : ServoSafe (ServoSystem.boot eTasks) where
  waiting := BoundedQueue.all_empty _
  angle_mem := by
    simp [ServoSystem.boot, ServoMotor.boot]
  servoCmpr_mem := by
    simp [ServoSystem.boot, ServoMotor.boot]

theorem servoStep_ok {sys : ServoSystem} (h : ServoSafe sys) :
    exists next, servoStep sys = .ok next ∧ ServoSafe next := by
  unfold servoStep
  cases sys.servo.phase with
  | receiving =>
      cases hreceive : sys.hiveMQ.qServoAngle.receive? with
      | none =>
          exact ⟨sys, rfl, h⟩
      | some taken =>
          rcases taken with ⟨angle, rest⟩
          rcases h.waiting.receive? hreceive with ⟨hangle, hrest⟩
          exact ⟨_, rfl, hrest, hangle, h.servoCmpr_mem⟩
  | applying =>
      rw [setAngle_eq h.angle_mem.1 h.angle_mem.2]
      exact ⟨_, rfl, h.waiting, h.angle_mem, dutyOf_mem h.angle_mem.1 h.angle_mem.2⟩
  | pausing =>
      exact ⟨_, rfl, h.waiting, h.angle_mem, h.servoCmpr_mem⟩

theorem systemStep_ok {sys : ServoSystem} (h : ServoSafe sys) (reason : ResetReason)
    (i : ServoInput) :
    exists next, systemStep reason sys i = .ok next ∧ ServoSafe next := by
  cases i with
  | event event =>
      exact ⟨_, rfl, mqttsHiveMQHandler_anglesClamped h.waiting reason event,
        h.angle_mem, h.servoCmpr_mem⟩
  | step =>
      exact servoStep_ok h

theorem systemAt_ok (reason : ResetReason) (eTasks : EventGroup)
    (feed : Nat -> ServoInput) (n : Nat) :
    exists sys, systemAt reason eTasks feed n = .ok sys ∧ ServoSafe sys :=
  outcomeAt_total (fun _ sys => ServoSafe sys) (servoSafe_boot eTasks)
    (fun n _ h => systemStep_ok h reason (feed n)) n

end Servo
end CarCleaner
