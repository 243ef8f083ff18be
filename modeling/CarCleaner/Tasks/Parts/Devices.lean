import CarCleaner.Tasks.Shared

/-!
# The sensors and the motors inside the firmware

The distances, the motors and the angles share queues with the display, and no bits with
anyone.
-/

namespace CarCleaner
namespace Tasks

open Foundation
open Firmware
open Motors
open Distance
open Angles
open Oled

def uartInputs (s : FirmwareState) : FirmwareInput -> List UartInput
  | .uart => [.task]
  | .sensor => [.sensor]
  | .motor _ => [.motorReceives]
  | .oled => if s.oled.point = .drawingDistance then [.oledReceives] else []
  | _ => []

theorem uart_run {board : Board} {history : List FirmwareInput} {s : FirmwareState}
    (hs : firmwareAfter board history = .ok s) :
    s.uart = uartAfter board.answers (seenBy board uartInputs history) := by
  refine view_run FirmwareState.uart ?_ hs
  intro s i s' _ hacted
  cases hacted with
  | oled hbuffer =>
      unfold FirmwareState.oledStep
      cases hpoint : s.oled.point with
      | drawingDistance =>
          rw [uartInputs, if_pos hpoint]
          rfl
      | _ =>
          rw [uartInputs, if_neg (by rw [hpoint]; exact nofun)]
          rfl
  | uart => rfl
  | sensor => rfl
  | motor _ => rfl
  | appMain => exact samePart_of_acted .uart (.appMain) rfl
  | logs _ _ => rfl
  | mqtt event => rfl
  | servo _ => rfl
  | ota _ => rfl
  | imu attempt => exact samePart_of_acted .uart (.imu attempt) rfl
  | alarm => rfl

def motorStep (task : MotorTask) (i : LoopInput) : Except Fault MotorTask := do
  let next <- motorLoop task i
  pure next.1

def motorsAfter (initTime : Int) (history : List LoopInput) : Except Fault MotorTask :=
  outcomeAfter motorStep (bootTask initTime) history

def motorInputs (s : FirmwareState) : FirmwareInput -> List LoopInput
  | .motor clock => [s.motorInput clock]
  | _ => []

theorem motors_run {board : Board} {history : List FirmwareInput} {s : FirmwareState}
    (hs : firmwareAfter board history = .ok s) :
    motorsAfter board.pidInitAt (seenBy board motorInputs history) = .ok s.motors := by
  have hrun : exists t,
      motorsAfter board.pidInitAt (seenBy board motorInputs history) = .ok t ∧
        s.motors = t := by
    refine part_run (R := fun s t => s.motors = t) rfl ?_ hs
    intro s t i s' hR _ hacted
    by_cases hi : motorInputs s i = []
    · rw [hi]
      refine ⟨t, rfl, ?_⟩
      rw [<- hR]
      refine samePart_of_acted .motors hacted ?_
      cases i with
      | motor clock => cases hi
      | _ => rfl
    · cases hacted with
      | @motor clock next hnext =>
          refine ⟨next.1, ?_, rfl⟩
          rw [motorInputs, outcomeAfter_singleton, motorStep, <- hR, hnext]
          rfl
      | _ => exact absurd rfl hi
  rcases hrun with ⟨t, ht, hmotors⟩
  rw [hmotors]
  exact ht

def imuInputs (s : FirmwareState) : FirmwareInput -> List Attempt
  | .imu attempt => if s.sendingAngles then [] else [attempt]
  | _ => []

theorem angles_run {board : Board} {history : List FirmwareInput} {s : FirmwareState}
    (hs : firmwareAfter board history = .ok s) :
    s.angles =
      anglesAfter board.atan2f (AnglesTask.calibrated board.samples board.calibratedAt)
        (seenBy board imuInputs history) := by
  refine view_run FirmwareState.angles ?_ hs
  intro s i s' _ hacted
  cases hacted with
  | imu attempt =>
      unfold FirmwareState.imuStep
      by_cases hsending : s.sendingAngles = true
      · rw [if_pos hsending, imuInputs, if_pos hsending]
        rfl
      · rw [if_neg hsending, imuInputs, if_neg hsending]
        rfl
  | appMain =>
      have hacted : Acted board s .appMain _ := .appMain
      exact (samePart_of_acted .angles hacted rfl).1
  | oled hbuffer =>
      have hacted : Acted board s .oled _ := .oled hbuffer
      exact (samePart_of_acted .angles hacted rfl).1
  | _ => rfl

end Tasks
end CarCleaner
