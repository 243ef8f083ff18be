import CarCleaner.Tasks.Parts.Boot
import CarCleaner.Tasks.Parts.Devices
import CarCleaner.Tasks.Parts.Display
import CarCleaner.Tasks.Parts.Logs
import CarCleaner.Tasks.Parts.Ota
import CarCleaner.Tasks.Parts.Servo

/-!
# Runs of the parts

Whatever the other parts do, each part of the firmware goes through a run of its own
model, so that what holds of every run of a part holds of the part in every run of the
firmware.
-/

namespace CarCleaner
namespace Tasks

open Foundation
open Firmware
open Servo
open Distance
open Angles
open Ota
open Oled
open Logs

/-- Every run of the firmware contains a run of each part's own model. -/
structure ContainsParts (board : Board) (history : List FirmwareInput) (s : FirmwareState) :
    Prop where
  logs : exists l, logsAfter (seenBy board (fun _ i => logInputs i) history) = .ok l ∧
    SameLogs s l
  servo : exists sys,
    servoAfter board.reason ∅ (seenBy board (fun _ i => servoInputs i) history) = .ok sys ∧
      SameServo s sys
  ota : exists o, otaAfter ∅ (seenBy board otaInputs history) = .ok o ∧ SameOta s o
  uart : s.uart = uartAfter board.answers (seenBy board uartInputs history)
  motors : motorsAfter board.pidInitAt (seenBy board motorInputs history) = .ok s.motors
  angles : s.angles =
    anglesAfter board.atan2f (AnglesTask.calibrated board.samples board.calibratedAt)
      (seenBy board imuInputs history)
  oled : s.oled =
    if OledReady board s then oledAfter (seenBy board oledInputs history) else .beforeInit
  boot : s.boot = bootAfter board.branches (seenBy board bootInputs history)

theorem firmware_contains_parts {board : Board} {history : List FirmwareInput}
    {s : FirmwareState} (hs : firmwareAfter board history = .ok s) :
    ContainsParts board history s where
  logs := logs_run hs
  servo := servo_run hs
  ota := ota_run hs
  uart := uart_run hs
  motors := motors_run hs
  angles := angles_run hs
  oled := oled_run hs
  boot := boot_run hs

/-- A board whose sensor answers 25 cm to every request. -/
def quietBoard : Board where
  branches := ⟨false, true⟩
  reason := .powerOn
  atan2f := fun _ _ => 0
  answers := fun _ => ⟨0, 250⟩
  samples := Vector.replicate _ .failed
  calibratedAt := 0
  pidInitAt := 0
  sntpTime := 1700000000

/--
The boot with an address as soon as there is a handler, one step of most of the parts, and
an update that is half done when a frame is drawn.
-/
def quietRun : List FirmwareInput :=
  List.replicate 25 .appMain ++ [.logs (.wifi (.staGotIp []) ⟨.ok, .ok⟩)] ++
    List.replicate 30 .appMain ++
    [.logs (.log [] (Foundation.CharArray.zeros 256)), .logs (.sender 3),
      .mqtt (.data (literal "car/servo") (literal "90")), .servo, .uart, .uart, .sensor, .sensor,
      .uart, .motor ⟨0, 0, 0, 0⟩, .imu (.read (Vector.replicate _ 0) 20000),
      .imu (.failed (Vector.replicate _ 0)),
      .mqtt (.data (literal "car/ota") (literal "true")), .ota ⟨.ok, 7, 100, 0⟩,
      .ota ⟨.ok, 7, 100, 0⟩, .ota ⟨.httpsOtaInProgress, 7, 100, 50⟩, .ota ⟨.ok, 7, 100, 0⟩,
      .alarm] ++
    List.replicate 7 .oled

theorem quietRun_ok :
    exists s, firmwareAfter quietBoard quietRun = .ok s ∧ s.ota.point ≠ .restarted ∧
      s.Booted quietBoard := by
  have hok : (match firmwareAfter quietBoard quietRun with
      | .ok s => decide (s.ota.point ≠ .restarted ∧ s.Booted quietBoard)
      | .error _ => false) = true := by
    decide +kernel
  cases hrun : firmwareAfter quietBoard quietRun with
  | ok s =>
      rw [hrun] at hok
      exact ⟨s, rfl, of_decide_eq_true hok⟩
  | error fault =>
      rw [hrun] at hok
      cases hok

theorem quietRun_contains_parts :
    exists s, firmwareAfter quietBoard quietRun = .ok s ∧
      ContainsParts quietBoard quietRun s := by
  rcases quietRun_ok with ⟨s, hs, _⟩
  exact ⟨s, hs, firmware_contains_parts hs⟩

end Tasks
end CarCleaner