import CarCleaner.Oled.Overrun
import CarCleaner.Tasks.Parts

/-!
# What can stop the firmware

A run of the whole firmware is cut short by a call that fails under `ESP_ERROR_CHECK` or
`configASSERT`, by the arithmetic of the download, by the bar of more than 119 percent, or
by a log that is emitted before the hook has its event group.  The values that the motors
and the servo write are always accepted, whatever the broker sends and the sensor measures.
-/

namespace CarCleaner
namespace Tasks

open Foundation
open Firmware
open Wifi
open Mqtt
open Servo
open Motors
open Ota
open Oled
open Logs

/-- The steps that fault. -/
inductive Faults (board : Board) (s : FirmwareState) : FirmwareInput -> Prop where
  | connect {driver : WifiDriver} (h : driver.connect ≠ .ok) :
      Faults board s (.logs (.wifi .staStart driver))
  | markAppValid {ip : List UInt8} {driver : WifiDriver} (h : driver.markAppValid ≠ .ok) :
      Faults board s (.logs (.wifi (.staGotIp ip) driver))
  | earlyLog {text : List UInt8} {stack : CharArray 256}
      (h : s.boot.EarlyHook board.branches) : Faults board s (.logs (.log text stack))
  | percent {answer : OtaAnswer} (hpoint : s.ota.point = .performing)
      (herr : answer.err = .httpsOtaInProgress)
      (h : ¬ InInt32 (answer.lenRead * 100) ∨ s.ota.updateSize = 0) :
      Faults board s (.ota answer)
  | bar (hpoint : s.oled.point = .updating)
      (h : 119 < (s.oled.levelDrawn s.oledSource).toNat) : Faults board s .oled
  | checked {call : CheckedCall} (h : s.AtCheck board call) :
      Faults board s (.checkFails call)

/-!
# Values that are always accepted
-/

theorem servoSafe_of_run {board : Board} {history : List FirmwareInput} {s : FirmwareState}
    (hs : firmwareAfter board history = .ok s) : ServoSafe s.servoSystem := by
  rcases servo_run hs with ⟨sys, hsys, hservo, hsame, _⟩
  rcases servoAfter_ok board.reason ∅ (seenBy board (fun _ i => servoInputs i) history) with
    ⟨sys', hsys', hsafe⟩
  rw [hsys] at hsys'
  cases hsys'
  have hqueue : sys.hiveMQ.qServoAngle = s.hiveMQ.qServoAngle := by
    rw [hsame]
    rfl
  constructor
  · have hwaiting := hsafe.waiting
    rw [HiveMQ.AnglesClamped, hqueue] at hwaiting
    exact hwaiting
  · change 0 ≤ s.servo.angle ∧ s.servo.angle ≤ 180
    rw [<- hservo]
    exact hsafe.angle_mem
  · change 500 ≤ s.servo.servoCmpr ∧ s.servo.servoCmpr ≤ 2500
    rw [<- hservo]
    exact hsafe.servoCmpr_mem

theorem tuned_of_run {board : Board} {history : List FirmwareInput} {s : FirmwareState}
    (hs : firmwareAfter board history = .ok s) : Tuned s.motors.pid := by
  refine reached_invariant (fun _ (task : MotorTask) => Tuned task.pid)
    (tuned_pidControlerInit board.pidInitAt) ?_ (motors_run hs)
  intro past i task task' _ htuned hstep
  rcases motorLoop_ok htuned i with ⟨next, hnext, htuned'⟩
  rw [motorStep, hnext] at hstep
  cases hstep
  exact htuned'

/-!
# The buffer of the display
-/

theorem sound_appMainStep (board : Board) {s : FirmwareState} (h : s.oled.framebuffer.Sound) :
    (s.appMainStep board).oled.framebuffer.Sound := by
  by_cases hat : (appMain board.branches)[s.pc]? = some (.call "oled_init")
  · rw [oled_appMainStep_of_at hat]
    exact sound_oledInit h
  · rw [oled_appMainStep_of_not_at hat]
    exact h

theorem sound_of_run {board : Board} {history : List FirmwareInput} {s : FirmwareState}
    (hs : firmwareAfter board history = .ok s) : s.oled.framebuffer.Sound := by
  refine firmware_invariant (fun _ s => s.oled.framebuffer.Sound) sound_boot ?_ ?_ hs
  · intro past i s _ _ hsound
    exact hsound
  · intro past i s s' _ _ hacted hsound
    cases hacted with
    | appMain => exact sound_appMainStep board hsound
    | oled hbuffer =>
        rw [oled_oledStep]
        exact sound_oledTask hsound ((staysInBuffer_iff hsound).mp hbuffer)
    | imu attempt =>
        have hsame : (s.imuStep board attempt).oled = s.oled :=
          samePart_of_acted .oled (.imu attempt) rfl
        rw [hsame]
        exact hsound
    | _ => exact hsound

/-!
# Answers and codes
-/

theorem ok_not_error {fault value : Type} (x : value) :
    ¬ exists f : fault, Except.ok x = .error f := by
  intro h
  cases h with
  | intro f h => cases h

theorem espErrorCheck_error_iff (err : EspErr) :
    (exists fault, espErrorCheck err = .error fault) <-> err ≠ .ok := by
  cases err with
  | ok => exact iff_of_false (ok_not_error _) fun h => h rfl
  | wifiNotStarted => exact iff_of_true ⟨_, rfl⟩ nofun
  | httpsOtaInProgress => exact iff_of_true ⟨_, rfl⟩ nofun
  | other code => exact iff_of_true ⟨_, rfl⟩ nofun

theorem bind_pure_error_iff {fault value value' : Type} {x : Except fault value}
    {f : value -> value'} :
    (exists e, (x >>= fun v => pure (f v)) = .error e) <-> exists e, x = .error e := by
  cases x with
  | error e => exact iff_of_true ⟨e, rfl⟩ ⟨e, rfl⟩
  | ok v => exact iff_of_false (ok_not_error _) (ok_not_error _)

theorem mapError_error_iff {fault fault' value : Type} {x : Except fault value}
    {f : fault -> fault'} :
    (exists e, x.mapError f = .error e) <-> exists e, x = .error e := by
  cases x with
  | error e => exact iff_of_true ⟨f e, rfl⟩ ⟨e, rfl⟩
  | ok v => exact iff_of_false (ok_not_error _) (ok_not_error _)

/-- The handler checks two codes of the driver. -/
theorem deliver_error_iff (driver : WifiDriver) (eTasks : EventGroup) (event : WifiEvent) :
    (exists fault, deliver driver eTasks event = .error fault) <->
      (event = .staStart ∧ driver.connect ≠ .ok) ∨
        (exists ip, event = .staGotIp ip ∧ driver.markAppValid ≠ .ok) := by
  cases event with
  | staStart =>
      simp only [deliver, registered, if_true, wifiHandler]
      rw [bind_pure_error_iff, espErrorCheck_error_iff]
      simp
  | staGotIp ip =>
      simp only [deliver, registered, if_true, wifiHandler]
      rw [bind_pure_error_iff, espErrorCheck_error_iff]
      simp
  | staDisconnected =>
      simp only [deliver, registered, if_true, wifiHandler]
      split
      · simp [pure, Except.pure]
      · simp [pure, Except.pure]
  | staConnected => simp [deliver, registered, wifiHandler, pure, Except.pure]
  | otherWifi => simp [deliver, registered, wifiHandler, pure, Except.pure]
  | staLostIp => simp [deliver, registered, pure, Except.pure]
  | otherIp => simp [deliver, registered, pure, Except.pure]

theorem otaPercentOf_error_iff (lenRead : Int) (updateSize : Nat) :
    (exists fault, otaPercentOf lenRead updateSize = .error fault) <->
      ¬ InInt32 (lenRead * 100) ∨ updateSize = 0 := by
  by_cases hrange : InInt32 (lenRead * 100)
  · have hscaled : int32 OtaFault.int32Overflow (lenRead * 100) = .ok (lenRead * 100) :=
      if_pos hrange
    rw [otaPercentOf, hscaled]
    change (exists fault, (if updateSize = 0 then _ else _) = _) <-> _
    by_cases hsize : updateSize = 0
    · rw [if_pos hsize]
      exact iff_of_true ⟨_, rfl⟩ (Or.inr hsize)
    · rw [if_neg hsize]
      exact iff_of_false (ok_not_error _) fun h => h.elim (absurd hrange) hsize
  · have hscaled : int32 OtaFault.int32Overflow (lenRead * 100) = .error .int32Overflow :=
      if_neg hrange
    rw [otaPercentOf, hscaled]
    exact iff_of_true ⟨_, rfl⟩ (Or.inl hrange)

theorem otaTask_error_iff (o : OtaSystem) (answer : OtaAnswer) :
    (exists fault, otaTask o answer = .error fault) <->
      o.point = .performing ∧ answer.err = .httpsOtaInProgress ∧
        (¬ InInt32 (answer.lenRead * 100) ∨ o.updateSize = 0) := by
  unfold otaTask
  cases hpoint : o.point with
  | performing =>
      simp only [true_and]
      split
      · next herr =>
          rw [bind_pure_error_iff, otaPercentOf_error_iff]
          simp only [herr, true_and]
      · next herr => simp [herr, pure, Except.pure]
  | waiting =>
      simp only [reduceCtorEq, false_and, iff_false]
      split
      · exact ok_not_error _
      · exact ok_not_error _
  | beginning =>
      simp only [reduceCtorEq, false_and, iff_false]
      split
      · exact ok_not_error _
      · exact ok_not_error _
  | sending => exact iff_of_false (ok_not_error _) fun h => absurd h.1 (by decide)
  | finishing =>
      simp only [reduceCtorEq, false_and, iff_false]
      split
      · exact ok_not_error _
      · exact ok_not_error _
  | pausing => exact iff_of_false (ok_not_error _) fun h => absurd h.1 (by decide)
  | restarted => exact iff_of_false (ok_not_error _) fun h => absurd h.1 (by decide)

/-!
# Every fault of a run
-/

theorem logs_error_iff {board : Board} {s : FirmwareState} {input : LogInput}
    (henabled : s.Enabled board (.logs input)) :
    (exists fault, s.act board (.logs input) = .error fault) <->
      Faults board s (.logs input) := by
  cases input with
  | wifi event driver =>
      have hact : s.act board (.logs (.wifi event driver)) =
          ((deliver driver s.eTasks event >>= fun next =>
              pure { s.logSystem with eTasks := next.1 }).mapError .abort >>=
            fun logs => pure (s.storeLogs logs)) := rfl
      rw [hact, bind_pure_error_iff, mapError_error_iff, bind_pure_error_iff,
        deliver_error_iff]
      constructor
      · intro h
        rcases h with ⟨rfl, hconnect⟩ | ⟨ip, rfl, hmark⟩
        · exact .connect hconnect
        · exact .markAppValid hmark
      · intro h
        cases h with
        | connect hconnect => exact Or.inl ⟨rfl, hconnect⟩
        | markAppValid hmark => exact Or.inr ⟨_, rfl, hmark⟩
  | log text stack =>
      have hpos := exposed_hook_iff.mp henabled.2
      by_cases hcreated : s.boot.Created board.branches .eTasks
      · have hact : s.act board (.logs (.log text stack)) =
            .ok (s.storeLogs (newHookPapertrailFunction s.logSystem text stack)) :=
          if_neg fun h => h.2 hcreated
        rw [hact]
        refine iff_of_false (ok_not_error _) ?_
        intro h
        cases h with
        | earlyLog hearly =>
            have hle := hearly.2
            have hlt := created_eTasks_iff.mp hcreated
            omega
      · have hact : s.act board (.logs (.log text stack)) = .error .nullHandle :=
          if_pos ⟨rfl, hcreated⟩
        rw [hact]
        refine iff_of_true ⟨_, rfl⟩ (.earlyLog ⟨hpos, ?_⟩)
        exact not_lt.mp fun h => hcreated (created_eTasks_iff.mpr h)
  | sender socket =>
      have hlog : ¬ ((LogInput.sender socket).isLog = true ∧
          ¬ s.boot.Created board.branches .eTasks) := fun h => Bool.false_ne_true h.1
      rw [FirmwareState.act, if_neg hlog]
      exact iff_of_false (ok_not_error _) fun h => by cases h

/-- In every state that is reached, a step faults exactly for one of these causes. -/
theorem act_error_iff {board : Board} {history : List FirmwareInput} {s : FirmwareState}
    {i : FirmwareInput} (hs : firmwareAfter board history = .ok s)
    (henabled : s.Enabled board i) :
    (exists fault, s.act board i = .error fault) <-> Faults board s i := by
  cases i with
  | logs input => exact logs_error_iff henabled
  | ota answer =>
      have hact : s.act board (.ota answer) =
          ((otaTask s.otaSystem answer).mapError .ota >>= fun ota => pure (s.storeOta ota)) :=
        rfl
      rw [hact, bind_pure_error_iff, mapError_error_iff, otaTask_error_iff]
      constructor
      · intro h
        rcases h with ⟨hpoint, herr, harithmetic⟩
        exact .percent hpoint herr harithmetic
      · intro h
        cases h with
        | percent hpoint herr harithmetic => exact ⟨hpoint, herr, harithmetic⟩
  | servo =>
      have hact : s.act board .servo =
          ((servoStep s.servoSystem).mapError .abort >>= fun sys => pure (s.storeServo sys)) :=
        rfl
      rcases servoStep_ok (servoSafe_of_run hs) with ⟨next, hnext, _⟩
      rw [hact, hnext]
      exact iff_of_false (ok_not_error _) fun h => by cases h
  | motor clock =>
      rcases motorLoop_ok (tuned_of_run hs) (s.motorInput clock) with ⟨next, hnext, _⟩
      simp only [FirmwareState.act, hnext]
      exact iff_of_false (ok_not_error _) fun h => by cases h
  | oled =>
      have hin := @staysInBuffer_iff s.oled (sound_of_run hs) s.oledSource
      by_cases hbuffer : s.oled.StaysInBuffer s.oledSource
      · have hact : s.act board .oled = .ok (s.oledStep board) := if_pos hbuffer
        rw [hact]
        refine iff_of_false (ok_not_error _) ?_
        intro h
        cases h with
        | bar hpoint hlong => exact absurd (hin.mp hbuffer hpoint) (not_le.mpr hlong)
      · have hact : s.act board .oled = .error .bufferOverrun := if_neg hbuffer
        rw [hact]
        refine iff_of_true ⟨_, rfl⟩ ?_
        rcases Classical.not_imp.mp (fun hle => hbuffer (hin.mpr hle)) with ⟨hpoint, hlong⟩
        exact .bar hpoint (not_le.mp hlong)
  | checkFails call => exact iff_of_true ⟨_, rfl⟩ (.checked henabled.2)
  | appMain => exact iff_of_false (ok_not_error _) fun h => by cases h
  | mqtt event => exact iff_of_false (ok_not_error _) fun h => by cases h
  | uart => exact iff_of_false (ok_not_error _) fun h => by cases h
  | sensor => exact iff_of_false (ok_not_error _) fun h => by cases h
  | imu attempt => exact iff_of_false (ok_not_error _) fun h => by cases h
  | alarm => exact iff_of_false (ok_not_error _) fun h => by cases h

theorem firmwareStep_error_iff {board : Board} {history : List FirmwareInput}
    {s : FirmwareState} {i : FirmwareInput} (hs : firmwareAfter board history = .ok s) :
    (exists fault, firmwareStep board s i = .error fault) <->
      s.Enabled board i ∧ Faults board s i := by
  unfold firmwareStep
  by_cases henabled : s.Enabled board i
  · rw [if_pos henabled, act_error_iff hs henabled]
    exact (and_iff_right henabled).symm
  · rw [if_neg henabled]
    exact iff_of_false (ok_not_error _) fun h => henabled h.1

end Tasks
end CarCleaner
