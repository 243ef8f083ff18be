import CarCleaner.Angles.Task
import CarCleaner.Clock.Calendar
import CarCleaner.Distance.Task
import CarCleaner.Logs.Delivery
import CarCleaner.Motors.Task
import CarCleaner.Oled.Task
import CarCleaner.Ota.Task
import CarCleaner.Servo.Task
import CarCleaner.Tasks.Boot

/-!
# The whole firmware

`app_main` creates the tasks one after another while the event handlers are already
running, and from then on everything runs at once.  The parts share one event group and
five of the queues, and the clock counts on beside them.  A step of the whole is a step of
one of the parts, in any order.
-/

namespace CarCleaner
namespace Tasks

open Foundation
open Firmware
open Wifi
open Mqtt
open Servo
open Motors
open Distance
open Angles
open Ota
open Oled
open Logs
open Clock

/-- What the board and its surroundings decide once and for all. -/
structure Board where
  branches : BootBranches
  reason : ResetReason
  atan2f : Rat -> Rat -> Rat
  answers : Nat -> Answer
  samples : Vector CalibrationSample calibrationSamples
  calibratedAt : Int
  pidInitAt : Int
  sntpTime : Nat

/--
The parts of the firmware.  They all see the one event group `eTasks`; what is stored as
the event group of a part is not looked at.
-/
structure FirmwareState where
  pc : Nat
  eTasks : EventGroup
  logs : LogSystem
  hiveMQ : HiveMQ
  servo : ServoMotor
  ota : OtaSystem
  uart : UartSystem
  motors : MotorTask
  angles : AnglesTask
  sendingAngles : Bool
  qAngle : BoundedQueue (List UInt8) 5
  now : Nat
  oled : OledTask

structure LoopClock where
  checkFirst : Int
  checkSecond : Int
  pidTime : Int
  loopEnd : Int
deriving DecidableEq, Repr

def LoopClock.input (clock : LoopClock) (received : Option Rat) : LoopInput where
  received := received
  checkFirst := clock.checkFirst
  checkSecond := clock.checkSecond
  pidTime := clock.pidTime
  loopEnd := clock.loopEnd

/-- Where a call is checked: the next action of `app_main`, or a function of a task. -/
inductive CheckedCall where
  | appMain
  | uartFlush
  | motorsControl
  | servoMotorInit
  | setAngle
deriving DecidableEq, Repr

/-- Whose step is next, or which checked call reports an error. -/
inductive FirmwareInput where
  | appMain
  | logs (input : LogInput)
  | mqtt (event : MqttEvent)
  | servo
  | ota (answer : OtaAnswer)
  | oled
  | uart
  | sensor
  | motor (clock : LoopClock)
  | imu (attempt : Attempt)
  | alarm
  | checkFails (call : CheckedCall)
deriving DecidableEq

inductive FirmwareFault where
  | abort (fault : Fault)
  | ota (fault : OtaFault)
  /-- A call of the kernel with a handle that is still `NULL`. -/
  | nullHandle
  /-- `ESP_ERROR_CHECK` or `configASSERT` behind a call that failed. -/
  | checkFailed (call : CheckedCall)
  /-- A write behind the end of `oled_full_buffer`. -/
  | bufferOverrun
deriving DecidableEq, Repr

namespace FirmwareState

def start (board : Board) : FirmwareState where
  pc := 0
  eTasks := ∅
  logs := LogSystem.boot
  hiveMQ := HiveMQ.boot ∅
  servo := ServoMotor.boot
  ota := OtaSystem.boot ∅
  uart := .initial
  motors := bootTask board.pidInitAt
  angles := AnglesTask.calibrated board.samples board.calibratedAt
  sendingAngles := false
  qAngle := .empty
  now := 0
  oled := .beforeInit

/-!
# The parts
-/

def logSystem (s : FirmwareState) : LogSystem :=
  s.logs.withBits s.eTasks

def mqttSystem (s : FirmwareState) : HiveMQ :=
  s.hiveMQ.withBits s.eTasks

def otaSystem (s : FirmwareState) : OtaSystem :=
  s.ota.withBits s.eTasks

def servoSystem (s : FirmwareState) : ServoSystem where
  hiveMQ := s.mqttSystem
  servo := s.servo

def storeLogs (s : FirmwareState) (logs : LogSystem) : FirmwareState :=
  { s with logs := logs, eTasks := logs.eTasks }

def storeMqtt (s : FirmwareState) (hiveMQ : HiveMQ) : FirmwareState :=
  { s with hiveMQ := hiveMQ, eTasks := hiveMQ.eTasks }

def storeOta (s : FirmwareState) (ota : OtaSystem) : FirmwareState :=
  { s with ota := ota, eTasks := ota.eTasks }

def storeServo (s : FirmwareState) (sys : ServoSystem) : FirmwareState :=
  { s.storeMqtt sys.hiveMQ with servo := sys.servo }

def boot (s : FirmwareState) : BootState where
  pc := s.pc
  sock := s.logs.sock
  gotIp := .wifiBitGotIp ∈ s.eTasks

/-!
# What may happen
-/

variable (board : Board)

def Running (s : FirmwareState) (task : TaskName) : Prop :=
  .createTask task ∈ s.boot.done board.branches

instance (s : FirmwareState) (task : TaskName) : Decidable (s.Running board task) :=
  inferInstanceAs (Decidable (_ ∈ _))

/-- What is about to make a checked call; the servo is set up in front of its first angle. -/
def AtCheck (s : FirmwareState) : CheckedCall -> Prop
  | .appMain => s.boot.atCheck board.branches = true
  | .uartFlush => s.Running board .uartTask ∧ s.uart.point = .flushing
  | .motorsControl => s.Running board .motorTask
  | .servoMotorInit => s.Running board .servoMotorTask ∧ s.servo = ServoMotor.boot
  | .setAngle => s.Running board .servoMotorTask ∧ s.servo.phase = .applying

instance (s : FirmwareState) : (call : CheckedCall) -> Decidable (s.AtCheck board call)
  | .appMain => inferInstanceAs (Decidable (_ = _))
  | .uartFlush => inferInstanceAs (Decidable (_ ∧ _))
  | .motorsControl => inferInstanceAs (Decidable (s.Running board _))
  | .servoMotorInit => inferInstanceAs (Decidable (_ ∧ _))
  | .setAngle => inferInstanceAs (Decidable (_ ∧ _))

/--
A handler is called once it is registered, a task runs once it is created, the timer is
started at the end of `time_sync`, and nothing happens behind a restart.
-/
def Enabled (s : FirmwareState) (i : FirmwareInput) : Prop :=
  s.ota.point ≠ .restarted ∧
    match i with
    | .appMain => True
    | .logs (.wifi _ _) => s.boot.Exposed board.branches .wifiHandler
    | .logs (.log _ _) => s.boot.Exposed board.branches .newHookPapertrailFunction
    | .logs (.sender _) => s.Running board .espLogsPapertrailTask
    | .mqtt _ => s.boot.Exposed board.branches .mqttsHiveMQHandler
    | .servo => s.Running board .servoMotorTask
    | .ota _ => s.Running board .otaTask
    | .oled => s.Running board .oledTask
    | .uart => s.Running board .uartTask
    | .sensor => True
    | .motor _ => s.Running board .motorTask
    | .imu _ => s.Running board .gyroscopeAccelerometerTask
    | .alarm => .call "time_sync" ∈ s.boot.done board.branches
    | .checkFails call => s.AtCheck board call

instance (s : FirmwareState) : (i : FirmwareInput) -> Decidable (s.Enabled board i)
  | .appMain => inferInstanceAs (Decidable (_ ∧ True))
  | .logs (.wifi _ _) => inferInstanceAs (Decidable (_ ∧ _))
  | .logs (.log _ _) => inferInstanceAs (Decidable (_ ∧ _))
  | .logs (.sender _) => inferInstanceAs (Decidable (_ ∧ _))
  | .mqtt _ => inferInstanceAs (Decidable (_ ∧ _))
  | .servo => inferInstanceAs (Decidable (_ ∧ _))
  | .ota _ => inferInstanceAs (Decidable (_ ∧ _))
  | .oled => inferInstanceAs (Decidable (_ ∧ _))
  | .uart => inferInstanceAs (Decidable (_ ∧ _))
  | .sensor => inferInstanceAs (Decidable (_ ∧ True))
  | .motor _ => inferInstanceAs (Decidable (_ ∧ _))
  | .imu _ => inferInstanceAs (Decidable (_ ∧ _))
  | .alarm => inferInstanceAs (Decidable (_ ∧ _))
  | .checkFails _ => inferInstanceAs (Decidable (_ ∧ _))

/-!
# Steps
-/

/-- `time_sync` sets the clock and its bit, and `oled_init` writes to the display. -/
def appMainStep (s : FirmwareState) : FirmwareState :=
  let pc := (bootStep board.branches s.boot .boot).pc
  if (appMain board.branches)[s.pc]? = some (.call "time_sync") then
    { s with pc := pc, now := board.sntpTime, eTasks := s.eTasks.setBit .syncGotTime }
  else if (appMain board.branches)[s.pc]? = some (.call "oled_init") then
    { s with pc := pc, oled := oledInit s.oled }
  else
    { s with pc := pc }

def oledSource (s : FirmwareState) : OledSource where
  qDistance := s.uart.qDistance.receive?.map Prod.fst
  eTasks := s.eTasks
  qOtaLevel := s.ota.qOtaLevel.receive?.map fun received => UInt32.ofNat received.1
  timeinfo := localtimeR s.now
  qAngle := s.qAngle.receive?.map Prod.fst

/-- A step of the display task, which takes from the queue that it looks at. -/
def oledStep (s : FirmwareState) : FirmwareState :=
  let next := { s with oled := oledTask s.oled s.oledSource }
  match s.oled.point with
  | .drawingDistance => { next with uart := uartStep board.answers s.uart .oledReceives }
  | .readingBits => next.storeOta (oledFrame s.otaSystem)
  | .updating => next.storeOta (oledFrame s.otaSystem)
  | .readingTime => next
  | .drawingAngles => { next with qAngle := (s.qAngle.receive?.map Prod.snd).getD s.qAngle }
  | .transmitting => next

/-- The head of `q_distance_pid` is what an iteration of `motor_task` receives. -/
def motorInput (s : FirmwareState) (clock : LoopClock) : LoopInput :=
  clock.input (s.uart.qDistancePid.receive?.map Prod.fst)

def imuStep (s : FirmwareState) (attempt : Attempt) : FirmwareState :=
  if s.sendingAngles then
    { s with qAngle := s.qAngle.sendOrDrop s.angles.angleCharBuf, sendingAngles := false }
  else
    { s with
      angles := anglesLoop board.atan2f s.angles attempt
      sendingAngles :=
        match attempt with
        | .failed _ => false
        | .read _ _ => true }

def act (s : FirmwareState) : FirmwareInput -> Except FirmwareFault FirmwareState
  | .appMain => pure (s.appMainStep board)
  | .logs input =>
      if input.isLog ∧ ¬ s.boot.Created board.branches .eTasks then
        throw .nullHandle
      else do
        let logs <- (logStep s.logSystem input).mapError .abort
        pure (s.storeLogs logs)
  | .mqtt event => pure (s.storeMqtt (mqttsHiveMQHandler board.reason s.mqttSystem event).1)
  | .servo => do
      let sys <- (servoStep s.servoSystem).mapError .abort
      pure (s.storeServo sys)
  | .ota answer => do
      let ota <- (otaTask s.otaSystem answer).mapError .ota
      pure (s.storeOta ota)
  | .oled =>
      if s.oled.StaysInBuffer s.oledSource then pure (s.oledStep board)
      else throw .bufferOverrun
  | .uart => pure { s with uart := uartStep board.answers s.uart .task }
  | .sensor => pure { s with uart := uartStep board.answers s.uart .sensor }
  | .motor clock => do
      let next <- (motorLoop s.motors (s.motorInput clock)).mapError .abort
      pure
        { s with
          motors := next.1
          uart := uartStep board.answers s.uart .motorReceives }
  | .imu attempt => pure (s.imuStep board attempt)
  | .alarm => pure { s with now := s.now + 1 }
  | .checkFails call => throw (.checkFailed call)

end FirmwareState

def firmwareStep (board : Board) (s : FirmwareState) (i : FirmwareInput) :
    Except FirmwareFault FirmwareState :=
  if s.Enabled board i then s.act board i else .ok s

def firmwareAfter (board : Board) (history : List FirmwareInput) :
    Except FirmwareFault FirmwareState :=
  outcomeAfter (firmwareStep board) (.start board) history

/-!
# What a step can do
-/

inductive Acted (board : Board) (s : FirmwareState) : FirmwareInput -> FirmwareState -> Prop where
  | appMain : Acted board s .appMain (s.appMainStep board)
  | logs {input : LogInput} {logs : LogSystem} (h : logStep s.logSystem input = .ok logs)
      (hhandle : input.isLog -> s.boot.Created board.branches .eTasks) :
      Acted board s (.logs input) (s.storeLogs logs)
  | mqtt (event : MqttEvent) :
      Acted board s (.mqtt event)
        (s.storeMqtt (mqttsHiveMQHandler board.reason s.mqttSystem event).1)
  | servo {sys : ServoSystem} (h : servoStep s.servoSystem = .ok sys) :
      Acted board s .servo (s.storeServo sys)
  | ota {answer : OtaAnswer} {ota : OtaSystem} (h : otaTask s.otaSystem answer = .ok ota) :
      Acted board s (.ota answer) (s.storeOta ota)
  | oled (h : s.oled.StaysInBuffer s.oledSource) : Acted board s .oled (s.oledStep board)
  | uart : Acted board s .uart { s with uart := uartStep board.answers s.uart .task }
  | sensor : Acted board s .sensor { s with uart := uartStep board.answers s.uart .sensor }
  | motor {clock : LoopClock} {next : MotorTask × LoopRecord}
      (h : motorLoop s.motors (s.motorInput clock) = .ok next) :
      Acted board s (.motor clock)
        { s with
          motors := next.1
          uart := uartStep board.answers s.uart .motorReceives }
  | imu (attempt : Attempt) : Acted board s (.imu attempt) (s.imuStep board attempt)
  | alarm : Acted board s .alarm { s with now := s.now + 1 }

theorem mapError_eq_ok {fault fault' value : Type} {f : fault -> fault'}
    {x : Except fault value} {v : value} (h : x.mapError f = .ok v) : x = .ok v := by
  cases x with
  | error e => cases h
  | ok w =>
      cases h
      rfl

theorem acted_of_act {board : Board} {s s' : FirmwareState} {i : FirmwareInput}
    (h : s.act board i = .ok s') : Acted board s i s' := by
  cases i with
  | appMain =>
      cases h
      exact .appMain
  | logs input =>
      simp only [FirmwareState.act] at h
      split at h
      · cases h
      · next hhandle =>
          rcases bind_eq_ok h with ⟨logs, hlogs, hpure⟩
          cases hpure
          refine .logs (mapError_eq_ok hlogs) ?_
          intro hlog
          by_contra hnull
          exact hhandle ⟨hlog, hnull⟩
  | mqtt event =>
      cases h
      exact .mqtt event
  | servo =>
      rcases bind_eq_ok h with ⟨sys, hsys, hpure⟩
      cases hpure
      exact .servo (mapError_eq_ok hsys)
  | ota answer =>
      rcases bind_eq_ok h with ⟨ota, hota, hpure⟩
      cases hpure
      exact .ota (mapError_eq_ok hota)
  | oled =>
      simp only [FirmwareState.act] at h
      split at h
      · next hbuffer =>
          cases h
          exact .oled hbuffer
      · cases h
  | uart =>
      cases h
      exact .uart
  | sensor =>
      cases h
      exact .sensor
  | motor clock =>
      rcases bind_eq_ok h with ⟨next, hnext, hpure⟩
      cases hpure
      exact .motor (mapError_eq_ok hnext)
  | imu attempt =>
      cases h
      exact .imu attempt
  | alarm =>
      cases h
      exact .alarm
  | checkFails call => cases h

end Tasks
end CarCleaner
