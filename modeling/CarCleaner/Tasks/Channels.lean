import CarCleaner.Distance.Answers
import CarCleaner.Foundation.Channel
import CarCleaner.Tasks.Parts

/-!
# What the tasks tell each other

Three queues carry measured values: the distances for the controller, the distances for
the display, and the texts of the angles.  No sender waits for room, and the receivers run
at their own pace.  Whatever the order of the steps, a receiver gets values that were
measured, in the order of the measurements and none of them twice.
-/

namespace CarCleaner
namespace Tasks

open Foundation
open Firmware
open Motors
open Distance
open Angles
open Oled

/-!
# What is sent and what is taken
-/

def controllerTakes (s : FirmwareState) : FirmwareInput -> List Rat
  | .motor _ => (s.uart.qDistancePid.receive?.map Prod.fst).toList
  | _ => []

def displayTakesDistance (s : FirmwareState) : FirmwareInput -> List Rat
  | .oled => if s.oled.point = .drawingDistance then s.oledSource.qDistance.toList else []
  | _ => []

def displayTakesAngles (s : FirmwareState) : FirmwareInput -> List (List UInt8)
  | .oled => if s.oled.point = .drawingAngles then s.oledSource.qAngle.toList else []
  | _ => []

def anglesMeasured (board : Board) (s : FirmwareState) : FirmwareInput -> List (List UInt8)
  | .imu (.read rxBuf now) =>
      if s.sendingAngles then []
      else [(anglesLoop board.atan2f s.angles (.read rxBuf now)).angleCharBuf]
  | _ => []

def distancesPut (u : UartSystem) : List Rat :=
  u.puts.map Put.distanceCm

/-- The distance that a step of `uart_task` sends to both queues. -/
def uartPut (u : UartSystem) : List Rat :=
  match u.point, u.received with
  | .reading, high :: low :: _ => [distanceCmOf (bigEndian high low)]
  | _, _ => []

def distancePut (s : FirmwareState) : FirmwareInput -> List Rat
  | .uart => uartPut s.uart
  | _ => []

def anglesPut (s : FirmwareState) : FirmwareInput -> List (List UInt8)
  | .imu _ => if s.sendingAngles then [s.angles.angleCharBuf] else []
  | _ => []

theorem channelStep_uartTask (u : UartSystem) :
    distancesPut (uartTask u) = distancesPut u ++ uartPut u ∧
      ChannelStep u.qDistancePid (uartPut u) [] false (uartTask u).qDistancePid ∧
      ChannelStep u.qDistance (uartPut u) [] false (uartTask u).qDistance := by
  rcases u with ⟨point, rxBuf, mm, qPid, q, received, requests, arrived, flushedAt, puts⟩
  cases point with
  | flushing => exact ⟨(List.append_nil _).symm, .idle, .idle⟩
  | requesting => exact ⟨(List.append_nil _).symm, .idle, .idle⟩
  | reading =>
      match received with
      | [] => exact ⟨(List.append_nil _).symm, .idle, .idle⟩
      | [byte] => exact ⟨(List.append_nil _).symm, .idle, .idle⟩
      | high :: low :: rest => exact ⟨List.map_append, .send _, .send _⟩

theorem distances_sensorSends (answers : Nat -> Answer) (u : UartSystem) :
    distancesPut (sensorSends answers u) = distancesPut u ∧
      (sensorSends answers u).qDistancePid = u.qDistancePid ∧
      (sensorSends answers u).qDistance = u.qDistance := by
  unfold sensorSends
  split
  · exact ⟨rfl, rfl, rfl⟩
  · exact ⟨rfl, rfl, rfl⟩

/-!
# The queues
-/

/-- A queue between two tasks, and what a step does to it. -/
structure Channel (board : Board) (elem : Type) (capacity : Nat) where
  queue : FirmwareState -> BoundedQueue elem capacity
  puts : FirmwareState -> FirmwareInput -> List elem
  takes : FirmwareState -> FirmwareInput -> List elem
  asks : FirmwareState -> FirmwareInput -> Bool
  queue_start : queue (.start board) = BoundedQueue.empty
  step : forall {s i s'}, Acted board s i s' ->
    ChannelStep (queue s) (puts s i) (takes s i) (asks s i) (queue s')

variable {board : Board} {elem : Type} {capacity : Nat}

theorem Channel.accounted (c : Channel board elem capacity) {history : List FirmwareInput}
    {s : FirmwareState} (hs : firmwareAfter board history = .ok s) :
    Accounted (seenBy board c.puts history) (seenBy board c.takes history) (c.queue s) := by
  refine firmware_invariant (fun past s =>
    Accounted (seenBy board c.puts past) (seenBy board c.takes past) (c.queue s)) ?_ ?_ ?_ hs
  · rw [c.queue_start]
    exact accounted_empty
  · intro past i s hpast hidle hinv
    rw [seenBy_idle _ hpast hidle, seenBy_idle _ hpast hidle]
    exact hinv
  · intro past i s s' hpast henabled hacted hinv
    rw [seenBy_enabled _ hpast henabled, seenBy_enabled _ hpast henabled]
    exact hinv.step (c.step hacted)

/-- From `uart_task` to `motor_task`. -/
def qDistancePidChannel (board : Board) : Channel board Rat 10 where
  queue := fun s => s.uart.qDistancePid
  puts := distancePut
  takes := controllerTakes
  asks := fun _ i =>
    match i with
    | .motor _ => true
    | _ => false
  queue_start := rfl
  step := by
    intro s i s' hacted
    cases hacted with
    | uart => exact (channelStep_uartTask s.uart).2.1
    | sensor =>
        change ChannelStep _ [] [] false (sensorSends board.answers s.uart).qDistancePid
        rw [(distances_sensorSends board.answers s.uart).2.1]
        exact .idle
    | motor _ => exact .receive
    | oled =>
        unfold FirmwareState.oledStep
        cases hpoint : s.oled.point with
        | _ => exact .idle
    | appMain =>
        have huart : (s.appMainStep board).uart = s.uart := samePart_of_acted .uart .appMain rfl
        rw [huart]
        exact .idle
    | imu attempt =>
        have huart : (s.imuStep board attempt).uart = s.uart :=
          samePart_of_acted .uart (.imu attempt) rfl
        rw [huart]
        exact .idle
    | _ => exact .idle

/-- From `uart_task` to `oled_task`. -/
def qDistanceChannel (board : Board) : Channel board Rat 10 where
  queue := fun s => s.uart.qDistance
  puts := distancePut
  takes := displayTakesDistance
  asks := fun s i =>
    match i with
    | .oled => s.oled.point = .drawingDistance
    | _ => false
  queue_start := rfl
  step := by
    intro s i s' hacted
    cases hacted with
    | uart => exact (channelStep_uartTask s.uart).2.2
    | sensor =>
        change ChannelStep _ [] [] false (sensorSends board.answers s.uart).qDistance
        rw [(distances_sensorSends board.answers s.uart).2.2]
        exact .idle
    | motor _ => exact .idle
    | oled =>
        unfold FirmwareState.oledStep displayTakesDistance
        cases hpoint : s.oled.point with
        | drawingDistance => exact .receive
        | _ => exact .idle
    | appMain =>
        have huart : (s.appMainStep board).uart = s.uart := samePart_of_acted .uart .appMain rfl
        rw [huart]
        exact .idle
    | imu attempt =>
        have huart : (s.imuStep board attempt).uart = s.uart :=
          samePart_of_acted .uart (.imu attempt) rfl
        rw [huart]
        exact .idle
    | _ => exact .idle

/-- From `gyroscope_accelerometer_task` to `oled_task`. -/
def qAngleChannel (board : Board) : Channel board (List UInt8) 5 where
  queue := fun s => s.qAngle
  puts := anglesPut
  takes := displayTakesAngles
  asks := fun s i =>
    match i with
    | .oled => s.oled.point = .drawingAngles
    | _ => false
  queue_start := rfl
  step := by
    intro s i s' hacted
    cases hacted with
    | imu attempt =>
        unfold FirmwareState.imuStep anglesPut
        by_cases hsending : s.sendingAngles = true
        · rw [if_pos hsending, if_pos hsending]
          exact .send _
        · rw [if_neg hsending, if_neg hsending]
          exact .idle
    | oled =>
        unfold FirmwareState.oledStep displayTakesAngles
        cases hpoint : s.oled.point with
        | drawingAngles => exact .receive
        | _ => exact .idle
    | appMain =>
        have hqueue : (s.appMainStep board).qAngle = s.qAngle :=
          samePart_of_acted .qAngle .appMain rfl
        rw [hqueue]
        exact .idle
    | _ => exact .idle

/-!
# What was measured
-/

theorem distancesPut_acted {s s' : FirmwareState} {i : FirmwareInput}
    (h : Acted board s i s') : distancesPut s'.uart = distancesPut s.uart ++ distancePut s i := by
  cases h with
  | uart => exact (channelStep_uartTask s.uart).1
  | sensor =>
      have hsame := (distances_sensorSends board.answers s.uart).1
      exact hsame.trans (List.append_nil _).symm
  | oled =>
      unfold FirmwareState.oledStep
      cases hpoint : s.oled.point with
      | _ => exact (List.append_nil _).symm
  | appMain =>
      have huart : (s.appMainStep board).uart = s.uart := samePart_of_acted .uart .appMain rfl
      rw [huart]
      exact (List.append_nil _).symm
  | imu attempt =>
      have huart : (s.imuStep board attempt).uart = s.uart :=
        samePart_of_acted .uart (.imu attempt) rfl
      rw [huart]
      exact (List.append_nil _).symm
  | _ => exact (List.append_nil _).symm

theorem distancesPut_eq_seenBy {history : List FirmwareInput} {s : FirmwareState}
    (hs : firmwareAfter board history = .ok s) :
    distancesPut s.uart = seenBy board distancePut history := by
  refine firmware_invariant
    (fun past s => distancesPut s.uart = seenBy board distancePut past) rfl ?_ ?_ hs
  · intro past i s hpast hidle hinv
    rw [seenBy_idle _ hpast hidle]
    exact hinv
  · intro past i s s' hpast henabled hacted hinv
    rw [seenBy_enabled _ hpast henabled, <- hinv]
    exact distancesPut_acted hacted

/-- A measured text that is still to be sent. -/
def unsentAngles (s : FirmwareState) : List (List UInt8) :=
  if s.sendingAngles then [s.angles.angleCharBuf] else []

/-- What `gyroscope_accelerometer_task` has sent is all it has measured but the last text. -/
theorem anglesMeasured_eq_seenBy {history : List FirmwareInput} {s : FirmwareState}
    (hs : firmwareAfter board history = .ok s) :
    seenBy board (anglesMeasured board) history =
      seenBy board anglesPut history ++ unsentAngles s := by
  refine firmware_invariant (fun past s =>
    seenBy board (anglesMeasured board) past =
      seenBy board anglesPut past ++ unsentAngles s) rfl ?_ ?_ hs
  · intro past i s hpast hidle hinv
    rw [seenBy_idle _ hpast hidle, seenBy_idle _ hpast hidle]
    exact hinv
  · intro past i s s' hpast henabled hacted hinv
    rw [seenBy_enabled _ hpast henabled, seenBy_enabled _ hpast henabled, hinv,
      List.append_assoc, List.append_assoc, List.append_cancel_left_eq]
    cases hacted with
    | imu attempt =>
        unfold FirmwareState.imuStep unsentAngles anglesPut
        by_cases hsending : s.sendingAngles = true
        · cases attempt with
          | failed rxBuf => simp [anglesMeasured, hsending]
          | read rxBuf now => simp [anglesMeasured, hsending]
        · cases attempt with
          | failed rxBuf => simp [anglesMeasured, hsending]
          | read rxBuf now => simp [anglesMeasured, hsending]
    | oled hbuffer =>
        have hangles : SamePart s (s.oledStep board) .angles :=
          samePart_of_acted .angles (.oled hbuffer) rfl
        rw [unsentAngles, unsentAngles, hangles.1, hangles.2]
        exact List.append_nil _
    | appMain =>
        have hangles : SamePart s (s.appMainStep board) .angles :=
          samePart_of_acted .angles .appMain rfl
        rw [unsentAngles, unsentAngles, hangles.1, hangles.2]
        exact List.append_nil _
    | _ => exact List.append_nil _

/-!
# From the sensors to the receivers
-/

theorem received_eq_controllerTakes (board : Board) (history : List FirmwareInput) :
    (seenBy board motorInputs history).filterMap LoopInput.received =
      seenBy board controllerTakes history := by
  rw [seenBy, filterMap_observations, seenBy]
  congr 1
  funext s i
  by_cases henabled : s.Enabled board i
  · rw [if_pos henabled, if_pos henabled]
    cases i with
    | motor clock =>
        rw [motorInputs, controllerTakes]
        change List.filterMap LoopInput.received [s.motorInput clock] =
          (s.motorInput clock).received.toList
        cases hreceived : (s.motorInput clock).received with
        | none => simp [hreceived]
        | some distanceCm => simp [hreceived]
    | _ => rfl
  · rw [if_neg henabled, if_neg henabled]
    rfl

/--
The receivers get measured values in the order of the measurements and none twice, and
every distance is made of two consecutive bytes of the sensor.
-/
theorem measured_values_arrive {board : Board} {history : List FirmwareInput}
    {s : FirmwareState} (hs : firmwareAfter board history = .ok s) :
    ((seenBy board motorInputs history).filterMap LoopInput.received).Sublist
        (distancesPut s.uart) ∧
      (seenBy board displayTakesDistance history).Sublist (distancesPut s.uart) ∧
      (seenBy board displayTakesAngles history).Sublist
        (seenBy board (anglesMeasured board) history) ∧
      forall put, put ∈ s.uart.puts -> put.FromBytes board.answers := by
  have hcontroller := (qDistancePidChannel board).accounted hs
  have hdisplay := (qDistanceChannel board).accounted hs
  have hangles := (qAngleChannel board).accounted hs
  have hline := lineInv_uartAfter board.answers (seenBy board uartInputs history)
  rw [<- uart_run hs] at hline
  refine ⟨?_, ?_, ?_, hline.puts_fromBytes⟩
  · rw [received_eq_controllerTakes]
    rw [distancesPut_eq_seenBy hs]
    exact (List.sublist_append_left _ _).trans hcontroller
  · rw [distancesPut_eq_seenBy hs]
    exact (List.sublist_append_left _ _).trans hdisplay
  · rw [anglesMeasured_eq_seenBy hs]
    exact ((List.sublist_append_left _ _).trans hangles).trans (List.sublist_append_left _ _)

theorem quietRun_measured_values_arrive :
    exists s, firmwareAfter quietBoard quietRun = .ok s ∧
      ((seenBy quietBoard motorInputs quietRun).filterMap LoopInput.received).Sublist
        (distancesPut s.uart) ∧
      (seenBy quietBoard displayTakesDistance quietRun).Sublist (distancesPut s.uart) ∧
      (seenBy quietBoard displayTakesAngles quietRun).Sublist
        (seenBy quietBoard (anglesMeasured quietBoard) quietRun) ∧
      forall put, put ∈ s.uart.puts -> put.FromBytes quietBoard.answers := by
  rcases quietRun_ok with ⟨s, hs, _⟩
  exact ⟨s, hs, measured_values_arrive hs⟩

end Tasks
end CarCleaner
