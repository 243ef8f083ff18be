import CarCleaner.Mqtt.StatusBit
import CarCleaner.Servo.LastCommand
import CarCleaner.Tasks.Shared

/-!
# The servo inside the firmware

The handler of the broker writes bits and looks at none, and the servo does not know the
event group.
-/

namespace CarCleaner
namespace Tasks

open Foundation
open Firmware
open Mqtt
open Servo

def servoInputs : FirmwareInput -> List ServoInput
  | .mqtt event => [.event event]
  | .servo => [.step]
  | _ => []

/-- The handler and the servo, with the bit that the handler alone writes. -/
def SameServo (s : FirmwareState) (sys : ServoSystem) : Prop :=
  sys.servo = s.servo ∧ sys.hiveMQ = s.hiveMQ.withBits sys.hiveMQ.eTasks ∧
    (EventBit.mqttSubscribe ∈ s.eTasks <-> EventBit.mqttSubscribe ∈ sys.hiveMQ.eTasks)

theorem handler_withBits (reason : ResetReason) (hiveMQ : HiveMQ) (event : MqttEvent)
    (other : EventGroup) :
    (mqttsHiveMQHandler reason (hiveMQ.withBits other) event).1 =
      (mqttsHiveMQHandler reason hiveMQ event).1.withBits
        (mqttsHiveMQHandler reason (hiveMQ.withBits other) event).1.eTasks := by
  cases event with
  | connected => rfl
  | data topic payload =>
      simp only [mqttsHiveMQHandler, dataCase]
      split
      · split
        · rfl
        · rfl
      · split
        · rfl
        · split
          · rfl
          · rfl
  | subscribed msgId => rfl
  | error => rfl
  | disconnected => rfl
  | other => rfl

def withBits (sys : ServoSystem) (eTasks : EventGroup) : ServoSystem :=
  { sys with hiveMQ := sys.hiveMQ.withBits eTasks }

theorem servoStep_withBits {sys next : ServoSystem} (h : servoStep sys = .ok next)
    (other : EventGroup) : servoStep (withBits sys other) = .ok (withBits next other) := by
  rcases sys with ⟨hiveMQ, ⟨phase, angle, servoCmpr⟩⟩
  cases phase with
  | receiving =>
      simp only [servoStep] at h
      simp only [servoStep, withBits, HiveMQ.withBits]
      split at h
      · cases h
        rfl
      · cases h
        rfl
  | applying =>
      rcases bind_eq_ok h with ⟨servoCmpr', hset, hpure⟩
      cases hpure
      simp only [servoStep, withBits]
      rw [hset]
      rfl
  | pausing =>
      cases h
      rfl

theorem writesPart_servo {i : FirmwareInput} (hi : servoInputs i = []) :
    writesPart i .servo = false ∧ writesPart i .hiveMQ = false ∧
      writesBit i .mqttSubscribe = false := by
  cases i with
  | mqtt event => cases hi
  | servo => cases hi
  | logs input => cases input <;> exact ⟨rfl, rfl, rfl⟩
  | _ => exact ⟨rfl, rfl, rfl⟩

theorem servo_run {board : Board} {history : List FirmwareInput} {s : FirmwareState}
    (hs : firmwareAfter board history = .ok s) :
    exists sys,
      servoAfter board.reason ∅ (seenBy board (fun _ i => servoInputs i) history) = .ok sys ∧
        SameServo s sys := by
  refine part_run ⟨rfl, rfl, Iff.rfl⟩ ?_ hs
  intro s sys i s' hR _ hacted
  rcases hR with ⟨hservo, hsame, hbit⟩
  by_cases hi : servoInputs i = []
  · rcases writesPart_servo hi with ⟨hwritesServo, hwritesMqtt, hwritesBit⟩
    have hservo' : s'.servo = s.servo := samePart_of_acted .servo hacted hwritesServo
    have hmqtt' : s'.hiveMQ = s.hiveMQ := samePart_of_acted .hiveMQ hacted hwritesMqtt
    rw [hi]
    refine ⟨sys, rfl, ?_, ?_, ?_⟩
    · rw [hservo']
      exact hservo
    · rw [hmqtt']
      exact hsame
    · rw [mem_eTasks_of_acted hacted hwritesBit]
      exact hbit
  · cases hacted with
    | mqtt event =>
        have hsys : s.mqttSystem.withBits sys.hiveMQ.eTasks = sys.hiveMQ := hsame.symm
        have hother := handler_withBits board.reason s.mqttSystem event sys.hiveMQ.eTasks
        rw [hsys] at hother
        refine ⟨_, outcomeAfter_singleton _ _ _, hservo, hother, ?_⟩
        change _ <-> _ ∈ (mqttsHiveMQHandler board.reason sys.hiveMQ event).1.eTasks
        rw [mqttSubscribe_handler_iff, <- hbit]
        exact mqttSubscribe_handler_iff _ _ _
    | @servo next hnext =>
        have hsys : withBits s.servoSystem sys.hiveMQ.eTasks = sys :=
          congrArg₂ ServoSystem.mk hsame.symm hservo.symm
        have hother := servoStep_withBits hnext sys.hiveMQ.eTasks
        rw [hsys] at hother
        refine ⟨withBits next sys.hiveMQ.eTasks, ?_, rfl, rfl, ?_⟩
        · rw [servoInputs, outcomeAfter_singleton]
          exact hother
        · change EventBit.mqttSubscribe ∈ next.hiveMQ.eTasks <-> _
          rw [eTasks_servoStep hnext]
          exact hbit
    | _ => exact absurd rfl hi

end Tasks
end CarCleaner
