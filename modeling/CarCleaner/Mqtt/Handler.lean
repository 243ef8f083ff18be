import CarCleaner.Foundation.BoundedQueue
import CarCleaner.Foundation.CString
import CarCleaner.Firmware.EventGroup

/-!
# The MQTT event handler

`mqtts_hiveMQ_handler` subscribes on every connection, decodes the messages of
the four topics and keeps the status bit.  Its buffers and last values are
static, so they are part of the state.
-/

namespace CarCleaner
namespace Mqtt

open Foundation
open Firmware

/-- `esp_reset_reason_t`, as far as `get_reset_reason_string` tells it apart. -/
inductive ResetReason where
  | unknown
  | powerOn
  | ext
  | sw
  | panic
  | intWdt
  | taskWdt
  | brownout
  | sdio
  | other
deriving DecidableEq, Repr

def getResetReasonString : ResetReason -> String
  | .unknown => "Unknown reset"
  | .powerOn => "Power On / Battery connected"
  | .ext => "External pin reset"
  | .sw => "Software reset (e.g. after OTA)"
  | .panic => "CRASH / Software exception / Panic"
  | .intWdt => "Interrupt Watchdog reset"
  | .taskWdt => "Task Watchdog reset"
  | .brownout => "Brownout (Voltage drop / Low battery)"
  | .sdio => "SDIO reset"
  | .other => "Other reason"

/-- Events of the client; the handler has no case for the last two. -/
inductive MqttEvent where
  | connected
  | data (topic payload : List UInt8)
  | subscribed (msgId : Int)
  | error
  | disconnected
  | other
deriving DecidableEq, Repr

inductive ClientCall where
  | subscribe (topic : String) (qos : Nat)
  | publish (topic payload : String) (qos : Nat) (retain : Bool)
deriving DecidableEq, Repr

/-- Static variables of the handler and what it shares with the tasks. -/
structure HiveMQ where
  topicBuf : List UInt8
  rxMqttsBuf : List UInt8
  speed : Int
  servoAngle : Int
  qSpeed : BoundedQueue Int 5
  qServoAngle : BoundedQueue Int 5
  eTasks : EventGroup
deriving DecidableEq

/-- The state when the client starts, with the bits that are already set. -/
def HiveMQ.boot (eTasks : EventGroup) : HiveMQ where
  topicBuf := []
  rxMqttsBuf := []
  speed := 0
  servoAngle := 0
  qSpeed := BoundedQueue.empty
  qServoAngle := BoundedQueue.empty
  eTasks := eTasks

/-- The same state beside another event group. -/
def HiveMQ.withBits (s : HiveMQ) (eTasks : EventGroup) : HiveMQ :=
  { s with eTasks := eTasks }

def topicsToSubscribe : List String :=
  ["car/ota", "car/logs", "car/motors", "car/servo"]

def connectedCalls (reason : ResetReason) : List ClientCall :=
  topicsToSubscribe.map (fun topic => .subscribe topic 1) ++
    [.publish topicsToSubscribe[1] (getResetReasonString reason) 1 false]

def clampedAtoi (low high : Int) (text : List UInt8) : Int :=
  saturate low high (atoi text)

def dataCase (s : HiveMQ) (topic payload : List UInt8) : HiveMQ :=
  let topicBuf := snprintfBytes 128 topic
  let rxMqttsBuf := snprintfBytes 256 payload
  let s := { s with topicBuf := topicBuf, rxMqttsBuf := rxMqttsBuf }
  if topicBuf = literal "car/ota" then
    if rxMqttsBuf = literal "true" then
      { s with eTasks := s.eTasks.setBit .mqttGotUpdate }
    else
      s
  else if topicBuf = literal "car/motors" then
    let speed := clampedAtoi (-255) 255 rxMqttsBuf
    { s with speed := speed, qSpeed := s.qSpeed.sendOrDrop speed }
  else if topicBuf = literal "car/servo" then
    let servoAngle := clampedAtoi 0 180 rxMqttsBuf
    { s with servoAngle := servoAngle, qServoAngle := s.qServoAngle.sendOrDrop servoAngle }
  else
    s

/-- `mqtts_hiveMQ_handler`, with the calls it makes to the client. -/
def mqttsHiveMQHandler (reason : ResetReason) (s : HiveMQ) :
    MqttEvent -> HiveMQ × List ClientCall
  | .connected => (s, connectedCalls reason)
  | .data topic payload => (dataCase s topic payload, [])
  | .subscribed _ => ({ s with eTasks := s.eTasks.setBit .mqttSubscribe }, [])
  | .error => ({ s with eTasks := s.eTasks.clearBit .mqttSubscribe }, [])
  | .disconnected => (s, [])
  | .other => (s, [])

/-!
# One message

The topics exclude each other, so each part of the state depends on one of them.
-/

theorem eTasks_dataCase (s : HiveMQ) (topic payload : List UInt8) :
    (dataCase s topic payload).eTasks =
      if snprintfBytes 128 topic = literal "car/ota" ∧
          snprintfBytes 256 payload = literal "true" then
        s.eTasks.setBit .mqttGotUpdate
      else
        s.eTasks := by
  simp only [dataCase]
  split
  · next htopic =>
      split
      · next hpayload =>
          rw [if_pos ⟨htopic, hpayload⟩]
      · next hpayload =>
          rw [if_neg fun h => hpayload h.2]
  · next htopic =>
      have hother : ¬ (snprintfBytes 128 topic = literal "car/ota" ∧
          snprintfBytes 256 payload = literal "true") :=
        fun h => htopic h.1
      rw [if_neg hother]
      split
      · rfl
      · split
        · rfl
        · rfl

theorem mem_eTasks_dataCase_of_ne {bit : EventBit} (h : bit ≠ .mqttGotUpdate) (s : HiveMQ)
    (topic payload : List UInt8) :
    bit ∈ (dataCase s topic payload).eTasks <-> bit ∈ s.eTasks := by
  rw [eTasks_dataCase]
  split
  · rw [EventGroup.setBit, Finset.mem_insert, or_iff_right h]
  · rfl

theorem qSpeed_dataCase (s : HiveMQ) (topic payload : List UInt8) :
    (dataCase s topic payload).qSpeed =
      if snprintfBytes 128 topic = literal "car/motors" then
        s.qSpeed.sendOrDrop (clampedAtoi (-255) 255 (snprintfBytes 256 payload))
      else
        s.qSpeed := by
  simp only [dataCase]
  split
  · next htopic =>
      have hother : ¬ snprintfBytes 128 topic = literal "car/motors" := by
        rw [htopic]
        decide
      rw [if_neg hother]
      split
      · rfl
      · rfl
  · split
    · rfl
    · split
      · rfl
      · rfl

theorem qServoAngle_dataCase (s : HiveMQ) (topic payload : List UInt8) :
    (dataCase s topic payload).qServoAngle =
      if snprintfBytes 128 topic = literal "car/servo" then
        s.qServoAngle.sendOrDrop (clampedAtoi 0 180 (snprintfBytes 256 payload))
      else
        s.qServoAngle := by
  simp only [dataCase]
  split
  · next htopic =>
      have hother : ¬ snprintfBytes 128 topic = literal "car/servo" := by
        rw [htopic]
        decide
      rw [if_neg hother]
      split
      · rfl
      · rfl
  · split
    · next htopic =>
        have hother : ¬ snprintfBytes 128 topic = literal "car/servo" := by
          rw [htopic]
          decide
        rw [if_neg hother]
    · split
      · rfl
      · rfl

/-!
# Commands

Whatever the payload is, a command within its limits is sent, or none.
-/

theorem clampedAtoi_mem {low high : Int} (h : low ≤ high) (text : List UInt8) :
    low ≤ clampedAtoi low high text ∧ clampedAtoi low high text ≤ high :=
  saturate_mem h _

/-- Every angle waiting for the servo is one the handler clamped. -/
def HiveMQ.AnglesClamped (s : HiveMQ) : Prop :=
  s.qServoAngle.All fun angle => 0 ≤ angle ∧ angle ≤ 180

theorem dataCase_anglesClamped {s : HiveMQ} (h : s.AnglesClamped)
    (topic payload : List UInt8) : (dataCase s topic payload).AnglesClamped := by
  simp only [dataCase]
  split
  · split
    · exact h
    · exact h
  · split
    · exact h
    · split
      · exact h.sendOrDrop (clampedAtoi_mem (by decide) _)
      · exact h

theorem mqttsHiveMQHandler_anglesClamped {s : HiveMQ} (h : s.AnglesClamped)
    (reason : ResetReason) (event : MqttEvent) :
    (mqttsHiveMQHandler reason s event).1.AnglesClamped := by
  cases event with
  | connected => exact h
  | data topic payload => exact dataCase_anglesClamped h topic payload
  | subscribed msgId => exact h
  | error => exact h
  | disconnected => exact h
  | other => exact h

end Mqtt
end CarCleaner
