import CarCleaner.Foundation.ReadBack
import CarCleaner.Mqtt.Handler

/-!
# What one message does

The topic and the payload come with their lengths and are copied into buffers before they
are compared, so a message is known by the bytes in front of the first NUL of each.
Commands are decimal numbers, which may be longer than the buffer and larger than an
integer of the controller.
-/

namespace CarCleaner
namespace Mqtt

open Foundation
open Firmware

/-!
# Commands

A message to a topic of commands sends one element, as long as the queue has room.
-/

/--
The handler sends one command to `queue` and does nothing else that another task or the
broker could see.
-/
structure Sends (queue other : HiveMQ -> BoundedQueue Int 5) (s : HiveMQ)
    (after : HiveMQ × List ClientCall) (command : Int) : Prop where
  items_eq : (queue after.1).items = (queue s).items ++ [command]
  other_eq : other after.1 = other s
  eTasks_eq : after.1.eTasks = s.eTasks
  no_calls : after.2 = []

theorem sends_motors {s : HiveMQ} (hroom : s.qSpeed.items.length < 5) (reason : ResetReason)
    (payload : List UInt8) :
    Sends HiveMQ.qSpeed HiveMQ.qServoAngle s
      (mqttsHiveMQHandler reason s (.data (literal "car/motors") payload))
      (clampedAtoi (-255) 255 (snprintfBytes 256 payload)) := by
  have htopic : snprintfBytes 128 (literal "car/motors") = literal "car/motors" := by
    decide
  constructor
  · rw [mqttsHiveMQHandler, qSpeed_dataCase, if_pos htopic, BoundedQueue.items_sendOrDrop,
      if_pos hroom]
  · rw [mqttsHiveMQHandler, qServoAngle_dataCase, htopic, if_neg (by decide)]
  · rw [mqttsHiveMQHandler, eTasks_dataCase, htopic, if_neg fun h => absurd h.1 (by decide)]
  · rfl

theorem sends_servo {s : HiveMQ} (hroom : s.qServoAngle.items.length < 5)
    (reason : ResetReason) (payload : List UInt8) :
    Sends HiveMQ.qServoAngle HiveMQ.qSpeed s
      (mqttsHiveMQHandler reason s (.data (literal "car/servo") payload))
      (clampedAtoi 0 180 (snprintfBytes 256 payload)) := by
  have htopic : snprintfBytes 128 (literal "car/servo") = literal "car/servo" := by
    decide
  constructor
  · rw [mqttsHiveMQHandler, qServoAngle_dataCase, if_pos htopic,
      BoundedQueue.items_sendOrDrop, if_pos hroom]
  · rw [mqttsHiveMQHandler, qSpeed_dataCase, htopic, if_neg (by decide)]
  · rw [mqttsHiveMQHandler, eTasks_dataCase, htopic, if_neg fun h => absurd h.1 (by decide)]
  · rfl

theorem clampedAtoi_signedDecimal {low high : Int} (h : low ≤ high)
    (hlow : -2147483648 ≤ low) (hhigh : high ≤ 2147483647) (n : Int) :
    clampedAtoi low high (snprintfBytes 256 (signedDecimal n)) = max low (min high n) := by
  have hwide : (2147483648 : Int) ≤ 10 ^ (256 - 3) := by
    norm_num
  rw [clampedAtoi, saturate_atoi_snprintfBytes (by decide) h hlow hhigh (by omega) (by omega),
    saturate_eq_max_min h]

/-- A decimal number of any size is sent as the nearest command within the limits. -/
theorem decimal_commands (reason : ResetReason) (s : HiveMQ) (n : Int) :
    (s.qSpeed.items.length < 5 ->
        Sends HiveMQ.qSpeed HiveMQ.qServoAngle s
          (mqttsHiveMQHandler reason s (.data (literal "car/motors") (signedDecimal n)))
          (max (-255) (min 255 n))) ∧
      (s.qServoAngle.items.length < 5 ->
        Sends HiveMQ.qServoAngle HiveMQ.qSpeed s
          (mqttsHiveMQHandler reason s (.data (literal "car/servo") (signedDecimal n)))
          (max 0 (min 180 n))) := by
  constructor
  · intro hroom
    have hspeed := sends_motors hroom reason (signedDecimal n)
    rw [clampedAtoi_signedDecimal (by decide) (by decide) (by decide)] at hspeed
    exact hspeed
  · intro hroom
    have hangle := sends_servo hroom reason (signedDecimal n)
    rw [clampedAtoi_signedDecimal (by decide) (by decide) (by decide)] at hangle
    exact hangle

/-- A number of 257 characters goes through a buffer of 256. -/
theorem decimal_commands_long :
    Sends HiveMQ.qSpeed HiveMQ.qServoAngle (HiveMQ.boot ∅)
        (mqttsHiveMQHandler .powerOn (HiveMQ.boot ∅)
          (.data (literal "car/motors") (signedDecimal (-10 ^ 255))))
        (-255) ∧
      Sends HiveMQ.qServoAngle HiveMQ.qSpeed (HiveMQ.boot ∅)
        (mqttsHiveMQHandler .powerOn (HiveMQ.boot ∅)
          (.data (literal "car/servo") (signedDecimal (-10 ^ 255))))
        0 := by
  have h := decimal_commands .powerOn (HiveMQ.boot ∅) (-10 ^ 255)
  constructor
  · exact h.1 (by decide)
  · exact h.2 (by decide)

/-!
# Which message does what

The buffers have room for more than the texts they are compared with, so nothing but a
NUL makes another message look like one of them.
-/

/-- The texts of an update request. -/
def RequestsUpdate (topic payload : List UInt8) : Prop :=
  ReadsAs (literal "car/ota") topic ∧ ReadsAs (literal "true") payload

theorem requestsUpdate_iff_of_nul_free {topic payload : List UInt8} (htopic : 0 ∉ topic)
    (hpayload : 0 ∉ payload) :
    RequestsUpdate topic payload <-> topic = literal "car/ota" ∧ payload = literal "true" := by
  constructor
  · intro h
    rcases h with ⟨hota, htrue⟩
    exact ⟨hota.eq_of_nul_free htopic, htrue.eq_of_nul_free hpayload⟩
  · intro h
    rcases h with ⟨hota, htrue⟩
    exact ⟨Or.inl hota, Or.inl htrue⟩

theorem requestsUpdate_iff (topic payload : List UInt8) :
    RequestsUpdate topic payload <->
      snprintfBytes 128 topic = literal "car/ota" ∧
        snprintfBytes 256 payload = literal "true" := by
  rw [snprintfBytes_eq_iff (by decide) (by decide), snprintfBytes_eq_iff (by decide) (by decide)]
  rfl

theorem mqttGotUpdate_dataCase_iff (s : HiveMQ) (topic payload : List UInt8) :
    EventBit.mqttGotUpdate ∈ (dataCase s topic payload).eTasks <->
      EventBit.mqttGotUpdate ∈ s.eTasks ∨ RequestsUpdate topic payload := by
  rw [eTasks_dataCase, requestsUpdate_iff]
  split
  · next h =>
      rw [EventGroup.setBit, Finset.mem_insert, eq_self_iff_true, true_or]
      exact iff_of_true trivial (Or.inr h)
  · next h =>
      rw [or_iff_left h]

theorem readsAs_of_qSpeed_ne {s : HiveMQ} {topic payload : List UInt8}
    (h : (dataCase s topic payload).qSpeed ≠ s.qSpeed) :
    ReadsAs (literal "car/motors") topic := by
  have htopic : snprintfBytes 128 topic = literal "car/motors" := by
    by_contra hother
    exact h ((qSpeed_dataCase s topic payload).trans (if_neg hother))
  exact (snprintfBytes_eq_iff (by decide) (by decide) topic).mp htopic

theorem readsAs_of_qServoAngle_ne {s : HiveMQ} {topic payload : List UInt8}
    (h : (dataCase s topic payload).qServoAngle ≠ s.qServoAngle) :
    ReadsAs (literal "car/servo") topic := by
  have htopic : snprintfBytes 128 topic = literal "car/servo" := by
    by_contra hother
    exact h ((qServoAngle_dataCase s topic payload).trans (if_neg hother))
  exact (snprintfBytes_eq_iff (by decide) (by decide) topic).mp htopic

/--
An update is triggered exactly by the texts of a request; no other bit changes, and each
queue changes only for its own topic.  Without a NUL the texts are the whole message.
-/
theorem message_effects (reason : ResetReason) (s : HiveMQ) (topic payload : List UInt8) :
    (EventBit.mqttGotUpdate ∈ (mqttsHiveMQHandler reason s (.data topic payload)).1.eTasks <->
        EventBit.mqttGotUpdate ∈ s.eTasks ∨ RequestsUpdate topic payload) ∧
      (0 ∉ topic -> 0 ∉ payload ->
        (RequestsUpdate topic payload <->
          topic = literal "car/ota" ∧ payload = literal "true")) ∧
      (forall bit, bit ≠ .mqttGotUpdate ->
        (bit ∈ (mqttsHiveMQHandler reason s (.data topic payload)).1.eTasks <->
          bit ∈ s.eTasks)) ∧
      ((mqttsHiveMQHandler reason s (.data topic payload)).1.qSpeed ≠ s.qSpeed ->
        ReadsAs (literal "car/motors") topic) ∧
      ((mqttsHiveMQHandler reason s (.data topic payload)).1.qServoAngle ≠ s.qServoAngle ->
        ReadsAs (literal "car/servo") topic) := by
  refine ⟨?_, ?_, ?_, ?_, ?_⟩
  · exact mqttGotUpdate_dataCase_iff s topic payload
  · exact requestsUpdate_iff_of_nul_free
  · intro bit hbit
    exact mem_eTasks_dataCase_of_ne hbit s topic payload
  · exact readsAs_of_qSpeed_ne
  · exact readsAs_of_qServoAngle_ne

/-- The word `true` with a NUL and an exclamation mark behind it triggers an update. -/
theorem update_behind_nul :
    EventBit.mqttGotUpdate ∉ (HiveMQ.boot ∅).eTasks ∧
      EventBit.mqttGotUpdate ∈
        (mqttsHiveMQHandler .powerOn (HiveMQ.boot ∅)
          (.data (literal "car/ota") (literal "true" ++ [0, 0x21]))).1.eTasks ∧
      literal "true" ++ [0, 0x21] ≠ literal "true" := by
  decide

end Mqtt
end CarCleaner
