import CarCleaner.Foundation.Histories
import CarCleaner.Mqtt.Handler

/-!
# The MQTT status bit

`MQTT_SUBSCRIBE` follows single events: every acknowledgement of a subscription
sets it and every error clears it.  It therefore does not wait for all four topics.
-/

namespace CarCleaner
namespace Mqtt

open Foundation
open Firmware

def mqttAfter (reason : ResetReason) (eTasks : EventGroup) (history : List MqttEvent) :
    HiveMQ :=
  stateAfter (fun s event => (mqttsHiveMQHandler reason s event).1) (HiveMQ.boot eTasks)
    history

/-!
# Acknowledgements
-/

def MqttEvent.IsSubscribed (event : MqttEvent) : Prop :=
  exists msgId, event = .subscribed msgId

def MqttEvent.EndsSubscription (event : MqttEvent) : Prop :=
  event = .error ∨ event = .disconnected

/-- The acknowledgement of a topic; `topicOf` tells which topic a message id is about. -/
def Acknowledges (topicOf : Int -> String) (topic : String) (event : MqttEvent) : Prop :=
  exists msgId, event = .subscribed msgId ∧ topicOf msgId = topic

/--
The client is connected, and all topics have been acknowledged since the last
connection.
-/
def SubscribedToAll (topicOf : Int -> String) (history : List MqttEvent) : Prop :=
  Latched (fun event => event = .connected) (fun event => event = .disconnected) history ∧
    forall topic, topic ∈ topicsToSubscribe ->
      Latched (Acknowledges topicOf topic) (fun event => event = .connected) history

/-!
# What the bit says
-/

theorem mqttSubscribe_handler_iff (reason : ResetReason) (s : HiveMQ) (event : MqttEvent) :
    EventBit.mqttSubscribe ∈ (mqttsHiveMQHandler reason s event).1.eTasks <->
      event.IsSubscribed ∨ (EventBit.mqttSubscribe ∈ s.eTasks ∧ ¬ event = .error) := by
  cases event with
  | connected => simp [mqttsHiveMQHandler, MqttEvent.IsSubscribed]
  | data topic payload =>
      have hne : EventBit.mqttSubscribe ≠ .mqttGotUpdate := by
        decide
      simp [mqttsHiveMQHandler, MqttEvent.IsSubscribed, mem_eTasks_dataCase_of_ne hne]
  | subscribed msgId =>
      simp [mqttsHiveMQHandler, MqttEvent.IsSubscribed, EventGroup.setBit]
  | error => simp [mqttsHiveMQHandler, MqttEvent.IsSubscribed, EventGroup.clearBit]
  | disconnected => simp [mqttsHiveMQHandler, MqttEvent.IsSubscribed]
  | other => simp [mqttsHiveMQHandler, MqttEvent.IsSubscribed]

theorem mqttSubscribe_iff_latched {eTasks : EventGroup}
    (hclear : EventBit.mqttSubscribe ∉ eTasks) (reason : ResetReason)
    (history : List MqttEvent) :
    EventBit.mqttSubscribe ∈ (mqttAfter reason eTasks history).eTasks <->
      Latched MqttEvent.IsSubscribed (fun event => event = .error) history := by
  refine iff_latched
    (fun history => EventBit.mqttSubscribe ∈ (mqttAfter reason eTasks history).eTasks)
    hclear ?_ history
  intro past event
  rw [mqttAfter, stateAfter_snoc]
  exact mqttSubscribe_handler_iff reason _ event

theorem mqttSubscribe_acknowledged {eTasks : EventGroup}
    (hclear : EventBit.mqttSubscribe ∉ eTasks) (reason : ResetReason)
    (history : List MqttEvent) :
    (EventBit.mqttSubscribe ∈ (mqttAfter reason eTasks history).eTasks ->
      Latched MqttEvent.IsSubscribed (fun event => event = .error) history) ∧
    (Latched MqttEvent.IsSubscribed MqttEvent.EndsSubscription history ->
      EventBit.mqttSubscribe ∈ (mqttAfter reason eTasks history).eTasks) := by
  have hbit := mqttSubscribe_iff_latched hclear reason history
  constructor
  · exact hbit.mp
  · intro h
    exact hbit.mpr (h.mono fun _ => Or.inl)

/-- The client connects and one of the four subscriptions is acknowledged. -/
def firstAcknowledgement : List MqttEvent :=
  [.connected, .subscribed 1]

theorem topicOf_of_latched {topicOf : Int -> String} {topic : String}
    {Clears : MqttEvent -> Prop}
    (h : Latched (Acknowledges topicOf topic) Clears firstAcknowledgement) :
    topicOf 1 = topic := by
  rcases h.exists_mem with ⟨event, hmem, msgId, rfl, htopic⟩
  simp only [firstAcknowledgement, List.mem_cons, List.not_mem_nil, or_false] at hmem
  rcases hmem with hconnected | hsubscribed
  · cases hconnected
  · cases hsubscribed
    exact htopic

/-- One acknowledgement sets the bit, whichever of the four topics it is about. -/
theorem mqttSubscribe_after_one_acknowledgement :
    EventBit.mqttSubscribe ∈ (mqttAfter .powerOn ∅ firstAcknowledgement).eTasks ∧
      forall topicOf, ¬ SubscribedToAll topicOf firstAcknowledgement := by
  refine ⟨by decide, ?_⟩
  intro topicOf h
  rcases h with ⟨_, hall⟩
  have hota := topicOf_of_latched (hall "car/ota" (by decide))
  have hlogs := topicOf_of_latched (hall "car/logs" (by decide))
  rw [hota] at hlogs
  exact absurd hlogs (by decide)

theorem mqttSubscribe_acknowledged_once :
    (EventBit.mqttSubscribe ∈ (mqttAfter .powerOn ∅ firstAcknowledgement).eTasks ->
      Latched MqttEvent.IsSubscribed (fun event => event = .error) firstAcknowledgement) ∧
    (Latched MqttEvent.IsSubscribed MqttEvent.EndsSubscription firstAcknowledgement ->
      EventBit.mqttSubscribe ∈ (mqttAfter .powerOn ∅ firstAcknowledgement).eTasks) :=
  mqttSubscribe_acknowledged (by decide) .powerOn firstAcknowledgement

end Mqtt
end CarCleaner
