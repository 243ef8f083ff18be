import CarCleaner.Ota.Accounts
import CarCleaner.Tasks.Shared

/-!
# The update inside the firmware

The update goes on between `ota_task`, the messages that ask for it and the frames that
show its percent.
-/

namespace CarCleaner
namespace Tasks

open Foundation
open Firmware
open Mqtt
open Ota
open Oled
open Logs

def requestsUpdate : MqttEvent -> Bool
  | .data topic payload =>
      decide
        (snprintfBytes 128 topic = literal "car/ota" ∧
          snprintfBytes 256 payload = literal "true")
  | _ => false

/-- The update sees the requests, the steps of its task and two steps of a frame. -/
def otaInputs (s : FirmwareState) : FirmwareInput -> List OtaInput
  | .mqtt event => if requestsUpdate event then [.gotUpdate] else []
  | .ota answer => [.ota answer]
  | .oled =>
      match s.oled.point with
      | .readingBits => [.oled]
      | .updating => [.oled]
      | _ => []
  | _ => []

/-- Event groups that the update cannot tell apart. -/
def SameOtaBits (eTasks other : EventGroup) : Prop :=
  (EventBit.mqttGotUpdate ∈ eTasks <-> EventBit.mqttGotUpdate ∈ other) ∧
    (EventBit.otaBitInProgress ∈ eTasks <-> EventBit.otaBitInProgress ∈ other)

theorem SameOtaBits.setBit {eTasks other : EventGroup} (h : SameOtaBits eTasks other)
    (bit : EventBit) : SameOtaBits (eTasks.setBit bit) (other.setBit bit) := by
  constructor
  · rw [EventGroup.setBit, EventGroup.setBit, Finset.mem_insert, Finset.mem_insert, h.1]
  · rw [EventGroup.setBit, EventGroup.setBit, Finset.mem_insert, Finset.mem_insert, h.2]

theorem SameOtaBits.clearBit {eTasks other : EventGroup} (h : SameOtaBits eTasks other)
    (bit : EventBit) : SameOtaBits (eTasks.clearBit bit) (other.clearBit bit) := by
  constructor
  · rw [EventGroup.clearBit, EventGroup.clearBit, Finset.mem_erase, Finset.mem_erase, h.1]
  · rw [EventGroup.clearBit, EventGroup.clearBit, Finset.mem_erase, Finset.mem_erase, h.2]

/-- The update, as far as it looks at the event group. -/
def SameOta (s : FirmwareState) (o : OtaSystem) : Prop :=
  o = s.ota.withBits o.eTasks ∧ SameOtaBits s.eTasks o.eTasks

theorem otaTask_withBits {o next : OtaSystem} {answer : OtaAnswer}
    (h : otaTask o answer = .ok next) {other : EventGroup}
    (hbits : SameOtaBits o.eTasks other) :
    exists other', otaTask (o.withBits other) answer = .ok (next.withBits other') ∧
      SameOtaBits next.eTasks other' := by
  rcases o with ⟨point, handle, size, percent, inFrame, level, eTasks, q, trace⟩
  change SameOtaBits eTasks other at hbits
  cases point with
  | waiting =>
      simp only [otaTask] at h
      simp only [otaTask, OtaSystem.withBits, <- hbits.1]
      split at h
      · next hset =>
          cases h
          rw [if_pos hset]
          exact ⟨_, rfl, hbits.clearBit _⟩
      · next hset =>
          cases h
          rw [if_neg hset]
          exact ⟨_, rfl, hbits⟩
  | beginning =>
      simp only [otaTask] at h
      simp only [otaTask, OtaSystem.withBits]
      split at h
      · next herr =>
          cases h
          rw [if_pos herr]
          exact ⟨_, rfl, hbits⟩
      · next herr =>
          cases h
          rw [if_neg herr]
          exact ⟨_, rfl, hbits.setBit _⟩
  | performing =>
      simp only [otaTask] at h
      simp only [otaTask, OtaSystem.withBits]
      split at h
      · next herr =>
          rcases bind_eq_ok h with ⟨otaPercent, hpercent, hpure⟩
          cases hpure
          rw [if_pos herr, hpercent]
          exact ⟨_, rfl, hbits⟩
      · next herr =>
          cases h
          rw [if_neg herr]
          exact ⟨_, rfl, hbits.clearBit _⟩
  | sending =>
      cases h
      exact ⟨_, rfl, hbits⟩
  | finishing =>
      simp only [otaTask] at h
      simp only [otaTask, OtaSystem.withBits]
      split at h
      · next herr =>
          cases h
          rw [if_pos herr]
          exact ⟨_, rfl, hbits⟩
      · next herr =>
          cases h
          rw [if_neg herr]
          exact ⟨_, rfl, hbits⟩
  | pausing =>
      cases h
      exact ⟨_, rfl, hbits⟩
  | restarted =>
      cases h
      exact ⟨_, rfl, hbits⟩

theorem oledFrame_withBits (o : OtaSystem) {other : EventGroup}
    (hbits : SameOtaBits o.eTasks other) :
    oledFrame (o.withBits other) = (oledFrame o).withBits other := by
  rcases o with ⟨point, handle, size, percent, inFrame, level, eTasks, q, trace⟩
  change SameOtaBits eTasks other at hbits
  cases inFrame with
  | true =>
      simp only [oledFrame, OtaSystem.withBits, if_true]
      cases q.receive? with
      | none => rfl
      | some received => rfl
  | false =>
      simp only [oledFrame, OtaSystem.withBits, <- hbits.2]
      split
      · next hframe => cases hframe
      · split
        · rfl
        · rfl

theorem sameOtaBits_handler (reason : ResetReason) (hiveMQ : HiveMQ) (event : MqttEvent)
    {other : EventGroup} (hbits : SameOtaBits hiveMQ.eTasks other) :
    SameOtaBits (mqttsHiveMQHandler reason hiveMQ event).1.eTasks
      (if requestsUpdate event then other.setBit .mqttGotUpdate else other) := by
  cases event with
  | connected => exact hbits
  | data topic payload =>
      change SameOtaBits (dataCase hiveMQ topic payload).eTasks _
      rw [eTasks_dataCase]
      simp only [requestsUpdate, decide_eq_true_eq]
      split
      · exact hbits.setBit _
      · exact hbits
  | subscribed msgId =>
      exact ⟨(mem_setBit_of_ne (by decide) _).trans hbits.1,
        (mem_setBit_of_ne (by decide) _).trans hbits.2⟩
  | error =>
      exact ⟨(mem_clearBit_of_ne (by decide) _).trans hbits.1,
        (mem_clearBit_of_ne (by decide) _).trans hbits.2⟩
  | disconnected => exact hbits
  | other => exact hbits

theorem otaStep_of_running {o : OtaSystem} (h : o.point ≠ .restarted) (i : OtaInput) :
    otaStep o i =
      match i with
      | .gotUpdate => .ok { o with eTasks := o.eTasks.setBit .mqttGotUpdate }
      | .ota answer => otaTask o answer
      | .oled => .ok (oledFrame o) :=
  if_neg h

/-- A frame without a look at the update leaves the update alone. -/
theorem ota_oledStep (board : Board) (s : FirmwareState)
    (hpoint : otaInputs s .oled = []) : (s.oledStep board).ota = s.ota := by
  unfold FirmwareState.oledStep
  cases holed : s.oled.point with
  | readingBits => simp only [otaInputs, holed, reduceCtorEq] at hpoint
  | updating => simp only [otaInputs, holed, reduceCtorEq] at hpoint
  | _ => rfl

theorem ota_oledStep_frame (board : Board) (s : FirmwareState)
    (hpoint : otaInputs s .oled ≠ []) :
    otaInputs s .oled = [.oled] ∧ (s.oledStep board).ota = oledFrame s.otaSystem := by
  unfold FirmwareState.oledStep
  cases holed : s.oled.point with
  | readingBits => exact ⟨by rw [otaInputs, holed], rfl⟩
  | updating => exact ⟨by rw [otaInputs, holed], rfl⟩
  | _ => exact absurd (by rw [otaInputs, holed]) hpoint

theorem point_oledStep (board : Board) (s : FirmwareState) :
    (s.oledStep board).ota.point = s.ota.point := by
  by_cases hseen : otaInputs s .oled = []
  · rw [ota_oledStep board s hseen]
  · rw [(ota_oledStep_frame board s hseen).2, point_oledFrame]
    rfl

theorem SameOta.of_untouched {board : Board} {s s' : FirmwareState} {i : FirmwareInput}
    {o : OtaSystem} (h : SameOta s o) (hacted : Acted board s i s')
    (hpart : writesPart i .ota = false) (hupdate : writesBit i .mqttGotUpdate = false)
    (hprogress : writesBit i .otaBitInProgress = false) : SameOta s' o := by
  rcases h with ⟨hsame, hbits⟩
  have hota : s'.ota = s.ota := samePart_of_acted .ota hacted hpart
  refine ⟨?_, ?_, ?_⟩
  · rw [hota]
    exact hsame
  · rw [mem_eTasks_of_acted hacted hupdate]
    exact hbits.1
  · rw [mem_eTasks_of_acted hacted hprogress]
    exact hbits.2

theorem ota_run {board : Board} {history : List FirmwareInput} {s : FirmwareState}
    (hs : firmwareAfter board history = .ok s) :
    exists o, otaAfter ∅ (seenBy board otaInputs history) = .ok o ∧ SameOta s o := by
  refine part_run ⟨rfl, Iff.rfl, Iff.rfl⟩ ?_ hs
  intro s o i s' hR henabled hacted
  have hpoint : o.point ≠ .restarted := by
    rw [hR.1]
    exact henabled.1
  have hsys : s.otaSystem.withBits o.eTasks = o := hR.1.symm
  cases hacted with
  | mqtt event =>
      have hbits := sameOtaBits_handler board.reason s.mqttSystem event hR.2
      cases hrequest : requestsUpdate event with
      | true =>
          rw [hrequest, if_pos rfl] at hbits
          refine ⟨o.withBits (o.eTasks.setBit .mqttGotUpdate), ?_, ?_, hbits⟩
          · rw [otaInputs, hrequest, if_pos rfl, outcomeAfter_singleton,
              otaStep_of_running hpoint]
            rfl
          · have hset := congrArg (OtaSystem.withBits · (o.eTasks.setBit .mqttGotUpdate)) hR.1
            exact hset
      | false =>
          rw [hrequest, if_neg Bool.false_ne_true] at hbits
          refine ⟨o, ?_, hR.1, hbits⟩
          rw [otaInputs, hrequest, if_neg Bool.false_ne_true]
          rfl
  | @ota answer next hnext =>
      rcases otaTask_withBits hnext hR.2 with ⟨other, hother, hbits⟩
      rw [hsys] at hother
      refine ⟨next.withBits other, ?_, rfl, hbits⟩
      rw [otaInputs, outcomeAfter_singleton, otaStep_of_running hpoint]
      exact hother
  | oled hbuffer =>
      have heTasks := eTasks_oledStep board s
      by_cases hframe : otaInputs s .oled = []
      · rw [hframe]
        refine ⟨o, rfl, ?_, ?_⟩
        · rw [ota_oledStep board s hframe]
          exact hR.1
        · rw [heTasks]
          exact hR.2
      · rcases ota_oledStep_frame board s hframe with ⟨hinputs, hota⟩
        have hother := oledFrame_withBits s.otaSystem hR.2
        rw [hsys] at hother
        refine ⟨oledFrame o, ?_, ?_, ?_⟩
        · rw [hinputs, outcomeAfter_singleton, otaStep_of_running hpoint]
        · rw [hota, eTasks_oledFrame]
          exact hother
        · rw [heTasks, eTasks_oledFrame]
          exact hR.2
  | appMain => exact ⟨o, rfl, hR.of_untouched (.appMain) rfl rfl rfl⟩
  | @logs input next hlogs hhandle =>
      refine ⟨o, rfl, hR.of_untouched (.logs hlogs hhandle) rfl ?_ ?_⟩
      · cases input <;> rfl
      · cases input <;> rfl
  | servo hnext =>
      have hacted : Acted board s .servo _ := .servo hnext
      exact ⟨o, rfl, hR.of_untouched hacted rfl rfl rfl⟩
  | uart => exact ⟨o, rfl, hR.of_untouched .uart rfl rfl rfl⟩
  | sensor => exact ⟨o, rfl, hR.of_untouched .sensor rfl rfl rfl⟩
  | motor hnext => exact ⟨o, rfl, hR.of_untouched (.motor hnext) rfl rfl rfl⟩
  | imu attempt => exact ⟨o, rfl, hR.of_untouched (.imu attempt) rfl rfl rfl⟩
  | alarm =>
      have hacted : Acted board s .alarm _ := .alarm
      exact ⟨o, rfl, hR.of_untouched hacted rfl rfl rfl⟩

end Tasks
end CarCleaner
