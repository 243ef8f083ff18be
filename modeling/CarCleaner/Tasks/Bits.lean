import CarCleaner.Mqtt.StatusBit
import CarCleaner.Ota.Accounts
import CarCleaner.Tasks.Time

/-!
# What the bits say

All parts write to one event group.  A bit belongs to one part, or to the two sides of a
request, and whatever the others do in between, it says what its owners mean by it.
-/

namespace CarCleaner
namespace Tasks

open Foundation
open Firmware
open Wifi
open Mqtt
open Ota
open Logs

def wifiEvents : FirmwareInput -> List WifiEvent
  | .logs (.wifi event _) => [event]
  | _ => []

def mqttEvents : FirmwareInput -> List MqttEvent
  | .mqtt event => [event]
  | _ => []

/-- A message asks for an update, or `ota_task` looks for one. -/
inductive UpdateMark where
  | requested
  | looked
deriving DecidableEq, Repr

def updateMarks (s : FirmwareState) : FirmwareInput -> List UpdateMark
  | .mqtt event => if requestsUpdate event then [.requested] else []
  | .ota _ => if s.ota.point = .waiting then [.looked] else []
  | _ => []

/-- Each bit against what has happened; nothing ever sets the bits of the distance. -/
structure BitsMean (board : Board) (history : List FirmwareInput) (s : FirmwareState) :
    Prop where
  wifiBitGotIp : .wifiBitGotIp ∈ s.eTasks <->
    exists event, event ∈ seenBy board (fun _ i => wifiEvents i) history ∧ event.GotIp
  mqttSubscribe : .mqttSubscribe ∈ s.eTasks <->
    Latched MqttEvent.IsSubscribed (fun event => event = .error)
      (seenBy board (fun _ i => mqttEvents i) history)
  mqttGotUpdate : .mqttGotUpdate ∈ s.eTasks <->
    Latched (fun mark => mark = .requested) (fun mark => mark = .looked)
      (seenBy board updateMarks history)
  otaBitInProgress : .otaBitInProgress ∈ s.eTasks <->
    s.ota.point = .performing ∨ s.ota.point = .sending
  syncGotTime : .syncGotTime ∈ s.eTasks <-> Synced board s
  distanceInDiapasone : .distanceInDiapasone ∉ s.eTasks
  distanceOutDiapasone : .distanceOutDiapasone ∉ s.eTasks

theorem writesBit_logs {bit : EventBit} (h : bit ≠ .wifiBitGotIp) (input : LogInput) :
    writesBit (.logs input) bit = false := by
  cases bit with
  | wifiBitGotIp => exact absurd rfl h
  | _ => cases input <;> rfl

theorem writesBit_distance (i : FirmwareInput) :
    writesBit i .distanceInDiapasone = false ∧ writesBit i .distanceOutDiapasone = false := by
  cases i with
  | logs input => exact ⟨writesBit_logs (by decide) input, writesBit_logs (by decide) input⟩
  | _ => exact ⟨rfl, rfl⟩

/-!
# Bits that follow what is seen
-/

section

variable {board : Board} {mark : Type} {project : FirmwareState -> FirmwareInput -> List mark}
  {bit : EventBit} {Sets Clears : mark -> Prop}

/-- How a step treats a bit, beside the mark of the step. -/
inductive Follows (project : FirmwareState -> FirmwareInput -> List mark) (bit : EventBit)
    (Sets Clears : mark -> Prop) (s : FirmwareState) (i : FirmwareInput) (s' : FirmwareState) :
    Prop where
  | unmarked (hmarks : project s i = []) (hbit : bit ∈ s'.eTasks <-> bit ∈ s.eTasks)
  | marked (m : mark) (hmarks : project s i = [m])
      (hbit : bit ∈ s'.eTasks <-> Sets m ∨ (bit ∈ s.eTasks ∧ ¬ Clears m))

theorem Follows.of_untouched {s s' : FirmwareState} {i : FirmwareInput}
    (hacted : Acted board s i s') (hmarks : project s i = []) (hbit : writesBit i bit = false) :
    Follows project bit Sets Clears s i s' :=
  .unmarked hmarks (mem_eTasks_of_acted hacted hbit)

theorem bit_latched (hstart : bit ∉ (FirmwareState.start board).eTasks)
    (hstep : forall s i s', Acted board s i s' -> Follows project bit Sets Clears s i s')
    {history : List FirmwareInput} {s : FirmwareState}
    (hs : firmwareAfter board history = .ok s) :
    bit ∈ s.eTasks <-> Latched Sets Clears (seenBy board project history) := by
  refine firmware_invariant
    (fun past s => bit ∈ s.eTasks <-> Latched Sets Clears (seenBy board project past))
    (iff_of_false hstart not_latched_nil) ?_ ?_ hs
  · intro past i s hpast hidle hlatched
    rw [seenBy_idle _ hpast hidle]
    exact hlatched
  · intro past i s s' hpast henabled hacted hlatched
    rw [seenBy_enabled _ hpast henabled]
    cases hstep s i s' hacted with
    | unmarked hmarks hbit =>
        rw [hmarks, List.append_nil, hbit]
        exact hlatched
    | marked m hmarks hbit =>
        rw [hmarks, latched_snoc, hbit, hlatched]

end

theorem latched_of_never_cleared {input : Type} {Sets : input -> Prop} {history : List input} :
    Latched Sets (fun _ => False) history <-> exists i, i ∈ history ∧ Sets i := by
  constructor
  · exact Latched.exists_mem
  · intro h
    rcases h with ⟨i, hmem, hset⟩
    rcases List.append_of_mem hmem with ⟨before, after, rfl⟩
    exact ⟨before, i, after, rfl, hset, fun _ _ => id⟩

theorem follows_wifiBitGotIp {board : Board} {s s' : FirmwareState} {i : FirmwareInput}
    (hacted : Acted board s i s') :
    Follows (fun _ i => wifiEvents i) .wifiBitGotIp WifiEvent.GotIp (fun _ => False) s i s' := by
  cases i with
  | logs input =>
      cases input with
      | wifi event driver =>
          cases hacted with
          | logs hlogs _ =>
              rcases logStep_wifi hlogs with ⟨eTasks, rfl, hbit⟩
              refine .marked event rfl ?_
              rw [and_iff_left not_false]
              exact hbit
      | _ => exact .of_untouched hacted rfl rfl
  | _ => exact .of_untouched hacted rfl rfl

theorem follows_mqttSubscribe {board : Board} {s s' : FirmwareState} {i : FirmwareInput}
    (hacted : Acted board s i s') :
    Follows (fun _ i => mqttEvents i) .mqttSubscribe MqttEvent.IsSubscribed
      (fun event => event = .error) s i s' := by
  cases i with
  | mqtt event =>
      cases hacted with
      | mqtt event =>
          exact .marked event rfl (mqttSubscribe_handler_iff board.reason s.mqttSystem event)
  | logs input =>
      exact .of_untouched hacted rfl (writesBit_logs (by decide) input)
  | _ => exact .of_untouched hacted rfl rfl

/-- `ota_task` looks at the bit in front of a download only, and clears it there. -/
theorem mqttGotUpdate_otaTask {o o' : OtaSystem} {answer : OtaAnswer}
    (h : otaTask o answer = .ok o') :
    .mqttGotUpdate ∈ o'.eTasks <-> .mqttGotUpdate ∈ o.eTasks ∧ o.point ≠ .waiting := by
  by_cases hpoint : o.point = .waiting
  · simp only [otaTask, hpoint] at h
    split at h
    · cases h
      simp [EventGroup.clearBit, hpoint]
    · next hbit =>
        cases h
        exact iff_of_false hbit fun h => h.2 hpoint
  · rw [and_iff_left hpoint]
    cases transition_of_otaTask h with
    | woken hwaiting => exact absurd hwaiting hpoint
    | began => exact mem_setBit_of_ne (by decide) _
    | downloadEnded => exact mem_clearBit_of_ne (by decide) _
    | _ => rfl

theorem follows_mqttGotUpdate {board : Board} {s s' : FirmwareState} {i : FirmwareInput}
    (hacted : Acted board s i s') :
    Follows updateMarks .mqttGotUpdate (fun mark => mark = .requested)
      (fun mark => mark = .looked) s i s' := by
  cases i with
  | mqtt event =>
      cases hacted with
      | mqtt event =>
          have hbits := (sameOtaBits_handler board.reason s.mqttSystem event
            ⟨Iff.rfl, Iff.rfl⟩).1
          cases hrequest : requestsUpdate event with
          | true =>
              rw [hrequest, if_pos rfl] at hbits
              refine .marked .requested (by rw [updateMarks, hrequest, if_pos rfl]) ?_
              exact iff_of_true (hbits.mpr (Finset.mem_insert_self _ _)) (Or.inl rfl)
          | false =>
              rw [hrequest, if_neg Bool.false_ne_true] at hbits
              exact .unmarked (by rw [updateMarks, hrequest, if_neg Bool.false_ne_true]) hbits
  | ota answer =>
      cases hacted with
      | ota hota =>
          have hbit := mqttGotUpdate_otaTask hota
          by_cases hpoint : s.ota.point = .waiting
          · refine .marked .looked (if_pos hpoint) (hbit.trans ?_)
            exact iff_of_false (fun h => h.2 hpoint) (by simp)
          · exact .unmarked (if_neg hpoint) (hbit.trans (and_iff_left hpoint))
  | logs input =>
      exact .of_untouched hacted rfl (writesBit_logs (by decide) input)
  | _ => exact .of_untouched hacted rfl rfl

/-!
# Bits that follow the state
-/

theorem otaBitInProgress_otaTask {o o' : OtaSystem} {answer : OtaAnswer}
    (h : otaTask o answer = .ok o')
    (hbit : .otaBitInProgress ∈ o.eTasks <-> o.point = .performing ∨ o.point = .sending) :
    .otaBitInProgress ∈ o'.eTasks <-> o'.point = .performing ∨ o'.point = .sending := by
  cases transition_of_otaTask h with
  | stayed => exact hbit
  | woken hpoint =>
      rw [mem_clearBit_of_ne (by decide), hbit, hpoint]
      simp
  | began => exact iff_of_true (Finset.mem_insert_self _ _) (Or.inl rfl)
  | downloadEnded => exact iff_of_false (Finset.notMem_erase _ _) (by simp)
  | received hpoint => exact iff_of_true (hbit.mpr (Or.inl hpoint)) (Or.inr rfl)
  | sent hpoint => exact iff_of_true (hbit.mpr (Or.inr hpoint)) (Or.inl rfl)
  | beginFailed hpoint =>
      rw [hbit, hpoint]
      simp
  | restarted hpoint =>
      rw [hbit, hpoint]
      simp
  | finishFailed hpoint =>
      rw [hbit, hpoint]
      simp
  | paused hpoint =>
      rw [hbit, hpoint]
      simp

theorem otaBitInProgress_iff {board : Board} {history : List FirmwareInput}
    {s : FirmwareState} (hs : firmwareAfter board history = .ok s) :
    .otaBitInProgress ∈ s.eTasks <-> s.ota.point = .performing ∨ s.ota.point = .sending := by
  refine firmware_invariant
    (fun _ s => .otaBitInProgress ∈ s.eTasks <->
      s.ota.point = .performing ∨ s.ota.point = .sending)
    (iff_of_false (Finset.notMem_empty _) (by simp [FirmwareState.start, OtaSystem.boot]))
    (fun _ _ _ _ _ => id) ?_ hs
  intro past i s s' _ _ hacted hbit
  cases i with
  | ota answer =>
      cases hacted with
      | ota hota => exact otaBitInProgress_otaTask hota hbit
  | oled =>
      have hpoint : s'.ota.point = s.ota.point := by
        cases hacted with
        | oled => exact point_oledStep board s
      rw [mem_eTasks_of_acted hacted rfl, hpoint]
      exact hbit
  | logs input =>
      have hota : s'.ota = s.ota := samePart_of_acted .ota hacted rfl
      rw [mem_eTasks_of_acted hacted (writesBit_logs (by decide) input), hota]
      exact hbit
  | _ =>
      have hota : s'.ota = s.ota := samePart_of_acted .ota hacted rfl
      rw [mem_eTasks_of_acted hacted rfl, hota]
      exact hbit

theorem syncGotTime_acted {board : Board} {s s' : FirmwareState} {i : FirmwareInput}
    (hacted : Acted board s i s') (hbit : .syncGotTime ∈ s.eTasks <-> Synced board s) :
    .syncGotTime ∈ s'.eTasks <-> Synced board s' := by
  by_cases hsync : i = .appMain ∧ (appMain board.branches)[s.pc]? = some (.call "time_sync")
  · rcases hsync with ⟨rfl, hat⟩
    cases hacted
    refine iff_of_true ?_ (synced_appMainStep_iff.mpr (Or.inr hat))
    simp only [FirmwareState.appMainStep, if_pos hat]
    exact Finset.mem_insert_self _ _
  · have hsynced : Synced board s' <-> Synced board s := by
      constructor
      · intro h'
        by_contra h
        exact hsync (timeSync_of_sync h hacted h')
      · intro h
        exact (h.acted hacted).1
    rw [hsynced, <- hbit]
    by_cases hi : i = .appMain
    · subst hi
      cases hacted
      simp only [FirmwareState.appMainStep, if_neg fun hat => hsync ⟨rfl, hat⟩]
      split
      · rfl
      · rfl
    · refine mem_eTasks_of_acted hacted ?_
      cases i with
      | appMain => exact absurd rfl hi
      | logs input => exact writesBit_logs (by decide) input
      | _ => rfl

theorem syncGotTime_iff {board : Board} {history : List FirmwareInput} {s : FirmwareState}
    (hs : firmwareAfter board history = .ok s) :
    .syncGotTime ∈ s.eTasks <-> Synced board s := by
  refine firmware_invariant (fun _ s => .syncGotTime ∈ s.eTasks <-> Synced board s) ?_
    (fun _ _ _ _ _ => id) (fun _ _ _ _ _ _ hacted => syncGotTime_acted hacted) hs
  exact iff_of_false (Finset.notMem_empty _) List.not_mem_nil

/-- Bits that no step writes stay clear. -/
theorem bit_clear {board : Board} {bit : EventBit}
    (hbit : forall i, writesBit i bit = false) {history : List FirmwareInput}
    {s : FirmwareState} (hs : firmwareAfter board history = .ok s) : bit ∉ s.eTasks := by
  refine firmware_invariant (fun _ s => bit ∉ s.eTasks) (Finset.notMem_empty _)
    (fun _ _ _ _ _ => id) ?_ hs
  intro past i s s' _ _ hacted hclear
  rw [mem_eTasks_of_acted hacted (hbit i)]
  exact hclear

/-!
# All bits at any time
-/

/-- In every state of a run, each bit means what it is set for. -/
theorem bits_mean {board : Board} {history : List FirmwareInput} {s : FirmwareState}
    (hs : firmwareAfter board history = .ok s) : BitsMean board history s where
  wifiBitGotIp := by
    rw [<- latched_of_never_cleared]
    exact bit_latched (Finset.notMem_empty _) (fun _ _ _ => follows_wifiBitGotIp) hs
  mqttSubscribe :=
    bit_latched (Finset.notMem_empty _) (fun _ _ _ => follows_mqttSubscribe) hs
  mqttGotUpdate :=
    bit_latched (Finset.notMem_empty _) (fun _ _ _ => follows_mqttGotUpdate) hs
  otaBitInProgress := otaBitInProgress_iff hs
  syncGotTime := syncGotTime_iff hs
  distanceInDiapasone := bit_clear (fun i => (writesBit_distance i).1) hs
  distanceOutDiapasone := bit_clear (fun i => (writesBit_distance i).2) hs

theorem quietRun_bits_mean :
    exists s, firmwareAfter quietBoard quietRun = .ok s ∧ BitsMean quietBoard quietRun s := by
  rcases quietRun_ok with ⟨s, hs, _⟩
  exact ⟨s, hs, bits_mean hs⟩

end Tasks
end CarCleaner
