import CarCleaner.Tasks.Shared

/-!
# The logs inside the firmware

The hook, the handler of the driver and the log sender look at the Wi-Fi bit alone, so what
the other parts write to the event group makes no difference to them.
-/

namespace CarCleaner
namespace Tasks

open Foundation
open Firmware
open Wifi
open Logs

def logInputs : FirmwareInput -> List LogInput
  | .logs input => [input]
  | _ => []

/-- The log system, as far as it looks at the event group. -/
def SameLogs (s : FirmwareState) (l : LogSystem) : Prop :=
  l = s.logs.withBits l.eTasks ∧
    (EventBit.wifiBitGotIp ∈ s.eTasks <-> EventBit.wifiBitGotIp ∈ l.eTasks)

theorem deliver_ok_of_ok {driver : WifiDriver} {eTasks eTasks' : EventGroup}
    {event : WifiEvent} {calls : List WifiCall}
    (h : deliver driver eTasks event = .ok (eTasks', calls)) (other : EventGroup) :
    exists other', deliver driver other event = .ok (other', calls) := by
  cases event with
  | staStart =>
      rcases bind_eq_ok h with ⟨_, hcheck, hpure⟩
      cases hpure
      exact ⟨other, by simp only [deliver, wifiHandler, registered, if_true, hcheck]; rfl⟩
  | staConnected =>
      cases h
      exact ⟨other, rfl⟩
  | staDisconnected =>
      simp only [deliver, wifiHandler, registered, if_true] at h ⊢
      split at h
      · next hfailed =>
          cases h
          exact ⟨other, if_pos hfailed⟩
      · next hconnected =>
          cases h
          exact ⟨other, if_neg hconnected⟩
  | otherWifi =>
      cases h
      exact ⟨other, rfl⟩
  | staGotIp ip =>
      rcases bind_eq_ok h with ⟨_, hcheck, hpure⟩
      cases hpure
      exact ⟨_, by simp only [deliver, wifiHandler, registered, if_true, hcheck]; rfl⟩
  | staLostIp =>
      cases h
      exact ⟨other, rfl⟩
  | otherIp =>
      cases h
      exact ⟨other, rfl⟩

theorem espLogsPapertrailTask_withBits (l : LogSystem) (socket : Int) {other : EventGroup}
    (hbit : EventBit.wifiBitGotIp ∈ l.eTasks <-> EventBit.wifiBitGotIp ∈ other) :
    espLogsPapertrailTask (l.withBits other) socket =
      (espLogsPapertrailTask l socket).withBits other := by
  rcases l with ⟨sock, early, qLogs, eTasks, point, logBuffer, isNewData, uart0, sent⟩
  change EventBit.wifiBitGotIp ∈ eTasks <-> EventBit.wifiBitGotIp ∈ other at hbit
  cases point with
  | waitingForIp =>
      simp only [espLogsPapertrailTask, LogSystem.withBits, <- hbit]
      split
      · rfl
      · rfl
  | creatingSocket => rfl
  | waitingForBit =>
      simp only [espLogsPapertrailTask, LogSystem.withBits, <- hbit]
      split
      · rfl
      · rfl
  | receiving =>
      simp only [espLogsPapertrailTask, LogSystem.withBits]
      split
      · rfl
      · rfl
  | draining =>
      by_cases hsock : 0 ≤ sock
      · simp only [espLogsPapertrailTask, LogSystem.withBits, if_pos hsock]
        exact if_pos hsock
      · simp only [espLogsPapertrailTask, LogSystem.withBits, if_neg hsock]
        exact if_neg hsock
  | sending =>
      cases isNewData with
      | true => rfl
      | false => rfl

/-- The log system looks at the Wi-Fi bit and at nothing else of the event group. -/
theorem logStep_of_bit {l l' : LogSystem} {input : LogInput} (h : logStep l input = .ok l')
    {other : EventGroup}
    (hbit : EventBit.wifiBitGotIp ∈ l.eTasks <-> EventBit.wifiBitGotIp ∈ other) :
    exists other', logStep (l.withBits other) input = .ok (l'.withBits other') ∧
      (EventBit.wifiBitGotIp ∈ l'.eTasks <-> EventBit.wifiBitGotIp ∈ other') := by
  cases input with
  | wifi event driver =>
      rcases bind_eq_ok h with ⟨⟨eTasks, calls⟩, hdeliver, hpure⟩
      cases hpure
      rcases deliver_ok_of_ok hdeliver other with ⟨other', hother⟩
      refine ⟨other', ?_, ?_⟩
      · change (deliver driver other event >>= _) = _
        rw [hother]
        rfl
      · change _ ∈ eTasks <-> _
        rw [mem_deliver_iff hdeliver, mem_deliver_iff hother, hbit]
  | log text stack =>
      cases h
      refine ⟨other, congrArg Except.ok ?_, ?_⟩
      · by_cases honline : l.Online
        · rw [newHookPapertrailFunction_of_online honline,
            newHookPapertrailFunction_of_online (s := l.withBits other)
              ⟨honline.1, hbit.mp honline.2⟩]
          rfl
        · rw [newHookPapertrailFunction_of_not_online honline,
            newHookPapertrailFunction_of_not_online (s := l.withBits other)
              fun h => honline ⟨h.1, hbit.mpr h.2⟩]
          rfl
      · by_cases honline : l.Online
        · rw [newHookPapertrailFunction_of_online honline]
          exact hbit
        · rw [newHookPapertrailFunction_of_not_online honline]
          exact hbit
  | sender socket =>
      cases h
      refine ⟨other, congrArg Except.ok ?_, ?_⟩
      · exact espLogsPapertrailTask_withBits l socket hbit
      · rw [eTasks_espLogsPapertrailTask]
        exact hbit

theorem writesPart_logs {i : FirmwareInput} (hi : logInputs i = []) :
    writesPart i .logs = false := by
  cases i with
  | logs input => cases hi
  | _ => rfl

theorem writesBit_wifi {i : FirmwareInput} (hi : logInputs i = []) :
    writesBit i .wifiBitGotIp = false := by
  cases i with
  | logs input => cases hi
  | _ => rfl

theorem logs_run {board : Board} {history : List FirmwareInput} {s : FirmwareState}
    (hs : firmwareAfter board history = .ok s) :
    exists l, logsAfter (seenBy board (fun _ i => logInputs i) history) = .ok l ∧
      SameLogs s l := by
  refine part_run ⟨rfl, Iff.rfl⟩ ?_ hs
  intro s l i s' hR _ hacted
  rcases hR with ⟨hsame, hbit⟩
  by_cases hi : logInputs i = []
  · rw [hi]
    refine ⟨l, rfl, ?_, ?_⟩
    · have hlogs : s'.logs = s.logs := samePart_of_acted .logs hacted (writesPart_logs hi)
      rw [hlogs]
      exact hsame
    · rw [mem_eTasks_of_acted hacted (writesBit_wifi hi)]
      exact hbit
  · cases hacted with
    | @logs input next hlogs hhandle =>
        rcases logStep_of_bit hlogs hbit with ⟨other, hother, hbit'⟩
        refine ⟨next.withBits other, ?_, rfl, hbit'⟩
        rw [logInputs, outcomeAfter_singleton, hsame]
        exact hother
    | _ => exact absurd rfl hi

end Tasks
end CarCleaner
